import Stencil.Table
import Mathlib.Data.List.Basic

/-!
# Entries written one after the other

What a table holds after a row of writes: every key has the value that was written last, and stands where it was written
first.
-/

set_option autoImplicit false

namespace Stencil.Table

variable {κ υ : Type} [BEq κ] [LawfulBEq κ]

theorem findEntries?_cons_self {key : κ} {e : κ × υ} (es : List (κ × υ)) (h : e.1 = key) :
    findEntries? key (e :: es) = some e.2 := by
  rw [findEntries?, if_pos (beq_iff_eq.mpr h)]

theorem findEntries?_cons_of_ne {key : κ} {e : κ × υ} (es : List (κ × υ)) (h : e.1 ≠ key) :
    findEntries? key (e :: es) = findEntries? key es := by
  rw [findEntries?, if_neg (by simpa using h)]

omit [LawfulBEq κ] in
theorem findEntries?_append (key : κ) (a b : List (κ × υ)) :
    findEntries? key (a ++ b) = (findEntries? key a).or (findEntries? key b) := by
  induction a with
  | nil => rfl
  | cons e a ih =>
    rw [List.cons_append, findEntries?, findEntries?, ih]
    split <;> rfl

/-- What is written last stays. -/
theorem find?_insertAll (t : Table κ υ) (es : List (κ × υ)) (key : κ) :
    (t.insertAll es).find? key = (findEntries? key es.reverse).or (t.find? key) := by
  classical
  induction es generalizing t with
  | nil => rfl
  | cons e es ih =>
    show ((t.insert e.1 e.2).insertAll es).find? key = _
    rw [ih, List.reverse_cons, findEntries?_append, Option.or_assoc, find?_insert]
    by_cases same : e.1 = key
    · rw [if_pos same, findEntries?_cons_self _ same]
      rfl
    · rw [if_neg same, findEntries?_cons_of_ne _ same]
      rfl

theorem find?_ofList (es : List (κ × υ)) (key : κ) : (ofList es : Table κ υ).find? key = findEntries? key es.reverse := by
  rw [ofList, find?_insertAll]
  exact Option.or_none

theorem mem_keys_of_find? {t : Table κ υ} {key : κ} {v : υ} (h : t.find? key = some v) : key ∈ t.keys := by
  obtain ⟨es⟩ := t
  change findEntries? key es = some v at h
  show key ∈ es.map Prod.fst
  induction es with
  | nil => cases h
  | cons e es ih =>
    rw [List.map_cons, List.mem_cons]
    by_cases same : e.1 = key
    · exact .inl same.symm
    · rw [findEntries?_cons_of_ne _ same] at h
      exact .inr (ih h)

theorem keys_insert (t : Table κ υ) (key : κ) (v : υ) :
    (t.insert key v).keys = if key ∈ t.keys then t.keys else t.keys ++ [key] := by
  obtain ⟨es⟩ := t
  show (insertEntries key v es).map Prod.fst = if key ∈ es.map Prod.fst then es.map Prod.fst else es.map Prod.fst ++ [key]
  induction es with
  | nil => rfl
  | cons e es ih =>
    by_cases same : e.1 = key
    · rw [insertEntries, if_pos (beq_iff_eq.mpr same), List.map_cons, List.map_cons, if_pos (List.mem_cons.mpr (.inl same.symm))]
    · rw [insertEntries, if_neg (by simpa using same), List.map_cons, List.map_cons, ih]
      by_cases old : key ∈ es.map Prod.fst
      · rw [if_pos old, if_pos (List.mem_cons_of_mem _ old)]
      · rw [if_neg old, if_neg]
        · rfl
        · rw [List.mem_cons]
          exact fun h => h.elim (fun h => same h.symm) old

theorem nodup_keys_insertAll {t : Table κ υ} (h : t.keys.Nodup) (es : List (κ × υ)) : (t.insertAll es).keys.Nodup := by
  induction es generalizing t with
  | nil => exact h
  | cons e es ih =>
    refine ih (t := t.insert e.1 e.2) ?_
    rw [keys_insert]
    split
    · exact h
    · next fresh =>
      refine List.nodup_append.mpr ⟨h, List.pairwise_singleton _ _, fun a ha b hb same => ?_⟩
      exact fresh (List.mem_singleton.mp hb ▸ same ▸ ha)

theorem findEntries?_reverse {es : List (κ × υ)} (h : (es.map Prod.fst).Nodup) (key : κ) :
    findEntries? key es.reverse = findEntries? key es := by
  induction es with
  | nil => rfl
  | cons e es ih =>
    rw [List.map_cons, List.nodup_cons] at h
    rw [List.reverse_cons, findEntries?_append, ih h.2]
    by_cases same : e.1 = key
    · have none_behind : findEntries? key es = none := by
        cases found : findEntries? key es with
        | none => rfl
        | some v => exact absurd (same ▸ mem_keys_of_find? (t := ⟨es⟩) found) h.1
      rw [none_behind, findEntries?_cons_self _ same, findEntries?_cons_self _ same]
      rfl
    · rw [findEntries?_cons_of_ne _ same, findEntries?_cons_of_ne _ same]
      exact Option.or_none

theorem find?_update {t later : Table κ υ} (h : later.keys.Nodup) (key : κ) :
    (t.update later).find? key = (later.find? key).or (t.find? key) := by
  rw [update, find?_insertAll, findEntries?_reverse h]
  rfl

end Stencil.Table
