import Stencil.Data.Order
import Mathlib.Data.List.Chain
import Mathlib.Data.List.InsertIdx
import Mathlib.Data.List.Perm.Basic
import Mathlib.Data.Set.List

/-!
# The sort sorts

Where the comparison always has an answer and its answers are those of an order, sorting gives all the items in that
order. The run at the start is in order as it is or turned round, and putting an item at the place that halving finds
keeps the order: what stands before the place is not greater, what stands behind it is not less.
-/

set_option autoImplicit false

namespace Stencil

section Sorting

variable {α : Type} {less : α → α → Option Bool} {P : α → Prop} {R : α → α → Prop}

structure Ranks (less : α → α → Option Bool) (P : α → Prop) (R : α → α → Prop) : Prop where
  decided : ∀ {a b : α}, P a → P b → ∃ answer, less a b = some answer ∧ if answer then R a b else R b a
  trans : ∀ {a b c : α}, R a b → R b c → R a c

/-! ## The first run -/

theorem Ranks.runLength (ranks : Ranks less P R) (falls : Bool) (x : α) (xs : List α) (first : P x) (all : ∀ y ∈ xs, P y) :
    ∃ n, runLength less falls x xs = some n ∧
      (x :: xs.take n).IsChain fun a b => if falls then R b a else R a b := by
  induction xs generalizing x with
  | nil => exact ⟨0, rfl, by simp⟩
  | cons y xs ih =>
    have second : P y := all y (by simp)
    obtain ⟨n, counted, chain⟩ := ih y second fun z hz => all z (by simp [hz])
    obtain ⟨answer, compared, ranked⟩ := ranks.decided second first
    by_cases goes : answer = falls
    · subst goes
      refine ⟨n + 1, by simp [Stencil.runLength, compared, counted], ?_⟩
      rw [List.take_succ_cons, List.isChain_cons_cons]
      exact ⟨ranked, chain⟩
    · refine ⟨0, by simp [Stencil.runLength, compared, goes], by simp⟩

theorem Ranks.pairwise_of_isChain (ranks : Ranks less P R) {xs : List α} (chain : xs.IsChain R) : xs.Pairwise R := by
  have : Trans R R R := ⟨ranks.trans⟩
  exact chain.pairwise

theorem Ranks.firstRun (ranks : Ranks less P R) (xs : List α) (all : ∀ x ∈ xs, P x) :
    ∃ run rest, firstRun less xs = some (run, rest) ∧ (run ++ rest).Perm xs ∧ run.Pairwise R := by
  match xs with
  | [] => exact ⟨[], [], rfl, .refl _, .nil⟩
  | [x] => exact ⟨[x], [], rfl, .refl _, by simp⟩
  | x :: y :: rest =>
    have first : P x := all x (by simp)
    have second : P y := all y (by simp)
    obtain ⟨falls, compared, ranked⟩ := ranks.decided second first
    obtain ⟨n, counted, chain⟩ := ranks.runLength falls y rest second fun z hz => all z (by simp [hz])
    have whole : (x :: y :: rest.take n).IsChain fun a b => if falls then R b a else R a b := by
      rw [List.isChain_cons_cons]
      exact ⟨ranked, chain⟩
    cases falls with
    | false =>
      refine ⟨x :: y :: rest.take n, rest.drop n, by simp [Stencil.firstRun, compared, counted], by simp, ?_⟩
      exact ranks.pairwise_of_isChain whole
    | true =>
      refine ⟨(x :: y :: rest.take n).reverse, rest.drop n, by simp [Stencil.firstRun, compared, counted], ?_, ?_⟩
      · have turned := (List.reverse_perm (x :: y :: rest.take n)).append_right (rest.drop n)
        simpa using turned
      · apply ranks.pairwise_of_isChain
        rw [List.isChain_reverse]
        exact whole

/-! ## The place of an item -/

/-- Halving keeps the place between two bounds: nothing before the lower one is greater than the item, nothing from the
upper one on is less. -/
theorem Ranks.findPlace (ranks : Ranks less P R) {x : α} {sorted : Array α} (here : P x) (all : ∀ y ∈ sorted, P y)
    (ordered : sorted.toList.Pairwise R) (fuel low high : Nat) (enough : high - low < fuel) (bounds : low ≤ high)
    (inside : high ≤ sorted.size) (before : ∀ y ∈ sorted.toList.take low, R y x)
    (behind : ∀ y ∈ sorted.toList.drop high, R x y) :
    ∃ place, findPlace less x sorted fuel low high = some place ∧ place ≤ sorted.size ∧
      (∀ y ∈ sorted.toList.take place, R y x) ∧ ∀ y ∈ sorted.toList.drop place, R x y := by
  induction fuel generalizing low high with
  | zero => omega
  | succ fuel ih =>
    by_cases more : low < high
    · obtain ⟨middle, hm⟩ : ∃ middle, middle = low + (high - low) / 2 := ⟨_, rfl⟩
      have within : middle < sorted.size := by omega
      have cut : sorted.toList = sorted.toList.take middle ++ sorted[middle] :: sorted.toList.drop (middle + 1) := by
        have start : sorted.toList.drop middle = sorted[middle] :: sorted.toList.drop (middle + 1) := by
          rw [List.drop_eq_getElem_cons (by simpa using within), Array.getElem_toList]
        rw [← start, List.take_append_drop]
      rw [cut, List.pairwise_append, List.pairwise_cons] at ordered
      obtain ⟨-, ⟨later, -⟩, across⟩ := ordered
      have there : P sorted[middle] := all _ (by simp)
      obtain ⟨answer, compared, ranked⟩ := ranks.decided here there
      cases answer with
      | true =>
        obtain ⟨place, found, rest⟩ := ih low middle (by omega) (by omega) (by omega) before (by
          intro y hy
          rw [List.drop_eq_getElem_cons (by simpa using within)] at hy
          rcases List.mem_cons.mp hy with rfl | hy
          · exact ranked
          · exact ranks.trans ranked (later y hy))
        refine ⟨place, ?_, rest⟩
        simp [Stencil.findPlace, more, ← hm, within, compared, found]
      | false =>
        obtain ⟨place, found, rest⟩ := ih (middle + 1) high (by omega) (by omega) inside (by
          intro y hy
          rw [List.take_add_one, List.mem_append, List.getElem?_eq_getElem (by simpa using within)] at hy
          rcases hy with hy | hy
          · exact ranks.trans (across y hy sorted[middle] (by simp)) ranked
          · obtain rfl : y = sorted[middle] := by simpa using hy
            exact ranked) behind
        refine ⟨place, ?_, rest⟩
        simp [Stencil.findPlace, more, ← hm, within, compared, found]
    · obtain rfl : low = high := by omega
      exact ⟨low, by simp [Stencil.findPlace], inside, before, behind⟩

theorem pairwise_insertIdx {xs : List α} {x : α} {place : Nat} (inside : place ≤ xs.length) (ordered : xs.Pairwise R)
    (before : ∀ y ∈ xs.take place, R y x) (behind : ∀ y ∈ xs.drop place, R x y) : (xs.insertIdx place x).Pairwise R := by
  induction xs generalizing place with
  | nil =>
    obtain rfl : place = 0 := by simpa using inside
    simp
  | cons y ys ih =>
    cases place with
    | zero =>
      rw [List.insertIdx_zero, List.pairwise_cons]
      exact ⟨behind, ordered⟩
    | succ place =>
      rw [List.pairwise_cons] at ordered
      have shorter : place ≤ ys.length := by simpa using inside
      rw [List.insertIdx_succ_cons, List.pairwise_cons]
      constructor
      · intro z hz
        rcases List.eq_or_mem_of_mem_insertIdx hz with rfl | hz
        · exact before y (by simp)
        · exact ordered.1 z hz
      · apply ih shorter ordered.2
        · intro z hz
          exact before z (by simp [hz])
        · exact behind

theorem Ranks.insertSorted (ranks : Ranks less P R) {x : α} {sorted : Array α} (here : P x) (all : ∀ y ∈ sorted, P y)
    (ordered : sorted.toList.Pairwise R) :
    ∃ longer, insertSorted less sorted x = some longer ∧ longer.toList.Perm (x :: sorted.toList) ∧
      longer.toList.Pairwise R := by
  have none : ∀ y ∈ sorted.toList.drop sorted.size, R x y := by
    simp [List.drop_eq_nil_of_le]
  obtain ⟨place, found, inside, before, behind⟩ := ranks.findPlace here all ordered (sorted.size + 1) 0 sorted.size
    (by omega) (by omega) (by omega) (by simp) none
  refine ⟨sorted.insertIdx place x inside, by simp [Stencil.insertSorted, found, Array.insertIdxIfInBounds, inside], ?_, ?_⟩
  · rw [Array.toList_insertIdx]
    exact List.perm_insertIdx x sorted.toList (by simpa using inside)
  · rw [Array.toList_insertIdx]
    exact pairwise_insertIdx (by simpa using inside) ordered before behind

/-! ## The whole list -/

theorem Ranks.foldlM_insertSorted (ranks : Ranks less P R) (xs : List α) (sorted : Array α) (rest : ∀ x ∈ xs, P x)
    (all : ∀ y ∈ sorted, P y) (ordered : sorted.toList.Pairwise R) :
    ∃ longer, xs.foldlM (Stencil.insertSorted less) sorted = some longer ∧ longer.toList.Perm (sorted.toList ++ xs) ∧
      longer.toList.Pairwise R := by
  induction xs generalizing sorted with
  | nil => exact ⟨sorted, rfl, by simp, ordered⟩
  | cons x xs ih =>
    obtain ⟨next, put, perm, kept⟩ := ranks.insertSorted (rest x (by simp)) all ordered
    have still : ∀ y ∈ next, P y := by
      intro y hy
      rcases List.mem_cons.mp (perm.mem_iff.mp (Array.mem_toList_iff.mpr hy)) with rfl | hy
      · exact rest y (by simp)
      · exact all y (Array.mem_toList_iff.mp hy)
    obtain ⟨longer, folded, whole, done⟩ := ih next (fun y hy => rest y (by simp [hy])) still kept
    refine ⟨longer, by simp [put, folded], ?_, done⟩
    calc longer.toList.Perm (next.toList ++ xs) := whole
      _ |>.Perm (x :: sorted.toList ++ xs) := perm.append_right xs
      _ |>.Perm (sorted.toList ++ x :: xs) := List.perm_middle.symm

/-- Sorting gives all items, in order. -/
theorem Ranks.sortM (ranks : Ranks less P R) (xs : List α) (all : ∀ x ∈ xs, P x) :
    ∃ sorted, sortM less xs = some sorted ∧ sorted.Perm xs ∧ sorted.Pairwise R := by
  obtain ⟨run, rest, split, perm, ordered⟩ := ranks.firstRun xs all
  have every : ∀ x ∈ run ++ rest, P x := fun x hx => all x (perm.mem_iff.mp hx)
  obtain ⟨sorted, folded, whole, done⟩ := ranks.foldlM_insertSorted rest run.toArray
    (fun x hx => every x (by simp [hx])) (fun x hx => every x (by simp_all)) ordered
  exact ⟨sorted.toList, by simp [Stencil.sortM, split, folded], whole.trans perm, done⟩

end Sorting

/-! ## Texts -/

theorem Data.related_lt_text (s t : String) : Data.related .lt (.text s) (.text t) = some (compare s t == .lt) := by
  simp [Data.related, Data.asText?, OrderOp.admits]

theorem ranks_texts : Ranks (Data.related .lt) (fun d => ∃ s, d = Data.text s)
    (fun d e => ∃ s t : String, d = .text s ∧ e = .text t ∧ (compare s t).isLE) where
  decided := by
    rintro _ _ ⟨s, rfl⟩ ⟨t, rfl⟩
    refine ⟨_, Data.related_lt_text s t, ?_⟩
    by_cases less : compare s t = .lt
    · simp [less]
    · have greater : (compare t s).isLE := by
        rw [Std.OrientedOrd.eq_swap]
        cases h : compare s t <;> simp_all
      simpa [less] using greater
  trans := by
    rintro _ _ _ ⟨s, t, rfl, rfl, first⟩ ⟨t', u, ht, rfl, second⟩
    cases ht
    exact ⟨s, u, rfl, rfl, Std.TransCmp.isLE_trans first second⟩

/-- Texts are sorted by their characters. -/
theorem sortM_texts (ss : List String) :
    ∃ sorted : List String, sortM (Data.related .lt) (ss.map Data.text) = some (sorted.map Data.text) ∧ sorted.Perm ss ∧
      sorted.Pairwise fun s t => (compare s t).isLE := by
  obtain ⟨ds, sorting, perm, ordered⟩ := ranks_texts.sortM (ss.map Data.text) (by simp)
  obtain ⟨sorted, rfl⟩ : ∃ sorted : List String, sorted.map Data.text = ds := by
    rw [← Set.mem_range, Set.range_list_map]
    intro d hd
    obtain ⟨s, -, rfl⟩ := List.mem_map.mp (perm.mem_iff.mp hd)
    exact ⟨s, rfl⟩
  refine ⟨sorted, sorting, (List.map_perm_map_iff fun s t h => Data.text.inj h).mp perm, ?_⟩
  rw [List.pairwise_map] at ordered
  apply ordered.imp
  rintro s t ⟨_, _, hs, ht, le⟩
  cases hs
  cases ht
  exact le

end Stencil
