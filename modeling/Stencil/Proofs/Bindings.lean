import Stencil.Proofs.Tables
import Stencil.Variables
import Mathlib.Data.List.Forall2
import Mathlib.Data.List.Induction
import Mathlib.Data.List.TakeWhile

/-!
# Bindings

An item is a binding if it has an equals sign and more than blanks in front of the first one. A list of bindings is read as
the table in which every name has the value that it was given last and stands where it was first given, and a list with
anything else in it is refused for the first such item.
-/

set_option autoImplicit false

namespace Stencil.Table

variable {κ υ : Type} [BEq κ] [LawfulBEq κ]

theorem findEntries?_eq_some_iff {key : κ} {v : υ} {es : List (κ × υ)} :
    findEntries? key es = some v ↔ ∃ before after, es = before ++ (key, v) :: after ∧ ∀ e ∈ before, e.1 ≠ key := by
  constructor
  · intro found
    induction es with
    | nil => cases found
    | cons e es ih =>
      by_cases same : e.1 = key
      · rw [findEntries?_cons_self _ same] at found
        exact ⟨[], es, by rw [← same, ← Option.some.inj found]; rfl, by simp⟩
      · rw [findEntries?_cons_of_ne _ same] at found
        obtain ⟨before, after, rfl, others⟩ := ih found
        refine ⟨e :: before, after, rfl, ?_⟩
        simpa [same] using others
  · rintro ⟨before, after, rfl, others⟩
    induction before with
    | nil => exact findEntries?_cons_self _ rfl
    | cons e before ih =>
      rw [List.cons_append, findEntries?_cons_of_ne _ (others e List.mem_cons_self)]
      exact ih fun e he => others e (List.mem_cons_of_mem _ he)

/-- A key has the value of the last entry with it. -/
theorem find?_ofList_eq_some_iff {key : κ} {v : υ} {es : List (κ × υ)} :
    (ofList es : Table κ υ).find? key = some v ↔
      ∃ before after, es = before ++ (key, v) :: after ∧ ∀ e ∈ after, e.1 ≠ key := by
  rw [find?_ofList, findEntries?_eq_some_iff]
  constructor
  · rintro ⟨before, after, reversed, others⟩
    refine ⟨after.reverse, before.reverse, ?_, by simpa using others⟩
    rw [← List.reverse_reverse es, reversed]
    simp
  · rintro ⟨before, after, rfl, others⟩
    exact ⟨after.reverse, before.reverse, by simp, by simpa using others⟩

omit [LawfulBEq κ] in
theorem ofList_concat (es : List (κ × υ)) (e : κ × υ) :
    (ofList (es ++ [e]) : Table κ υ) = (ofList es).insert e.1 e.2 := by
  simp [ofList, insertAll]

/-- The keys stand in the order in which they first occur. -/
theorem keys_ofList (es : List (κ × υ)) : (ofList es : Table κ υ).keys = (es.map Prod.fst).eraseDups := by
  induction es using List.reverseRecOn with
  | nil => rfl
  | append_singleton es e ih =>
    rw [ofList_concat, keys_insert, ih, List.map_append, List.eraseDups_append]
    by_cases known : e.1 ∈ es.map Prod.fst
    · rw [if_pos (List.mem_eraseDups.mpr known)]
      simp [List.removeAll, known]
    · rw [if_neg (mt List.mem_eraseDups.mp known)]
      simp [List.removeAll, known, List.eraseDups_cons]

theorem insertEntries_of_not_mem {key : κ} (v : υ) {es : List (κ × υ)} (fresh : key ∉ es.map Prod.fst) :
    insertEntries key v es = es ++ [(key, v)] := by
  induction es with
  | nil => rfl
  | cons e es ih =>
    rw [List.map_cons, List.mem_cons, not_or] at fresh
    rw [insertEntries, if_neg (by simpa using Ne.symm fresh.1), ih fresh.2]
    rfl

theorem ofList_of_nodup {es : List (κ × υ)} (unique : (es.map Prod.fst).Nodup) : (ofList es : Table κ υ) = ⟨es⟩ := by
  induction es using List.reverseRecOn with
  | nil => rfl
  | append_singleton es e ih =>
    rw [List.map_append, List.nodup_append] at unique
    obtain ⟨unique, -, apart⟩ := unique
    have fresh : e.1 ∉ es.map Prod.fst := fun known => apart e.1 known e.1 (by simp) rfl
    rw [ofList_concat, ih unique, insert, insertEntries_of_not_mem _ fresh]

end Stencil.Table

namespace Stencil.Text

def Trimmed (cs : List Char) : Prop :=
  (∀ c ∈ cs.head?, isBlank c = false) ∧ ∀ c ∈ cs.getLast?, isBlank c = false

def Blank (cs : List Char) : Prop := ∀ c ∈ cs, isBlank c = true

instance (cs : List Char) : Decidable (Trimmed cs) :=
  decidable_of_iff (cs.head?.all (!isBlank ·) = true ∧ cs.getLast?.all (!isBlank ·) = true)
    (by simp [Trimmed, Option.all_eq_true])

instance (cs : List Char) : Decidable (Blank cs) := decidable_of_iff (cs.all isBlank = true) List.all_eq_true

theorem head?_dropWhile_isBlank {cs : List Char} {c : Char} (h : c ∈ (cs.dropWhile isBlank).head?) : isBlank c = false := by
  have stops := List.head?_dropWhile_not isBlank cs
  rw [h] at stops
  exact stops

/-- Stripping takes blanks from both ends, and leaves none there. -/
theorem strip_split (cs : List Char) :
    Trimmed (strip cs) ∧ ∃ before after, cs = before ++ strip cs ++ after ∧ Blank before ∧ Blank after := by
  have left : cs.takeWhile isBlank ++ stripLeft cs = cs := List.takeWhile_append_dropWhile
  have right : stripRight (stripLeft cs) ++ ((stripLeft cs).reverse.takeWhile isBlank).reverse = stripLeft cs := by
    rw [stripRight, ← List.reverse_append, List.takeWhile_append_dropWhile, List.reverse_reverse]
  refine ⟨⟨?_, ?_⟩, cs.takeWhile isBlank, ((stripLeft cs).reverse.takeWhile isBlank).reverse, ?_, ?_, ?_⟩
  · -- the first character stays the first one when the right end is cut
    intro c hc
    have first : c ∈ (stripLeft cs).head? := by
      rw [← right, List.head?_append, show (stripRight (stripLeft cs)).head? = some c from hc]
      rfl
    exact head?_dropWhile_isBlank first
  · intro c hc
    rw [strip, stripRight, List.getLast?_reverse] at hc
    exact head?_dropWhile_isBlank hc
  · rw [List.append_assoc]
    show cs = _ ++ (stripRight (stripLeft cs) ++ _)
    rw [right, left]
  · intro c hc
    exact List.mem_takeWhile_imp hc
  · intro c hc
    exact List.mem_takeWhile_imp (List.mem_reverse.mp hc)

theorem dropWhile_of_head? {cs : List Char} (h : ∀ c ∈ cs.head?, isBlank c = false) : cs.dropWhile isBlank = cs := by
  cases cs with
  | nil => rfl
  | cons c cs => rw [List.dropWhile_cons_of_neg (by simp [h c rfl])]

/-- A text without blanks at its ends is found between blanks. -/
theorem strip_eq_of_trimmed {before core after : List Char} (trimmed : Trimmed core) (front : Blank before)
    (back : Blank after) : strip (before ++ core ++ after) = core := by
  rw [strip, stripLeft, List.append_assoc, List.dropWhile_append_of_pos front]
  cases core with
  | nil =>
    rw [List.nil_append, List.dropWhile_eq_nil_iff.mpr back]
    rfl
  | cons c core =>
    have solid : isBlank c = false := trimmed.1 c rfl
    rw [List.cons_append, List.dropWhile_cons_of_neg (by simp [solid]), ← List.cons_append, stripRight, List.reverse_append,
      List.dropWhile_append_of_pos (fun d hd => back d (List.mem_reverse.mp hd)), dropWhile_of_head?, List.reverse_reverse]
    intro d hd
    rw [List.head?_reverse] at hd
    exact trimmed.2 d hd

theorem strip_eq_nil_iff {cs : List Char} : strip cs = [] ↔ Blank cs := by
  constructor
  · intro empty
    obtain ⟨-, before, after, split, front, back⟩ := strip_split cs
    rw [empty, List.append_nil] at split
    rw [split]
    intro c hc
    rcases List.mem_append.mp hc with hc | hc
    · exact front c hc
    · exact back c hc
  · intro blank
    have trimmed : Trimmed [] := ⟨by simp, by simp⟩
    have none : Blank [] := by simp [Blank]
    simpa using strip_eq_of_trimmed trimmed blank none

end Stencil.Text

namespace Stencil.Binding

open Text (Trimmed Blank strip isBlank)

/-! ## One item -/

def IsBinding (item : String) : Prop :=
  ∃ key value, item.toList = key ++ '=' :: value ∧ '=' ∉ key ∧ ¬ Blank key

structure Binds (item name value : String) : Prop where
  split : ∃ before after, item.toList = before ++ name.toList ++ after ++ '=' :: value.toList ∧ Blank before ∧ Blank after
  trimmed : Trimmed name.toList
  named : name.toList ≠ []
  unsigned : '=' ∉ name.toList

theorem sign_not_mem_of_blank {cs : List Char} (blank : Blank cs) : '=' ∉ cs := by
  intro sign
  cases blank _ sign

theorem parse?_of_split {item : String} {key value : List Char} (split : item.toList = key ++ '=' :: value)
    (first : '=' ∉ key) :
    parse? item = if strip key = [] then none else some (String.ofList (strip key), String.ofList value) := by
  have front : item.toList.takeWhile (· != '=') = key := by
    have others : ∀ c ∈ key, (c != '=') = true := by
      intro c hc
      simpa using ne_of_mem_of_not_mem hc first
    rw [split, List.takeWhile_append_of_pos others]
    simp
  have shorter : ¬ key.length = item.toList.length := by
    rw [split, List.length_append, List.length_cons]
    omega
  have behind : item.toList.drop (key.length + 1) = value := by
    rw [split, List.drop_append, List.drop_eq_nil_of_le (Nat.le_succ _)]
    simp
  unfold parse?
  simp only [front, shorter, behind]
  by_cases empty : strip key = [] <;> simp [empty]

theorem parse?_of_not_mem {item : String} (none_in : '=' ∉ item.toList) : parse? item = none := by
  have whole : item.toList.takeWhile (· != '=') = item.toList := by
    rw [List.takeWhile_eq_self_iff]
    intro c hc
    simpa using ne_of_mem_of_not_mem hc none_in
  unfold parse?
  simp [whole]

theorem exists_split {item : String} (sign : '=' ∈ item.toList) :
    ∃ key value, item.toList = key ++ '=' :: value ∧ '=' ∉ key := by
  obtain ⟨key, value, split, first⟩ := List.eq_append_cons_of_mem sign
  exact ⟨key, value, split, first⟩

theorem parse?_eq_none_iff {item : String} : parse? item = none ↔ ¬ IsBinding item := by
  constructor
  · rintro fails ⟨key, value, split, first, solid⟩
    rw [parse?_of_split split first, if_neg (mt Text.strip_eq_nil_iff.mp solid)] at fails
    cases fails
  · intro other
    by_cases sign : '=' ∈ item.toList
    · obtain ⟨key, value, split, first⟩ := exists_split sign
      have blank : Blank key := by
        by_contra solid
        exact other ⟨key, value, split, first, solid⟩
      rw [parse?_of_split split first, if_pos (Text.strip_eq_nil_iff.mpr blank)]
    · exact parse?_of_not_mem sign

theorem parse?_eq_some_iff {item name value : String} : parse? item = some (name, value) ↔ Binds item name value := by
  constructor
  · intro read
    have sign : '=' ∈ item.toList := by
      by_contra none_in
      rw [parse?_of_not_mem none_in] at read
      cases read
    obtain ⟨key, rest, split, first⟩ := exists_split sign
    obtain ⟨trimmed, before, after, parts, front, back⟩ := Text.strip_split key
    rw [parse?_of_split split first] at read
    by_cases empty : strip key = []
    · rw [if_pos empty] at read
      cases read
    · rw [if_neg empty] at read
      cases read
      have inside : '=' ∉ strip key := by
        intro sign
        rw [parts] at first
        simp [sign] at first
      refine ⟨⟨before, after, ?_, front, back⟩, ?_, ?_, ?_⟩
      · rw [String.toList_ofList, String.toList_ofList, ← parts, split]
      · rwa [String.toList_ofList]
      · rwa [String.toList_ofList]
      · rwa [String.toList_ofList]
  · rintro ⟨⟨before, after, split, front, back⟩, trimmed, named, unsigned⟩
    have first : '=' ∉ before ++ name.toList ++ after := by
      simp [sign_not_mem_of_blank front, sign_not_mem_of_blank back, unsigned]
    rw [parse?_of_split split first, Text.strip_eq_of_trimmed trimmed front back, if_neg named, String.ofList_toList,
      String.ofList_toList]

theorem Binds.unique {item name value : String} {b : String × String} (h : Binds item b.1 b.2)
    (other : Binds item name value) : b = (name, value) :=
  Option.some.inj ((parse?_eq_some_iff.mpr h).symm.trans (parse?_eq_some_iff.mpr other))

theorem isBinding_iff {item : String} : IsBinding item ↔ ∃ name value, Binds item name value := by
  rw [← not_iff_not, ← parse?_eq_none_iff, Option.eq_none_iff_forall_ne_some]
  constructor
  · rintro fails ⟨name, value, binds⟩
    exact fails _ (parse?_eq_some_iff.mpr binds)
  · rintro other ⟨name, value⟩ read
    exact other ⟨name, value, parse?_eq_some_iff.mp read⟩

/-! ## A list of items -/

theorem parseAll_cons (item : String) (items : List String) :
    parseAll (item :: items) = match parse? item with
      | none => .error (.badBinding item)
      | some b => (parseAll items).map (b :: ·) := by
  cases one : parse? item <;> cases rest : parseAll items <;> unfold parseAll at rest ⊢ <;>
    rw [List.mapM_cons, one, rest] <;> rfl

theorem parseAll_eq_ok_iff {items : List String} {bindings : List (String × String)} :
    parseAll items = .ok bindings ↔ List.Forall₂ (fun item b => Binds item b.1 b.2) items bindings := by
  induction items generalizing bindings with
  | nil =>
    constructor
    · intro read
      cases read
      exact .nil
    · intro all
      cases all
      rfl
  | cons item items ih =>
    rw [parseAll_cons]
    constructor
    · intro read
      cases one : parse? item with
      | none =>
        rw [one] at read
        cases read
      | some b =>
        cases rest : parseAll items with
        | error f =>
          rw [one, rest] at read
          cases read
        | ok bs =>
          rw [one, rest] at read
          cases read
          exact .cons (parse?_eq_some_iff.mp one) (ih.mp rest)
    · rintro (_ | ⟨binds, all⟩)
      rw [parse?_eq_some_iff.mpr binds, ih.mpr all]
      rfl

/-- The first item that is no binding is the one that is told. -/
theorem parseAll_eq_error_iff {items : List String} {fault : DataFault} :
    parseAll items = .error fault ↔ ∃ before item after, items = before ++ item :: after ∧
      (∀ earlier ∈ before, IsBinding earlier) ∧ ¬ IsBinding item ∧ fault = .badBinding item := by
  induction items with
  | nil =>
    constructor
    · intro fails
      cases fails
    · rintro ⟨before, item, after, split, -⟩
      simp at split
  | cons item items ih =>
    rw [parseAll_cons]
    constructor
    · intro fails
      cases one : parse? item with
      | none =>
        rw [one] at fails
        cases fails
        exact ⟨[], item, items, rfl, by simp, parse?_eq_none_iff.mp one, rfl⟩
      | some b =>
        cases rest : parseAll items with
        | ok bs =>
          rw [one, rest] at fails
          cases fails
        | error f =>
          rw [one, rest] at fails
          cases fails
          obtain ⟨before, bad, after, rfl, good, other, told⟩ := ih.mp rest
          refine ⟨item :: before, bad, after, rfl, ?_, other, told⟩
          have binds : IsBinding item := isBinding_iff.mpr ⟨b.1, b.2, parse?_eq_some_iff.mp one⟩
          simpa [binds] using good
    · rintro ⟨_ | ⟨first, before⟩, bad, after, split, good, other, rfl⟩
      · cases split
        rw [parse?_eq_none_iff.mpr other]
      · cases split
        obtain ⟨name, value, binds⟩ := isBinding_iff.mp (good item List.mem_cons_self)
        rw [parse?_eq_some_iff.mpr binds,
          ih.mpr ⟨before, bad, after, rfl, fun x hx => good x (List.mem_cons_of_mem _ hx), other, rfl⟩]
        rfl

theorem table_eq_ok_iff {items : List String} {t : Table String String} :
    table items = .ok t ↔ ∃ bindings, List.Forall₂ (fun item b => Binds item b.1 b.2) items bindings ∧ t = .ofList bindings := by
  unfold table
  cases read : parseAll items with
  | error f =>
    constructor
    · intro h
      cases h
    · rintro ⟨bindings, all, -⟩
      cases read.symm.trans (parseAll_eq_ok_iff.mpr all)
  | ok bindings =>
    constructor
    · intro h
      cases h
      exact ⟨bindings, parseAll_eq_ok_iff.mp read, rfl⟩
    · rintro ⟨others, all, rfl⟩
      cases read.symm.trans (parseAll_eq_ok_iff.mpr all)
      rfl

theorem table_eq_error_iff {items : List String} {fault : DataFault} :
    table items = .error fault ↔ ∃ before item after, items = before ++ item :: after ∧
      (∀ earlier ∈ before, IsBinding earlier) ∧ ¬ IsBinding item ∧ fault = .badBinding item := by
  rw [← parseAll_eq_error_iff]
  unfold table
  cases parseAll items <;> constructor <;> intro h <;> cases h <;> rfl

theorem forall₂_right {α β : Type} {R : α → β → Prop} {as : List α} {bs : List β} (all : List.Forall₂ R as bs) {a : α}
    (inside : a ∈ as) : ∃ b ∈ bs, R a b := by
  induction all with
  | nil => cases inside
  | cons one rest ih =>
    rcases List.mem_cons.mp inside with rfl | inside
    · exact ⟨_, List.mem_cons_self, one⟩
    · obtain ⟨b, there, related⟩ := ih inside
      exact ⟨b, List.mem_cons_of_mem _ there, related⟩

theorem forall₂_split {α β : Type} {R : α → β → Prop} {as : List α} {front : List β} {b : β} {back : List β}
    (all : List.Forall₂ R as (front ++ b :: back)) :
    ∃ before a after, as = before ++ a :: after ∧ R a b ∧ List.Forall₂ R after back := by
  induction front generalizing as with
  | nil =>
    cases all with
    | cons one rest => exact ⟨[], _, _, rfl, one, rest⟩
  | cons c front ih =>
    cases all with
    | cons one rest =>
      obtain ⟨before, a, after, rfl, here, behind⟩ := ih rest
      exact ⟨_ :: before, a, after, rfl, here, behind⟩

def Names (items names : List String) : Prop :=
  List.Forall₂ (fun item name => ∃ value, Binds item name value) items names

theorem names_of_forall₂ {items : List String} {bindings : List (String × String)}
    (all : List.Forall₂ (fun item b => Binds item b.1 b.2) items bindings) : Names items (bindings.map Prod.fst) := by
  unfold Names
  rw [List.forall₂_map_right_iff]
  exact all.imp fun item b binds => ⟨b.2, binds⟩

/-- A name has the value of the last item that gives it one. -/
theorem find?_eq_some_iff {items : List String} {bindings : List (String × String)}
    (all : List.Forall₂ (fun item b => Binds item b.1 b.2) items bindings) (name value : String) :
    (Table.ofList bindings : Table String String).find? name = some value ↔
      ∃ before item after, items = before ++ item :: after ∧ Binds item name value ∧
        ∀ later ∈ after, ∀ other, ¬ Binds later name other := by
  rw [Table.find?_ofList_eq_some_iff]
  constructor
  · rintro ⟨front, back, rfl, others⟩
    obtain ⟨before, item, after, rfl, binds, behind⟩ := forall₂_split all
    refine ⟨before, item, after, rfl, binds, ?_⟩
    intro later inside other binds
    obtain ⟨b, there, read⟩ := forall₂_right behind inside
    have same : b = (name, other) := read.unique binds
    exact others b there (congrArg Prod.fst same)
  · rintro ⟨before, item, after, rfl, binds, others⟩
    obtain ⟨front, b, back, rfl, read, behind⟩ := forall₂_split all.flip
    have same : b = (name, value) := read.unique binds
    refine ⟨front, back, by rw [same], ?_⟩
    intro e there same
    obtain ⟨later, inside, read⟩ := forall₂_right behind there
    exact others later inside e.2 (same ▸ read)

def item (b : String × String) : String := b.1 ++ "=" ++ b.2

theorem binds_item {b : String × String} (named : b.1.toList ≠ []) (trimmed : Trimmed b.1.toList)
    (unsigned : '=' ∉ b.1.toList) : Binds (item b) b.1 b.2 := by
  refine ⟨⟨[], [], ?_, by simp [Blank], by simp [Blank]⟩, trimmed, named, unsigned⟩
  simp [item]

/-- A list is read if it has only bindings in it, as the table in which every name has the value that it was given last and
stands where it was first given; another list is refused for its first item that is no binding. So what is written as
bindings is read back. -/
theorem bindings_read_exactly (items : List String) :
    ((∃ t, table items = .ok t) ↔ ∀ item ∈ items, IsBinding item) ∧
    (∀ t, table items = .ok t →
      (∃ names, Names items names ∧ t.keys = names.eraseDups) ∧
      ∀ name value, t.find? name = some value ↔
        ∃ before item after, items = before ++ item :: after ∧ Binds item name value ∧
          ∀ later ∈ after, ∀ other, ¬ Binds later name other) ∧
    (∀ fault, table items = .error fault ↔
      ∃ before item after, items = before ++ item :: after ∧ (∀ earlier ∈ before, IsBinding earlier) ∧
        ¬ IsBinding item ∧ fault = .badBinding item ∧
        fault.message = "Invalid variable '" ++ item ++ "'. Expected 'KEY=VALUE'") ∧
    ∀ bindings : List (String × String), (bindings.map Prod.fst).Nodup →
      (∀ b ∈ bindings, b.1.toList ≠ [] ∧ Trimmed b.1.toList ∧ '=' ∉ b.1.toList) →
      table (bindings.map item) = .ok ⟨bindings⟩ := by
  refine ⟨⟨?_, ?_⟩, ?_, ?_, ?_⟩
  · rintro ⟨t, read⟩ item inside
    obtain ⟨bindings, all, -⟩ := table_eq_ok_iff.mp read
    obtain ⟨b, -, binds⟩ := forall₂_right all inside
    exact isBinding_iff.mpr ⟨b.1, b.2, binds⟩
  · intro all
    cases read : table items with
    | ok t => exact ⟨t, rfl⟩
    | error fault =>
      obtain ⟨before, item, after, rfl, -, other, -⟩ := table_eq_error_iff.mp read
      exact absurd (all item (by simp)) other
  · intro t read
    obtain ⟨bindings, all, rfl⟩ := table_eq_ok_iff.mp read
    exact ⟨⟨_, names_of_forall₂ all, Table.keys_ofList bindings⟩, find?_eq_some_iff all⟩
  · intro fault
    rw [table_eq_error_iff]
    constructor
    · rintro ⟨before, item, after, split, good, other, rfl⟩
      exact ⟨before, item, after, split, good, other, rfl, rfl⟩
    · rintro ⟨before, item, after, split, good, other, told, -⟩
      exact ⟨before, item, after, split, good, other, told⟩
  · intro bindings unique proper
    refine table_eq_ok_iff.mpr ⟨bindings, ?_, (Table.ofList_of_nodup unique).symm⟩
    rw [List.forall₂_map_left_iff, List.forall₂_same]
    intro b inside
    obtain ⟨named, trimmed, unsigned⟩ := proper b inside
    exact binds_item named trimmed unsigned

/-- A name with blanks of two kinds around it is given twice, values keep their blanks and signs, and a name alone is no
binding. -/
theorem bindings_read_exactly_thrice :
    (∃ t, table [" a =1", "b= 2=", "a\u00a0=3"] = .ok t ∧ t.find? "a" = some "3" ∧ t.find? "b" = some " 2=") ∧
      table ["a=1", "b"] = .error (.badBinding "b") ∧
      table (([("b", " 2="), ("a", "")] : List (String × String)).map item) = .ok ⟨[("b", " 2="), ("a", "")]⟩ := by
  have first : Binds " a =1" "a" "1" := ⟨⟨[' '], [' '], rfl, by decide, by decide⟩, by decide, by decide, by decide⟩
  have second : Binds "b= 2=" "b" " 2=" := ⟨⟨[], [], rfl, by decide, by decide⟩, by decide, by decide, by decide⟩
  have third : Binds "a\u00a0=3" "a" "3" :=
    ⟨⟨[], ['\u00a0'], rfl, by decide, by decide⟩, by decide, by decide, by decide⟩
  obtain ⟨reads, gives, -, -⟩ := bindings_read_exactly [" a =1", "b= 2=", "a\u00a0=3"]
  obtain ⟨-, -, fails, -⟩ := bindings_read_exactly ["a=1", "b"]
  obtain ⟨-, -, -, back⟩ := bindings_read_exactly []
  refine ⟨?_, ?_, back _ (by decide) (by decide)⟩
  · obtain ⟨t, read⟩ := reads.mpr (by
      simp only [List.forall_mem_cons, isBinding_iff]
      exact ⟨⟨_, _, first⟩, ⟨_, _, second⟩, ⟨_, _, third⟩, by simp⟩)
    obtain ⟨-, found⟩ := gives t read
    refine ⟨t, read, (found _ _).mpr ⟨[" a =1", "b= 2="], _, [], rfl, third, by simp⟩, ?_⟩
    refine (found _ _).mpr ⟨[" a =1"], _, _, rfl, second, ?_⟩
    simp only [List.mem_singleton, forall_eq]
    intro other binds
    have same := third.unique (b := ("a", "3")) binds
    simp at same
  · refine (fails _).mpr ⟨["a=1"], "b", [], rfl, ?_, ?_, rfl, rfl⟩
    · simp only [List.mem_singleton, forall_eq, isBinding_iff]
      exact ⟨"a", "1", ⟨[], [], rfl, by decide, by decide⟩, by decide, by decide, by decide⟩
    · rintro ⟨key, value, split, -⟩
      have sign : '=' ∈ "b".toList := by
        rw [split]
        simp
      revert sign
      decide

end Stencil.Binding
