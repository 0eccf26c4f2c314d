import Stencil.Proofs.Library.Value

/-!
# Comparisons follow each other

Equality and order of values, under other names of cells.
-/

set_option autoImplicit false

namespace Stencil.Engine.Agreement

variable {A : Agreement}

theorem missingOf?_on (ρ : Renaming) (v : Value) : missingOf? (ρ.on v) = missingOf? v := by
  cases v <;> rfl

theorem sim_freeze (v : Value) : A.Same (freeze v) (freeze (A.names.on v)) :=
  .read _ _ fun _ _ h => (A.linked h).freeze v

theorem sim_needKey (v : Value) : A.Same (needKey v) (needKey (A.names.on v)) := by
  unfold needKey
  rw [keyFault?_on]
  cases bad : keyFault? v with
  | none => exact .ret rfl
  | some x => exact .raise x (isPlain_of_keyFault? v bad)

theorem sim_putEntry (entries : List (Value × Value)) (key value : Value) :
    A.Same (putEntry entries key value)
      (putEntry (entries.map A.names.on) (A.names.on key) (A.names.on value)) :=
  (sim_needKey key).bind fun _ => .ret (putKey_on A.names key value entries)

theorem sim_asSetView? (v : Value) : A.Same (asSetView? v) (asSetView? (A.names.on v)) := by
  cases v
  case set r => exact (sim_setItems r).bind fun _ => .ret rfl
  case view kind r =>
    cases kind
    case keys => exact (sim_dictEntries r).bind fun es => .ret (by simp)
    case items => exact (sim_dictEntries r).bind fun es => .ret (congrArg some (viewItems_on ..))
    case values => exact .ret rfl
  all_goals exact .ret rfl

section Comparison

variable {equal equal' : SameOrEqual} (he : ∀ x y, A.Same (equal x y) (equal' (A.names.on x) (A.names.on y)))

include he

theorem sim_equalRows (xs ys : List Value) :
    A.Same (equalRows equal xs ys) (equalRows equal' (xs.map A.names.on) (ys.map A.names.on)) := by
  induction xs generalizing ys with
  | nil => cases ys <;> exact .ret rfl
  | cons x xs ih =>
    cases ys with
    | nil => exact .ret rfl
    | cons y ys => exact (he x y).bind fun _ => .branch (ih ys) (.ret rfl)

theorem sim_equalEntries (others es : List (Value × Value)) :
    A.Same (equalEntries equal others es) (equalEntries equal' (others.map A.names.on) (es.map A.names.on)) := by
  induction es with
  | nil => exact .ret rfl
  | cons e es ih =>
    obtain ⟨k, v⟩ := e
    rw [List.map_cons, Renaming.on_pair, equalEntries, equalEntries, findKey?_on]
    cases findKey? k others with
    | none => exact .ret rfl
    | some w => exact (he v w).bind fun _ => .branch ih (.ret rfl)

theorem sim_anyItem (v : Value) (xs : List Value) :
    A.Same (anyItem equal v xs) (anyItem equal' (A.names.on v) (xs.map A.names.on)) := by
  induction xs with
  | nil => exact .ret rfl
  | cons x xs ih => exact (he x v).bind fun _ => .branch (.ret rfl) ih

theorem sim_containsAll (ys xs : List Value) :
    A.Same (containsAll equal ys xs) (containsAll equal' (ys.map A.names.on) (xs.map A.names.on)) := by
  induction xs with
  | nil => exact .ret rfl
  | cons x xs ih => exact (sim_anyItem he x ys).bind fun _ => .branch ih (.ret rfl)

theorem sim_equalSets (a b : Value) :
    A.Same (equalSets equal a b) (equalSets equal' (A.names.on a) (A.names.on b)) := by
  refine (sim_asSetView? a).bind fun xs => (sim_asSetView? b).bind fun ys => ?_
  cases xs with
  | none => exact .ret (keyEqual_on A.names a b)
  | some xs =>
    cases ys with
    | none => exact .ret (keyEqual_on A.names a b)
    | some ys =>
      show A.Same (if xs.length == ys.length then _ else _)
        (if (xs.map A.names.on).length == (ys.map A.names.on).length then _ else _)
      rw [List.length_map, List.length_map]
      exact .branch (sim_containsAll he ys xs) (.ret rfl)

theorem sim_equalMaps (r q : Ref) :
    A.Same (equalMaps equal r q) (equalMaps equal' (A.names.object r) (A.names.object q)) := by
  refine (sim_dictEntries r).bind fun es => (sim_dictEntries q).bind fun fs =>
    (sim_insists r).bind fun i => (sim_insists q).bind fun j => ?_
  simp only [Renaming.on_list_eq, Renaming.on_inert, List.length_map, map_fst_on]
  exact .branch (.ret rfl) ((sim_equalEntries he fs es).bind fun _ =>
    .branch (.ret rfl) (.branch (sim_equalRows he _ _) (.ret rfl)))

theorem sim_equalPresent (a b : Value) :
    A.Same (equalPresent equal a b) (equalPresent equal' (A.names.on a) (A.names.on b)) := by
  cases a
  case nan m => exact .ret rfl
  case list r =>
    cases b
    case list q =>
      refine (sim_listItems r).bind fun xs => (sim_listItems q).bind fun ys => ?_
      simp only [Renaming.on_list_eq, List.length_map]
      exact .branch (sim_equalRows he xs ys) (.ret rfl)
    all_goals exact sim_equalSets he _ _
  case tuple xs =>
    cases b
    case tuple ys =>
      rw [on_tuple, on_tuple]
      exact sim_equalRows he xs ys
    all_goals exact sim_equalSets he _ _
  case dict r =>
    cases b
    case dict q => exact sim_equalMaps he r q
    all_goals exact sim_equalSets he _ _
  all_goals exact sim_equalSets he _ _

end Comparison

theorem sim_orIdentical {equal equal' : SameOrEqual}
    (he : ∀ x y, A.Same (equal x y) (equal' (A.names.on x) (A.names.on y))) (x y : Value) :
    A.Same (if identical x y then pure true else equal x y)
      (if identical (A.names.on x) (A.names.on y) then pure true else equal' (A.names.on x) (A.names.on y)) := by
  rw [identical_on]
  exact .branch (.ret rfl) (he x y)

theorem sim_equalWithin (n : Nat) (a b : Value) :
    A.Same (equalWithin n a b) (equalWithin n (A.names.on a) (A.names.on b)) := by
  induction n generalizing a b with
  | zero => exact .fails _
  | succ n ih =>
    unfold equalWithin
    simp only [missingOf?_on]
    cases missingOf? a with
    | none =>
      cases missingOf? b with
      | none => exact sim_equalPresent (sim_orIdentical ih) a b
      | some k => exact .branch (sim_failMissing k) (.ret rfl)
    | some m =>
      cases missingOf? b with
      | none => exact .branch (sim_failMissing m) (.ret rfl)
      | some k => exact .branch (sim_failMissing m) (.branch (sim_failMissing k) (.ret rfl))

theorem sim_valueEqual (a b : Value) : A.Same (valueEqual a b) (valueEqual (A.names.on a) (A.names.on b)) :=
  sim_equalWithin _ a b

theorem sim_sameOrEqual (a b : Value) : A.Same (sameOrEqual a b) (sameOrEqual (A.names.on a) (A.names.on b)) :=
  sim_orIdentical sim_valueEqual a b

theorem sim_anyEqual (v : Value) (items : List Value) :
    A.Same (anyEqual v items) (anyEqual (A.names.on v) (items.map A.names.on)) :=
  sim_anyItem sim_sameOrEqual v items

theorem sim_relatedSets (op : OrderOp) (xs ys : List Value) :
    A.Same (relatedSets op xs ys) (relatedSets op (xs.map A.names.on) (ys.map A.names.on)) := by
  cases op <;> simp only [relatedSets, List.length_map]
  case le => exact sim_containsAll sim_sameOrEqual ys xs
  case ge => exact sim_containsAll sim_sameOrEqual xs ys
  case lt => exact .branch (sim_containsAll sim_sameOrEqual ys xs) (.ret rfl)
  case gt => exact .branch (sim_containsAll sim_sameOrEqual xs ys) (.ret rfl)

theorem sim_relatedViews (op : OrderOp) (a b : Value) :
    A.Same (relatedViews op a b) (relatedViews op (A.names.on a) (A.names.on b)) := by
  refine (sim_asSetView? a).bind fun xs => (sim_asSetView? b).bind fun ys => ?_
  cases xs with
  | none => exact .fails _
  | some xs =>
    cases ys with
    | none => exact .fails _
    | some ys => exact sim_relatedSets op xs ys

theorem sim_relatedPlain (op : OrderOp) (a b : Value) :
    A.Same (relatedPlain op a b) (relatedPlain op (A.names.on a) (A.names.on b)) := by
  unfold relatedPlain
  simp only [textOf?_on, numOf?_on]
  split
  · exact .ret rfl
  · split
    · exact sim_liftOption_inert _ _
    · exact sim_relatedViews op a b

section Order

variable {related related' : Value → Value → Eval Bool}
  (hr : ∀ x y, A.Same (related x y) (related' (A.names.on x) (A.names.on y)))

include hr

theorem sim_relatedRows (op : OrderOp) (xs ys : List Value) :
    A.Same (relatedRows related op xs ys) (relatedRows related' op (xs.map A.names.on) (ys.map A.names.on)) := by
  induction xs generalizing ys with
  | nil => cases ys <;> exact .ret rfl
  | cons x xs ih =>
    cases ys with
    | nil => exact .ret rfl
    | cons y ys => exact (sim_sameOrEqual x y).bind fun _ => .branch (ih ys) (hr x y)

theorem sim_relatedPresent (op : OrderOp) (a b : Value) :
    A.Same (relatedPresent related op a b) (relatedPresent related' op (A.names.on a) (A.names.on b)) := by
  have plain := sim_relatedPlain (A := A) op a b
  cases a
  case list r =>
    cases b
    case list q =>
      exact (sim_listItems r).bind fun xs => (sim_listItems q).bind fun ys => sim_relatedRows hr op xs ys
    all_goals exact plain
  case tuple xs =>
    cases b
    case tuple ys =>
      rw [on_tuple, on_tuple]
      exact sim_relatedRows hr op xs ys
    all_goals exact plain
  case date x =>
    cases b
    case date y => exact .ret rfl
    all_goals exact plain
  case moment x =>
    cases b
    case moment y => exact sim_liftOption_inert _ _
    all_goals exact plain
  case bytes x =>
    cases b
    case bytes y => exact .ret rfl
    all_goals exact plain
  all_goals exact plain

end Order

theorem sim_relatedWithin (op : OrderOp) (n : Nat) (a b : Value) :
    A.Same (relatedWithin op n a b) (relatedWithin op n (A.names.on a) (A.names.on b)) := by
  induction n generalizing a b with
  | zero => exact .fails _
  | succ n ih =>
    unfold relatedWithin
    simp only [missingOf?_on]
    split
    · exact sim_failMissing _
    · exact sim_relatedPresent ih op a b

theorem sim_valueRelated (op : OrderOp) (a b : Value) :
    A.Same (valueRelated op a b) (valueRelated op (A.names.on a) (A.names.on b)) :=
  sim_relatedWithin op _ a b

end Stencil.Engine.Agreement
