import Mathlib.Data.List.GetD
import Mathlib.Data.List.InsertIdx
import Stencil.Engine.Method
import Stencil.Proofs.Library.Arithmetic

/-!
# Methods follow each other

Arguments are bound by their names, and a method is chosen by its name; neither looks at references. What a method
does to a row or a map is then the same up to their names.
-/

set_option autoImplicit false

namespace Stencil.Engine

open Stencil.Template

section Sorting

variable {C : Coupling} {α β : Type} {f : α → β} {less : α → α → Eval Bool} {less' : β → β → Eval Bool}
  (hless : ∀ a b, C.Sim id (less a b) (less' (f a) (f b)))

include hless

theorem sim_runLength (falls : Bool) (x : α) (xs : List α) :
    C.Sim id (runLength less falls x xs) (runLength less' falls (f x) (xs.map f)) := by
  induction xs generalizing x with
  | nil => exact .ret rfl
  | cons y rest ih => exact (hless y x).bind fun _ => .branch ((ih y).bind fun _ => .ret rfl) (.ret rfl)

theorem sim_firstRun (xs : List α) :
    C.Sim (fun p => (p.1.map f, p.2.map f)) (firstRun less xs) (firstRun less' (xs.map f)) := by
  rcases xs with _ | ⟨x, _ | ⟨y, rest⟩⟩
  · exact .ret rfl
  · exact .ret rfl
  · refine (hless y x).bind fun falls => (sim_runLength hless falls y rest).bind fun n => .ret ?_
    rw [← List.map_cons, ← List.map_cons, id, id]
    cases falls <;> simp [List.map_take, List.map_drop, List.map_reverse]

theorem sim_findPlace (x : α) (sorted : Array α) (fuel low high : Nat) :
    C.Sim id (findPlace less x sorted fuel low high) (findPlace less' (f x) (sorted.map f) fuel low high) := by
  induction fuel generalizing low high with
  | zero => exact .ret rfl
  | succ fuel ih =>
    refine .branch ?_ (.ret rfl)
    simp only [Array.getElem?_map]
    cases sorted[low + (high - low) / 2]? with
    | none => exact .ret rfl
    | some y => exact (hless x y).bind fun _ => .branch (ih _ _) (ih _ _)

theorem sim_insertSorted (sorted : Array α) (x : α) :
    C.Sim (Array.map f) (insertSorted less sorted x) (insertSorted less' (sorted.map f) (f x)) := by
  unfold insertSorted
  rw [Array.size_map]
  refine (sim_findPlace hless x sorted _ 0 _).bind fun place => .ret ?_
  unfold Array.insertIdxIfInBounds
  simp only [id, Array.size_map]
  split
  · refine Array.ext (by simp) fun i _ _ => ?_
    simp only [Array.getElem_insertIdx, Array.getElem_map]
    split
    · rfl
    · split <;> rfl
  · rfl

theorem sim_sortM (xs : List α) : C.Sim (List.map f) (sortM less xs) (sortM less' (xs.map f)) := by
  refine (sim_firstRun hless xs).bind fun ⟨run, rest⟩ => ?_
  dsimp only
  rw [← List.map_toArray]
  exact (Coupling.Sim.foldlM (sim_insertSorted hless) run.toArray rest).bind fun sorted => .ret Array.toList_map

end Sorting

section Pure

variable (ρ : Renaming)

theorem matchPositional_on (ids : List String) (args : List Value) :
    matchPositional ids (args.map ρ.on) = (matchPositional ids args).map (List.map ρ.on) := by
  induction ids generalizing args with
  | nil => cases args <;> rfl
  | cons id ids ih =>
    cases args with
    | nil => rfl
    | cons v args =>
      simp only [List.map_cons, matchPositional, ih, Option.map_map]
      rfl

theorem any_name_on (given : Named) (id : String) :
    (given.map ρ.on).any (·.1 == id) = given.any (·.1 == id) := by
  rw [List.any_map]
  rfl

theorem matchNamed_on (names : List String) (given : Given) (named : Named) :
    matchNamed names (given.map ρ.on) (named.map ρ.on) = (matchNamed names given named).map (List.map ρ.on) := by
  induction named generalizing given with
  | nil => rfl
  | cons e rest ih =>
    have more : given.map ρ.on ++ [ρ.on e] = (given ++ [e]).map ρ.on := by simp
    have shown : ρ.on e = (e.1, ρ.on e.2) := rfl
    rw [List.map_cons, shown, matchNamed, matchNamed, any_name_on, ← shown, more, ih]
    split <;> rfl

theorem given?_on (s : Signature) (args : List Value) (named : Named) :
    s.given? (args.map ρ.on) (named.map ρ.on) = (s.given? args named).map (List.map ρ.on) := by
  unfold Signature.given?
  rw [matchPositional_on]
  cases matchPositional s.names args with
  | none => rfl
  | some given =>
    simp only [Option.map_some, Option.bind_eq_bind, Option.bind_some, matchNamed_on]
    cases matchNamed s.names given named with
    | none => rfl
    | some given =>
      simp only [Option.map_some, Option.bind_some, any_name_on]
      split <;> rfl

theorem lookup_on (g : Given) (id : String) : (g.map ρ.on).lookup id = (g.lookup id).map ρ.on := by
  induction g with
  | nil => rfl
  | cons e rest ih =>
    obtain ⟨name, v⟩ := e
    show List.lookup id ((name, ρ.on v) :: rest.map ρ.on) = _
    rw [List.lookup_cons, List.lookup_cons, ih]
    split <;> rfl

theorem get_on (g : Given) (id : String) (v : Value) :
    Given.get (g.map ρ.on) id (ρ.on v) = ρ.on (g.get id v) := by
  unfold Given.get
  rw [lookup_on]
  cases g.lookup id <;> rfl

@[simp] theorem get_null_on (g : Given) (id : String) : Given.get (g.map ρ.on) id .null = ρ.on (g.get id .null) :=
  get_on ρ g id .null

@[simp] theorem get_bool_on (g : Given) (id : String) (b : Bool) :
    Given.get (g.map ρ.on) id (.bool b) = ρ.on (g.get id (.bool b)) :=
  get_on ρ g id (.bool b)

@[simp] theorem get_int_on (g : Given) (id : String) (n : Int) :
    Given.get (g.map ρ.on) id (.int n) = ρ.on (g.get id (.int n)) :=
  get_on ρ g id (.int n)

@[simp] theorem get_float_on (g : Given) (id : String) (x : Float) :
    Given.get (g.map ρ.on) id (.float x) = ρ.on (g.get id (.float x)) :=
  get_on ρ g id (.float x)

@[simp] theorem get_text_on (g : Given) (id s : String) :
    Given.get (g.map ρ.on) id (.text s) = ρ.on (g.get id (.text s)) :=
  get_on ρ g id (.text s)

end Pure

namespace Agreement

variable {A : Agreement} {I I' : Interp}

theorem sim_signature (s : Signature) (args : List Value) (named : Named) :
    A.Sim (List.map A.names.on) (s.bind args named) (s.bind (args.map A.names.on) (named.map A.names.on)) := by
  unfold Signature.bind
  rw [given?_on]
  exact sim_liftOption _ _

theorem sim_needText (v : Value) : A.Sim id (needText v) (needText (A.names.on v)) := by
  unfold needText
  rw [textOf?_on]
  exact (sim_liftOption_inert _ _).congr A.names.on_inert

theorem sim_needInt (v : Value) : A.Sim id (needInt v) (needInt (A.names.on v)) := by
  unfold needInt
  rw [asIndex?_on]
  exact (sim_liftOption_inert _ _).congr A.names.on_inert

theorem sim_positional (names : List String) (required : Nat) (args : List Value) (named : Named) :
    A.Sim (List.map A.names.on) (positional names required args named)
      (positional names required (args.map A.names.on) (named.map A.names.on)) := by
  unfold positional
  rw [List.isEmpty_map]
  exact .branch (sim_signature _ args named) (.fails _)

/-- The value of the only argument. -/
theorem sim_onlyArgument (args : List Value) (named : Named) :
    A.Same (do return (← positional ["x"] 1 args named).get "x" .null)
      (do return (← positional ["x"] 1 (args.map A.names.on) (named.map A.names.on)).get "x" .null) :=
  (sim_positional _ _ args named).bind fun g => .ret (get_on A.names g "x" .null)

theorem sim_noArguments (args : List Value) (named : Named) :
    A.Same (noArguments args named) (noArguments (args.map A.names.on) (named.map A.names.on)) := by
  unfold noArguments
  rw [List.isEmpty_map, List.isEmpty_map]
  exact .branch (.ret rfl) (.fails _)

theorem sim_charsArgument (v : Value) : A.Sim id (charsArgument v) (charsArgument (A.names.on v)) := by
  cases v
  case null => exact .ret rfl
  all_goals exact (sim_needText _).bind fun _ => .ret rfl

theorem sim_stripMethod (v : Value) (cs : List Char) (left right : Bool) (args : List Value) (named : Named) :
    A.Same (stripMethod v cs left right args named)
      (stripMethod (A.names.on v) cs left right (args.map A.names.on) (named.map A.names.on)) := by
  refine (sim_positional _ _ args named).bind fun g => ?_
  rw [get_null_on]
  exact (sim_charsArgument _).bind fun _ => .ret (likeText_on A.names v _)

theorem sim_splitParts (limit : Nat) (cs : List Char) (sep : Value) :
    A.Sim id (splitParts limit cs sep) (splitParts limit cs (A.names.on sep)) := by
  cases sep
  case null => exact .ret rfl
  all_goals exact (sim_needText _).bind fun _ => .branch (.failing _ _ _) (.ret rfl)

theorem sim_splitMethod (v : Value) (cs : List Char) (args : List Value) (named : Named) :
    A.Same (splitMethod v cs args named)
      (splitMethod (A.names.on v) cs (args.map A.names.on) (named.map A.names.on)) := by
  refine (sim_signature _ args named).bind fun g => ?_
  simp only [get_null_on, get_int_on, likeText_on]
  refine (sim_needInt _).bind fun n => (sim_splitParts _ cs _).bind fun parts => ?_
  rw [id, ← Function.comp_def A.names.on, ← List.map_map]
  exact sim_newList _

theorem sim_partText (whole part : Value) :
    A.Sim id (partText whole part) (partText (A.names.on whole) (A.names.on part)) := by
  unfold partText
  rw [isSafe_on]
  cases part
  case text => exact .ret rfl
  all_goals exact sim_needText _

theorem sim_joinMethod (hI : Aligned A I I') (v : Value) (s : String) (items : Value) :
    A.Same (joinMethod I v s items) (joinMethod I' (A.names.on v) s (A.names.on items)) := by
  refine (sim_itemsOf hI items).bind fun parts => (Coupling.Sim.mapM (sim_partText v) parts).bind fun texts => .ret ?_
  rw [List.map_id, likeText_on]

theorem sim_affixArgument (found : List Char → Bool) (v : Value) :
    A.Same (affixArgument found v) (affixArgument found (A.names.on v)) := by
  have one : ∀ p, A.Sim id (do return found (← needText p).toList)
      (do return found (← needText (A.names.on p)).toList) :=
    fun p => (sim_needText p).bind fun _ => .ret rfl
  cases v
  case tuple items =>
    rw [on_tuple]
    exact (Coupling.Sim.anyM one items).bind fun _ => .ret rfl
  all_goals exact (sim_needText _).bind fun _ => .ret rfl

theorem sim_textMethod (hI : Aligned A I I') (v : Value) (s id : String) (args : List Value) (named : Named) :
    A.Same (textMethod I v s id args named)
      (textMethod I' (A.names.on v) s id (args.map A.names.on) (named.map A.names.on)) := by
  have plain : ∀ s, A.Same (do noArguments args named; return likeText v s)
      (do noArguments (args.map A.names.on) (named.map A.names.on); return likeText (A.names.on v) s) :=
    fun s => (sim_noArguments args named).bind fun _ => .ret (likeText_on A.names v s)
  unfold textMethod
  dsimp only
  split
  case h_1 => exact plain _
  case h_2 => exact plain _
  case h_3 => exact plain _
  case h_4 => exact plain _
  case h_5 => exact sim_stripMethod v _ _ _ args named
  case h_6 => exact sim_stripMethod v _ _ _ args named
  case h_7 => exact sim_stripMethod v _ _ _ args named
  case h_8 => exact sim_splitMethod v _ args named
  case h_9 =>
    refine (sim_noArguments args named).bind fun _ => ?_
    simp only [likeText_on]
    rw [← Function.comp_def A.names.on, ← List.map_map]
    exact sim_newList _
  case h_10 => exact (sim_onlyArgument args named).bind fun items => sim_joinMethod hI v s items
  case h_11 =>
    refine (sim_positional _ _ args named).bind fun g => ?_
    simp only [get_null_on, get_int_on]
    exact (sim_needText _).bind fun _ => (sim_partText v _).bind fun _ => (sim_needInt _).bind fun _ =>
      .ret (likeText_on A.names v _)
  case h_12 => exact (sim_onlyArgument args named).bind fun v => sim_affixArgument _ v
  case h_13 => exact (sim_onlyArgument args named).bind fun v => sim_affixArgument _ v
  case h_14 =>
    refine (sim_onlyArgument args named).bind fun v => (sim_needText v).bind fun part => ?_
    dsimp only [id]
    split <;> exact .ret rfl
  case h_15 =>
    refine (sim_onlyArgument args named).bind fun v => (sim_needText v).bind fun part => ?_
    dsimp only [id]
    split
    · exact .ret rfl
    · exact .fails _
  case h_16 => exact (sim_onlyArgument args named).bind fun v => (sim_needText v).bind fun part => .ret rfl
  case h_17 => exact .ret rfl
  case h_18 => exact .ret rfl
  case h_19 => exact .fails _

theorem sim_pairsOf (hI : Aligned A I I') (v : Value) : A.Same (pairsOf I v) (pairsOf I' (A.names.on v)) := by
  cases v
  case missing m => exact sim_failMissing m
  case dict r => exact sim_dictEntries r
  all_goals
    refine (sim_itemsOf hI _).bind fun items => .mapM (fun item => ?_) items
    refine (sim_itemsOf hI item).bind fun parts => ?_
    rcases parts with _ | ⟨k, _ | ⟨x, _ | _⟩⟩
    case cons.cons.nil => exact .ret rfl
    all_goals exact .fails _

theorem sim_putAll (entries more : List (Value × Value)) :
    A.Sim (List.map A.names.on) (putAll entries more)
      (putAll (entries.map A.names.on) (more.map A.names.on)) :=
  Coupling.Sim.foldlM (fun es e => sim_putEntry es e.1 e.2) entries more

theorem namedEntries_on (ρ : Renaming) (named : Named) :
    namedEntries (named.map ρ.on) = (namedEntries named).map ρ.on := by
  simp only [namedEntries, List.map_map]
  rfl

theorem sim_buildEntries (hI : Aligned A I I') (args : List Value) (named : Named) :
    A.Sim (List.map A.names.on) (buildEntries I args named)
      (buildEntries I' (args.map A.names.on) (named.map A.names.on)) := by
  unfold buildEntries
  rw [namedEntries_on]
  rcases args with _ | ⟨v, _ | _⟩
  · exact sim_putAll [] _
  · refine (sim_pairsOf hI v).bind fun pairs => ?_
    exact .bind (sim_putAll [] pairs) fun start => sim_putAll start _
  · exact .failing _ _ _

theorem withoutKey_on (ρ : Renaming) (entries : List (Value × Value)) (key : Value) :
    withoutKey (entries.map ρ.on) (ρ.on key) = (withoutKey entries key).map ρ.on := by
  unfold withoutKey
  rw [List.filter_map]
  congr 2
  funext e
  exact congrArg not (keyEqual_on ρ e.1 key)

/-- The value of a key, or something else. -/
theorem findKey?_getD_on (ρ : Renaming) (key other : Value) (entries : List (Value × Value)) :
    (findKey? (ρ.on key) (entries.map ρ.on)).getD (ρ.on other) = ρ.on ((findKey? key entries).getD other) := by
  rw [findKey?_on]
  cases findKey? key entries <;> rfl

theorem sim_popKey (r : Ref) (entries : List (Value × Value)) (key : Value) (default : Option Value) :
    A.Same (popKey r entries key default)
      (popKey (A.names.object r) (entries.map A.names.on) (A.names.on key) (default.map A.names.on)) := by
  unfold popKey
  rw [findKey?_on, withoutKey_on]
  cases findKey? key entries with
  | some v => exact .bind (sim_setEntries r _) fun _ => .ret rfl
  | none => exact sim_liftOption _ _

theorem sim_dictMethod (hI : Aligned A I I') (r : Ref) (id : String) (args : List Value) (named : Named) :
    A.Same (dictMethod I r id args named)
      (dictMethod I' (A.names.object r) id (args.map A.names.on) (named.map A.names.on)) := by
  refine (sim_dictEntries r).bind fun entries => ?_
  dsimp only
  rw [Renaming.on_list_eq]
  split
  case h_1 => exact .bind (sim_noArguments args named) fun _ => .ret rfl
  case h_2 => exact .bind (sim_noArguments args named) fun _ => .ret rfl
  case h_3 => exact .bind (sim_noArguments args named) fun _ => .ret rfl
  case h_4 =>
    refine .bind (sim_noArguments args named) fun _ => (sim_insists r).bind fun b => ?_
    exact (sim_alloc (.dict entries b)).bind fun _ => .ret rfl
  case h_5 => exact .bind (sim_noArguments args named) fun _ => .bind (sim_setEntries r []) fun _ => .ret rfl
  case h_6 =>
    refine (sim_positional _ _ args named).bind fun g => ?_
    simp only [get_null_on]
    exact .bind (sim_needKey _) fun _ => .ret (findKey?_getD_on A.names _ _ entries)
  case h_7 =>
    refine (sim_positional _ _ args named).bind fun (g : Given) => ?_
    simp only [get_null_on, findKey?_on, putKey_on]
    refine .bind (sim_needKey _) fun _ => ?_
    cases findKey? (g.get "key" .null) entries with
    | some v => exact .ret rfl
    | none => exact .bind (sim_setEntries r _) fun _ => .ret rfl
  case h_8 =>
    refine (sim_positional _ _ args named).bind fun g => ?_
    simp only [get_null_on, List.isEmpty_map, lookup_on]
    exact .branch (.bind (sim_needKey _) fun _ => sim_popKey r entries _ _) (sim_popKey r entries _ _)
  case h_9 =>
    refine .bind (sim_noArguments args named) fun _ => ?_
    rw [List.getLast?_map, ← List.map_dropLast]
    rcases entries.getLast? with _ | ⟨k, v⟩
    · exact .fails _
    · exact .bind (sim_setEntries r _) fun _ => .ret rfl
  case h_10 =>
    refine (sim_buildEntries hI args named).bind fun more => (sim_putAll entries more).bind fun entries => ?_
    exact .bind (sim_setEntries r entries) fun _ => .ret rfl
  case h_11 => exact .fails _

theorem insertAt_map {α β : Type} (f : α → β) (xs : List α) (place : Nat) (x : α) :
    insertAt (xs.map f) place (f x) = (insertAt xs place x).map f := by
  simp [insertAt, List.map_take, List.map_drop]

theorem sim_placeOf (v : Value) (n : Nat) (items : List Value) :
    A.Sim id (placeOf v n items) (placeOf (A.names.on v) n (items.map A.names.on)) := by
  induction items generalizing n with
  | nil => exact .ret rfl
  | cons x rest ih => exact (sim_sameOrEqual x v).bind fun _ => .branch (.ret rfl) (ih _)

theorem sim_countEqual (v : Value) (items : List Value) :
    A.Sim id (countEqual v items) (countEqual (A.names.on v) (items.map A.names.on)) := by
  refine Coupling.Sim.foldlM (fun _ x => ?_) 0 items
  exact (sim_sameOrEqual x v).bind fun _ => .ret rfl

theorem sim_sortValues (reverse : Bool) (keyed : List (Value × Value)) :
    A.Sim (List.map A.names.on) (sortValues reverse keyed) (sortValues reverse (keyed.map A.names.on)) := by
  have sorts : ∀ xs : List (Value × Value), A.Sim (List.map A.names.on)
      (sortM (fun a b => valueRelated .lt a.1 b.1) xs)
      (sortM (fun a b => valueRelated .lt a.1 b.1) (xs.map A.names.on)) :=
    sim_sortM fun a b => (sim_valueRelated .lt a.1 b.1).congr A.names.on_inert
  unfold sortValues
  cases reverse with
  | true =>
    rw [if_pos rfl, if_pos rfl, ← List.map_reverse]
    refine (sorts keyed.reverse).bind fun sorted => .ret ?_
    rw [map_snd_on, List.map_reverse]
  | false =>
    rw [if_neg nofun, if_neg nofun]
    exact (sorts keyed).bind fun sorted => .ret (map_snd_on A.names sorted)

theorem sim_listMethod (hI : Aligned A I I') (r : Ref) (name : String) (args : List Value) (named : Named) :
    A.Same (listMethod I r name args named)
      (listMethod I' (A.names.object r) name (args.map A.names.on) (named.map A.names.on)) := by
  refine (sim_listItems r).bind fun items => ?_
  have sets : ∀ items : List Value, A.Same (do setObject r (.list items); return Value.null)
      (do setObject (A.names.object r) (.list (items.map A.names.on)); return Value.null) :=
    fun items => .bind (sim_setObject r (.list items)) fun _ => .ret rfl
  dsimp only
  rw [Renaming.on_list_eq]
  split
  case h_1 =>
    refine (sim_onlyArgument args named).bind fun v => ?_
    rw [show items.map A.names.on ++ [A.names.on v] = (items ++ [v]).map A.names.on by simp]
    exact sets _
  case h_2 =>
    refine (sim_onlyArgument args named).bind fun v => (sim_itemsOf hI v).bind fun more => ?_
    rw [Renaming.on_list_eq, ← List.map_append]
    exact sets _
  case h_3 =>
    refine (sim_positional _ _ args named).bind fun g => ?_
    simp only [get_null_on, List.length_map]
    refine (sim_needInt _).bind fun n => ?_
    rw [insertAt_map]
    exact sets _
  case h_4 =>
    refine (sim_positional _ _ args named).bind fun g => ?_
    simp only [get_int_on, List.length_map]
    refine (sim_needInt _).bind fun n => ?_
    dsimp only [id]
    cases placeIn? items.length n with
    | none => exact .fails _
    | some n =>
      dsimp only
      rw [List.eraseIdx_map]
      exact .bind (sim_setObject r (.list _)) fun _ => .ret (List.getD_map items .null A.names.on)
  case h_5 =>
    refine (sim_onlyArgument args named).bind fun v => (sim_placeOf v 0 items).bind fun n => ?_
    cases n with
    | none => exact .fails _
    | some n =>
      dsimp only [id]
      rw [List.eraseIdx_map]
      exact sets _
  case h_6 =>
    refine (sim_onlyArgument args named).bind fun v => (sim_placeOf v 0 items).bind fun n => ?_
    exact (sim_liftOption_inert _ n).bind fun _ => .ret rfl
  case h_7 => exact (sim_onlyArgument args named).bind fun v => (sim_countEqual v items).bind fun n => .ret rfl
  case h_8 =>
    refine .bind (sim_noArguments args named) fun _ => ?_
    rw [← List.map_reverse]
    exact sets _
  case h_9 => exact .bind (sim_noArguments args named) fun _ => sim_newList items
  case h_10 => exact .bind (sim_noArguments args named) fun _ => sets []
  case h_11 =>
    refine .bind (sim_signature _ [] named) fun g => ?_
    simp only [get_bool_on, List.isEmpty_map, List.map_map]
    refine .branch (.failing _ _ _) ((sim_truth hI _).bind fun reverse => ?_)
    have pairs : items.map ((fun v => (v, v)) ∘ A.names.on) = (items.map fun v => (v, v)).map A.names.on := by
      rw [List.map_map]
      rfl
    rw [pairs]
    exact (sim_sortValues _ _).bind fun items => sets items
  case h_12 => exact .fails _

theorem sim_tupleMethod (items : List Value) (id : String) (args : List Value) (named : Named) :
    A.Same (tupleMethod items id args named)
      (tupleMethod (items.map A.names.on) id (args.map A.names.on) (named.map A.names.on)) := by
  refine (sim_positional _ _ args named).bind fun g => ?_
  dsimp only
  rw [get_null_on]
  split
  · exact (sim_placeOf _ 0 items).bind fun n => (sim_liftOption_inert _ n).bind fun _ => .ret rfl
  · exact (sim_countEqual _ items).bind fun n => .ret rfl
  · exact .fails _

theorem sim_askedBefore (l : Loop) (args : List Value) :
    A.Same (askedBefore l args) (askedBefore (A.names.on l) (args.map A.names.on)) := by
  unfold askedBefore
  rw [Renaming.loop_lastChanged]
  cases l.lastChanged with
  | none => exact .ret rfl
  | some old => exact sim_equalRows sim_sameOrEqual old args

theorem sim_loopMethod (r : Ref) (id : String) (args : List Value) (named : Named) :
    A.Same (loopMethod r id args named)
      (loopMethod (A.names.object r) id (args.map A.names.on) (named.map A.names.on)) := by
  unfold loopMethod
  simp only [List.isEmpty_map]
  refine .branch (.failing _ _ _) ?_
  refine (sim_loop? r).bind fun l => ?_
  cases l with
  | none => exact .fails _
  | some l =>
    dsimp only [Renaming.on_some]
    split
    · rw [List.length_map]
      exact .branch (.failing _ _ _) (.ret (List.getD_map args .null A.names.on))
    · refine (sim_askedBefore l args).bind fun _ => .branch (.ret rfl) ?_
      exact .bind (sim_setObject r (.loop _)) fun _ => .ret rfl
    · exact .fails _

theorem sim_callMethod (hI : Aligned A I I') (owner : Value) (id : String) (args : List Value) (named : Named) :
    A.Same (callMethod I owner id args named)
      (callMethod I' (A.names.on owner) id (args.map A.names.on) (named.map A.names.on)) := by
  cases owner
  case text s => exact sim_textMethod hI (.text s) s id args named
  case safe s => exact sim_textMethod hI (.safe s) s id args named
  case dict r => exact sim_dictMethod hI r id args named
  case list r => exact sim_listMethod hI r id args named
  case tuple items =>
    rw [on_tuple]
    exact sim_tupleMethod items id args named
  case loop r => exact sim_loopMethod r id args named
  all_goals exact .fails _

end Agreement

end Stencil.Engine
