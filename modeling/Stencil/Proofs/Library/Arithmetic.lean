import Stencil.Engine.Arithmetic
import Stencil.Proofs.Library.Access

/-!
# Numbers, formats and operators follow each other

Computations on numbers do not look at the world; those on rows and texts move values as they are.
-/

set_option autoImplicit false

namespace Stencil.Engine

open Stencil.Template

def Supply.renamed (ρ : Renaming) (s : Supply) : Supply := ⟨ρ.on s.rest, ρ.on s.source⟩

instance : Renames Supply := ⟨Supply.renamed⟩

section Pure

variable (ρ : Renaming)

@[simp] theorem isSafe_on (v : Value) : isSafe (ρ.on v) = isSafe v := by
  cases v <;> rfl

@[simp] theorem isTextValue_on (v : Value) : isTextValue (ρ.on v) = isTextValue v := by
  cases v <;> rfl

@[simp] theorem isSet_on (v : Value) : isSet (ρ.on v) = isSet v := by
  cases v <;> rfl

@[simp] theorem isView_on (v : Value) : isView (ρ.on v) = isView v := by
  cases v
  case view kind r => cases kind <;> rfl
  all_goals rfl

theorem supplyOf_on (v : Value) : supplyOf (ρ.on v) = ρ.on (supplyOf v) := by
  cases v
  case tuple items =>
    rw [on_tuple]
    rfl
  all_goals rfl

theorem joinTexts_on (a b : Value) : joinTexts (ρ.on a) (ρ.on b) = (joinTexts a b).map ρ.on := by
  cases a
  case text => cases b <;> rfl
  case safe => cases b <;> rfl
  all_goals rfl

theorem repeatList_map {α β : Type} (f : α → β) (xs : List α) (n : Int) :
    repeatList (xs.map f) n = (repeatList xs n).map f := by
  simp [repeatList, List.map_flatten]

end Pure

theorem pairOf?_on (ρ : Renaming) (v : Value) : pairOf? (ρ.on v) = (pairOf? v).map fun e => (ρ.on e.1, ρ.on e.2) := by
  cases v
  case tuple items =>
    rw [on_tuple]
    rcases items with _ | ⟨k, _ | ⟨v, _ | _⟩⟩ <;> rfl
  all_goals rfl

namespace Agreement

variable {A : Agreement} {I I' : Interp}

theorem sim_truncated (x : Float) : A.Same (truncated x) (truncated x) := by
  unfold truncated
  split
  · exact .ret rfl
  · exact .branch (.fails _) (.fails _)

theorem sim_wholeOf (v : Value) : A.Same (wholeOf v) (wholeOf (A.names.on v)) := by
  cases v
  case missing m => exact sim_failMissing m
  case bool => exact .ret rfl
  case int => exact .ret rfl
  case float x => exact sim_truncated x
  case nan => exact .fails _
  case text s => exact sim_liftOption_inert _ _
  case safe s => exact sim_liftOption_inert _ _
  all_goals exact .fails _

theorem sim_toFloat (n : Num) : A.Same (toFloat n) (toFloat n) := by
  cases n with
  | int n => exact sim_liftOption_inert _ _
  | float x => exact .ret rfl
  | complex z => exact .fails _

theorem sim_floatOf (v : Value) : A.Same (floatOf v) (floatOf (A.names.on v)) := by
  cases v
  case missing m => exact sim_failMissing m
  case text s => exact sim_liftOption_inert .badValue (Number.readFloat? s)
  case safe s => exact sim_liftOption_inert .badValue (Number.readFloat? s)
  case bool => exact sim_toFloat _
  case int => exact sim_toFloat _
  case float => exact sim_toFloat _
  case nan => exact sim_toFloat _
  case complex => exact sim_toFloat _
  all_goals exact .fails _

abbrev withSupply {α : Type} (ρ : Renaming) (p : α × Supply) : α × Supply := (p.1, ρ.on p.2)

abbrev withSupplyAfter {α β : Type} (ρ : Renaming) (p : α × β × Supply) : α × β × Supply := (p.1, p.2.1, ρ.on p.2.2)

theorem sim_takeValue (s : Supply) : A.Same (takeValue s) (takeValue (A.names.on s)) := by
  obtain ⟨rest, source⟩ := s
  cases rest with
  | nil => exact .fails _
  | cons v rest => exact .ret rfl

theorem sim_numberOf (safe : Bool) (limit : Nat) (cs : List Char) (s : Supply) :
    A.Sim (withSupplyAfter A.names) (numberOf safe limit cs s) (numberOf safe limit cs (A.names.on s)) := by
  unfold numberOf
  split
  · refine (sim_takeValue s).bind fun ⟨v, s⟩ => ?_
    dsimp only [Renaming.on_pair]
    rw [asIndex?_on]
    cases asIndex? v with
    | some n => exact .branch (.failing _ _ _) (.branch (.failing _ _ _) (.ret rfl))
    | none => exact .fails _
  · exact .branch (.failing _ _ _) (.ret rfl)

theorem sim_formatInt (p : Place) (n : Int) : A.Sim id (formatInt p n) (formatInt p n) := by
  unfold formatInt
  dsimp only
  split
  case h_4 => exact .branch (.failing _ _ _) (.ret rfl)
  all_goals exact .ret rfl

theorem sim_placeText (hI : Aligned A I I') (safe : Bool) (kind : Char) (v : Value) :
    A.Sim id (placeText I safe kind v) (placeText I' safe kind (A.names.on v)) :=
  .branch (.branch ((sim_escaped hI v).bind fun _ => .ret rfl) ((sim_display hI v).bind fun _ => .ret rfl))
    ((sim_writable v).bind fun _ => .ret rfl)

theorem sim_placeChar (v : Value) : A.Same (placeChar v) (placeChar (A.names.on v)) := by
  unfold placeChar
  rw [asIndex?_on, textOf?_on]
  split
  · exact .branch (.ret rfl) (.fails _)
  · split
    · exact .ret rfl
    · exact .fails _
  · exact .fails _

theorem sim_placeWhole (safe : Bool) (v : Value) : A.Same (placeWhole safe v) (placeWhole safe (A.names.on v)) := by
  cases v
  case text s => exact .branch (sim_wholeOf (.text s)) (.fails _)
  case safe s => exact .branch (sim_wholeOf (.safe s)) (.fails _)
  all_goals exact sim_wholeOf _

theorem sim_placeFloat (safe : Bool) (v : Value) : A.Same (placeFloat safe v) (placeFloat safe (A.names.on v)) := by
  cases v
  case text s => exact .branch (sim_floatOf (.text s)) (.fails _)
  case safe s => exact .branch (sim_floatOf (.safe s)) (.fails _)
  all_goals exact sim_floatOf _

theorem sim_fillPlace (hI : Aligned A I I') (safe : Bool) (p : Place) (v : Value) :
    A.Sim id (fillPlace I safe p v) (fillPlace I' safe p (A.names.on v)) := by
  unfold fillPlace
  refine .branch (.fails _) ?_
  rw [asIndex?_on]
  split
  · exact (sim_placeText hI safe p.kind v).bind fun _ => .ret rfl
  · exact (sim_placeWhole safe v).bind fun n => sim_formatInt p n
  · exact .branch (.fails _) ((sim_liftOption_inert _ _).bind fun n => sim_formatInt p n)
  · exact (sim_placeFloat safe v).bind fun _ => .ret rfl
  · exact .branch (.fails _) ((sim_placeChar v).bind fun _ => .ret rfl)
  · exact .fails _

section Lookup

variable {lookUp lookUp' : Value → String → Eval Value}
  (hl : ∀ v key, A.Same (lookUp v key) (lookUp' (A.names.on v) key))

include hl

theorem sim_readKey (cs : List Char) (s : Supply) :
    A.Sim (withSupply A.names) (readKey lookUp cs s) (readKey lookUp' cs (A.names.on s)) := by
  unfold readKey
  split
  · next rest =>
    obtain ⟨values, source⟩ := s
    cases source with
    | none => exact .fails _
    | some source =>
      rcases keyOf 0 rest [] with _ | ⟨key, rest⟩
      · exact .fails _
      · exact (hl source key).bind fun v => .ret rfl
  · exact .ret rfl

omit hl in
theorem sim_readPrecision (safe : Bool) (p : Place) (cs : List Char) (s : Supply) :
    A.Sim (withSupplyAfter A.names) (readPrecision safe p cs s) (readPrecision safe p cs (A.names.on s)) := by
  unfold readPrecision
  split
  · exact (sim_numberOf safe precisionLimit _ s).bind fun _ => .ret rfl
  · exact .ret rfl

theorem sim_formatPlace (hI : Aligned A I I') (safe : Bool) (cs : List Char) (s : Supply) :
    A.Sim (withSupplyAfter A.names) (formatPlace I safe lookUp cs s) (formatPlace I' safe lookUp' cs (A.names.on s)) := by
  refine (sim_readKey hl cs s).bind fun ⟨cs, s⟩ => ?_
  refine (sim_numberOf safe widthLimit _ s).bind fun ⟨width, cs, s⟩ => ?_
  refine (sim_readPrecision safe _ cs s).bind fun ⟨p, cs, s⟩ => ?_
  dsimp only
  split
  · exact .fails _
  · exact (sim_takeValue s).bind fun ⟨v, s⟩ => (sim_fillPlace hI safe _ v).bind fun _ => .ret rfl

theorem sim_formatAll (hI : Aligned A I I') (safe : Bool) (n : Nat) (cs : List Char) (s : Supply) :
    A.Sim (withSupply A.names) (formatAll I safe lookUp n cs s) (formatAll I' safe lookUp' n cs (A.names.on s)) := by
  induction n generalizing cs s with
  | zero => exact .ret rfl
  | succ n ih =>
    unfold formatAll
    split
    · next h => cases h
    · exact .ret rfl
    · next same => cases same; exact (ih _ _).bind fun _ => .ret rfl
    · next same => cases same; exact .bind (sim_formatPlace hl hI safe _ _) fun ⟨_, rest, s⟩ => (ih rest s).bind fun _ => .ret rfl
    · next same => cases same; exact (ih _ _).bind fun _ => .ret rfl

theorem sim_formatText (hI : Aligned A I I') (template args : Value) :
    A.Same (formatText I lookUp template args)
      (formatText I' lookUp' (A.names.on template) (A.names.on args)) := by
  unfold formatText
  rw [isSafe_on, textOf?_on, supplyOf_on]
  refine (sim_formatAll hl hI _ _ _ _).bind fun ⟨cs, s⟩ => ?_
  have same : (A.names.on s).source.isNone = s.source.isNone ∧ (A.names.on s).rest.isEmpty = s.rest.isEmpty :=
    ⟨Option.isNone_map .., List.isEmpty_map ..⟩
  dsimp only
  rw [same.1, same.2]
  refine .branch (.failing _ _ _) (.ret ?_)
  split <;> rfl

end Lookup

theorem sim_newComplex (r : Except Mishap Number.Complex) : A.Same (newComplex r) (newComplex r) := by
  cases r with
  | ok z => exact .ret rfl
  | error m => exact .fails m

theorem sim_floatPower (x y : Float) : A.Same (floatPower x y) (floatPower x y) :=
  .branch (.failing _ _ _) (.branch
    (.branch (sim_newComplex _) (.branch (.ret rfl) (.fails _))) (sim_newFloat _))

theorem sim_intPower (a b : Int) : A.Same (intPower a b) (intPower a b) :=
  .branch (.branch (.ret rfl) (.branch (.fails _) (.ret rfl)))
    ((sim_toFloat _).bind fun x => (sim_toFloat _).bind fun y => sim_floatPower x y)

theorem sim_toComplex (n : Num) : A.Sim id (toComplex n) (toComplex n) := by
  cases n with
  | complex z => exact .ret rfl
  | int n => exact (sim_toFloat _).bind fun _ => .ret rfl
  | float x => exact (sim_toFloat _).bind fun _ => .ret rfl

theorem sim_complexOp (op : BinaryOp) (a b : Number.Complex) : A.Same (complexOp op a b) (complexOp op a b) := by
  cases op
  case div => exact sim_newComplex _
  case pow => exact sim_newComplex _
  case floorDiv => exact .fails _
  case mod => exact .fails _
  all_goals exact .ret rfl

theorem sim_floatOp (op : BinaryOp) (x y : Float) : A.Same (floatOp op x y) (floatOp op x y) := by
  cases op
  case pow => exact sim_floatPower x y
  case add => exact sim_newFloat _
  case sub => exact sim_newFloat _
  case mul => exact sim_newFloat _
  all_goals exact .branch (.fails _) (sim_newFloat _)

theorem sim_intOp (op : BinaryOp) (a b : Int) : A.Same (intOp op a b) (intOp op a b) := by
  cases op
  case div => exact .branch (.fails _) ((sim_liftOption_inert _ _).bind fun _ => .ret rfl)
  case floorDiv => exact .branch (.fails _) (.ret rfl)
  case mod => exact .branch (.fails _) (.ret rfl)
  case pow => exact sim_intPower a b
  all_goals exact .ret rfl

theorem sim_numericOp (op : BinaryOp) (m n : Num) : A.Same (numericOp op m n) (numericOp op m n) := by
  unfold numericOp
  split
  · exact sim_intOp op _ _
  · exact .branch
      (.branch (.fails _) ((sim_toComplex _).bind fun a => (sim_toComplex _).bind fun b => sim_complexOp op a b))
      ((sim_toFloat _).bind fun x => (sim_toFloat _).bind fun y => sim_floatOp op x y)

theorem sim_addValues (a b : Value) : A.Same (addValues a b) (addValues (A.names.on a) (A.names.on b)) := by
  have texts : ∀ a : Value, A.Same (liftOption .wrongType (joinTexts a b))
      (liftOption .wrongType (joinTexts (A.names.on a) (A.names.on b))) := by
    intro a
    rw [joinTexts_on]
    exact sim_liftOption _ _
  cases a
  case list r =>
    cases b
    case list q =>
      refine (sim_listItems r).bind fun xs => (sim_listItems q).bind fun ys => ?_
      rw [Renaming.on_list_eq, Renaming.on_list_eq, ← List.map_append]
      exact sim_newList _
    all_goals exact .fails _
  case tuple xs =>
    rw [on_tuple]
    cases b
    case tuple ys =>
      rw [on_tuple]
      refine .ret ?_
      rw [on_tuple, List.map_append]
    all_goals exact .fails _
  case bytes x =>
    cases b
    case bytes y => exact .ret rfl
    all_goals exact .fails _
  all_goals exact texts _

theorem sim_repetitions (length : Nat) (n : Int) : A.Same (repetitions length n) (repetitions length n) :=
  .branch (.fails _) (.branch (.fails _) (.ret rfl))

theorem sim_repeatValue? (v : Value) (n : Int) : A.Same (repeatValue? v n) (repeatValue? (A.names.on v) n) := by
  cases v
  case list r =>
    refine (sim_listItems r).bind fun items => ?_
    rw [Renaming.on_list_eq, List.length_map]
    refine (sim_repetitions _ n).bind fun k => ?_
    rw [repeatList_map]
    exact (sim_newList _).bind fun _ => .ret rfl
  case tuple xs =>
    rw [on_tuple]
    simp only [repeatValue?, List.length_map]
    refine (sim_repetitions _ n).bind fun k => .ret ?_
    rw [repeatList_map]
    exact congrArg some (on_tuple A.names _).symm
  case text s => exact (sim_repetitions _ n).bind fun _ => .ret rfl
  case safe s => exact (sim_repetitions _ n).bind fun _ => .ret rfl
  case bytes content => exact (sim_repetitions _ n).bind fun _ => .ret rfl
  all_goals exact .ret rfl

theorem sim_multiplyValues (a b : Value) :
    A.Same (multiplyValues a b) (multiplyValues (A.names.on a) (A.names.on b)) := by
  unfold multiplyValues
  rw [asIndex?_on, asIndex?_on]
  split
  · exact (sim_repeatValue? a _).bind fun v => sim_liftOption _ v
  · exact (sim_repeatValue? b _).bind fun v => sim_liftOption _ v
  · exact .fails _

theorem sim_formatKey (source : Value) (key : String) :
    A.Same (formatKey source key) (formatKey (A.names.on source) key) := by
  refine (sim_element? source (.text key)).bind fun v => ?_
  cases v with
  | some v => exact .ret rfl
  | none => cases source <;> exact .fails _

theorem any_keyEqual_on (ρ : Renaming) (v : Value) (items : List Value) :
    (items.map ρ.on).any (keyEqual (ρ.on v)) = items.any (keyEqual v) := by
  induction items with
  | nil => rfl
  | cons x xs ih => simp only [List.map_cons, List.any_cons, keyEqual_on, ih]

theorem sim_subtractSets (hI : Aligned A I I') (a b : Value) :
    A.Same (subtractSets I a b) (subtractSets I' (A.names.on a) (A.names.on b)) := by
  unfold subtractSets
  rw [isSet_on, isSet_on, isView_on, isView_on]
  refine .branch (.failing _ _ _) ?_
  refine (sim_itemsOf hI a).bind fun items => (sim_itemsOf hI b).bind fun others => ?_
  rw [Renaming.on_list_eq, Renaming.on_list_eq, ← List.map_append]
  refine .bind (.forM sim_needKey (items ++ others)) fun _ => ?_
  have kept : (items.map A.names.on).filter (fun x => !(others.map A.names.on).any (keyEqual x)) =
      (items.filter fun x => !others.any (keyEqual x)).map A.names.on := by
    rw [List.filter_map]
    congr 2
    funext x
    simp only [Function.comp_apply, any_keyEqual_on]
  rw [kept]
  exact (sim_alloc (.set _)).bind fun _ => .ret rfl

theorem sim_binaryOp (hI : Aligned A I I') (op : BinaryOp) (a b : Value) :
    A.Same (binaryOp I op a b) (binaryOp I' op (A.names.on a) (A.names.on b)) := by
  unfold binaryOp
  rw [isTextValue_on, missingOf?_on, missingOf?_on, numOf?_on, numOf?_on]
  refine .branch (sim_formatText sim_formatKey hI a b) ?_
  split
  · exact sim_failMissing _
  · split
    · exact sim_numericOp op _ _
    · cases op
      case add => exact sim_addValues a b
      case mul => exact sim_multiplyValues a b
      case sub => exact sim_subtractSets hI a b
      all_goals exact .fails _

theorem sim_negate (v : Value) : A.Same (negate v) (negate (A.names.on v)) := by
  cases v
  case missing m => exact sim_failMissing m
  case bool => exact .ret rfl
  case int => exact .ret rfl
  case float => exact sim_newFloat _
  case nan => exact sim_newFloat _
  case complex => exact .ret rfl
  all_goals exact .fails _

theorem sim_positive (v : Value) : A.Same (positive v) (positive (A.names.on v)) := by
  cases v
  case missing m => exact sim_failMissing m
  case bool => exact .ret rfl
  all_goals exact .branch (.ret rfl) (.fails _)

theorem sim_textContains (s : String) (part : Value) :
    A.Sim id (textContains s part) (textContains s (A.names.on part)) := by
  unfold textContains
  rw [textOf?_on]
  split
  · exact .ret rfl
  · exact .fails _

theorem sim_bytesContain (content : List UInt8) (part : Value) :
    A.Sim id (bytesContain content part) (bytesContain content (A.names.on part)) := by
  have numbered : ∀ n : Option Int, A.Sim id
      (do
        let n ← liftOption .wrongType n
        if 0 ≤ n && n < 256 then return content.any fun b => (b.toNat : Int) == n else fail .badValue)
      (do
        let n ← liftOption .wrongType n
        if 0 ≤ n && n < 256 then return content.any fun b => (b.toNat : Int) == n else fail .badValue) :=
    fun n => (sim_liftOption_inert _ n).bind fun n => .branch (.ret rfl) (.fails _)
  cases part
  case bytes p => exact .ret rfl
  all_goals exact numbered _

theorem sim_entriesContain (entries : List (Value × Value)) (part : Value) :
    A.Sim id (entriesContain entries part) (entriesContain (entries.map A.names.on) (A.names.on part)) := by
  unfold entriesContain
  rw [pairOf?_on]
  rcases pairOf? part with _ | ⟨k, v⟩
  · exact .ret rfl
  · refine .bind (sim_needKey k) fun _ => ?_
    rw [findKey?_on]
    cases findKey? k entries with
    | some w => exact sim_sameOrEqual w v
    | none => exact .ret rfl

theorem sim_hasKey (part : Value) (entries : List (Value × Value)) :
    A.Sim id (contains.hasKey part entries) (contains.hasKey (A.names.on part) (entries.map A.names.on)) := by
  refine .bind (sim_needKey part) fun _ => .ret ?_
  rw [findKey?_on, Option.isSome_map, id]

theorem sim_contains (hI : Aligned A I I') (whole part : Value) :
    A.Sim id (contains I whole part) (contains I' (A.names.on whole) (A.names.on part)) := by
  have sought : ∀ whole, A.Sim id (do I.seek (← iterate whole) part)
      (do I'.seek (← iterate (A.names.on whole)) (A.names.on part)) :=
    fun whole => (sim_iterate whole).bind fun r => (hI.seek r part).inert
  cases whole
  case text s => exact sim_textContains s part
  case safe s => exact sim_textContains s part
  case bytes content => exact sim_bytesContain content part
  case dict r => exact (sim_dictEntries r).bind fun entries => sim_hasKey part entries
  case view kind r =>
    cases kind
    case keys => exact (sim_dictEntries r).bind fun entries => sim_hasKey part entries
    case items => exact (sim_dictEntries r).bind fun entries => sim_entriesContain entries part
    case values =>
      refine (sim_knownItems? (.view .values r)).bind fun items => ?_
      cases items with
      | some items => exact sim_anyEqual part items
      | none => exact sought (.view .values r)
  case set r =>
    refine .bind (sim_needKey part) fun _ => (sim_setItems r).bind fun items => .ret ?_
    exact (any_keyEqual_on A.names part items)
  case range a b c =>
    unfold contains
    rw [asIndex?_on]
    cases asIndex? part with
    | some n => exact .ret rfl
    | none => exact sought (.range a b c)
  case missing m => exact .bind (sim_admitMissing m) fun _ => .ret rfl
  all_goals
    refine (sim_knownItems? _).bind fun items => ?_
    cases items with
    | some items => exact sim_anyEqual part items
    | none => exact sought _

theorem sim_compareValues (hI : Aligned A I I') (op : CompareOp) (a b : Value) :
    A.Sim id (compareValues I op a b) (compareValues I' op (A.names.on a) (A.names.on b)) := by
  cases op
  case eq => exact sim_valueEqual a b
  case ne => exact (sim_valueEqual a b).bind fun _ => .ret rfl
  case member => exact sim_contains hI b a
  case notMember => exact (sim_contains hI b a).bind fun _ => .ret rfl
  all_goals exact sim_valueRelated _ a b

end Agreement

end Stencil.Engine
