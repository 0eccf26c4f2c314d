import Stencil.Engine.Filter
import Stencil.Proofs.Library.Method

/-!
# Tests and filters follow each other

A test or filter is chosen by its name, its arguments are bound by theirs, and what it does is made of operations that
follow each other.
-/

set_option autoImplicit false

namespace Stencil.Engine

open Stencil.Template

section Pure

variable (ρ : Renaming)

theorem ignoreCase_on (v : Value) : ignoreCase (ρ.on v) = ρ.on (ignoreCase v) := by
  cases v <;> rfl

@[simp] theorem isMissing_on (v : Value) : isMissing (ρ.on v) = isMissing v := by
  cases v <;> rfl

@[simp] theorem isNumber_on (v : Value) : isNumber (ρ.on v) = isNumber v := by
  cases v <;> rfl

@[simp] theorem isSequence_on (v : Value) : isSequence (ρ.on v) = isSequence v := by
  cases v <;> rfl

@[simp] theorem canCall_on (v : Value) : canCall (ρ.on v) = canCall v := by
  cases v <;> rfl

theorem smallEqual_on (a b : Value) : smallEqual (ρ.on a) (ρ.on b) = smallEqual a b := by
  cases a
  case null => cases b <;> rfl
  case bool => cases b <;> rfl
  case int => cases b <;> rfl
  case text => cases b <;> rfl
  all_goals rfl

@[simp] theorem isSame_on (a b : Value) : isSame (ρ.on a) (ρ.on b) = isSame a b := by
  rw [isSame, isSame, smallEqual_on, identical_on]

@[simp] theorem isList_on (v : Value) : isList (ρ.on v) = isList v := by
  cases v <;> rfl

theorem safeLike_on (v s : Value) : safeLike (ρ.on v) (ρ.on s) = ρ.on (safeLike v s) := by
  unfold safeLike
  rw [isSafe_on, textOf?_on]
  split <;> rfl

theorem joinLines_on (separator : Value) (lines : List Value) :
    joinLines (ρ.on separator) (lines.map ρ.on) = ρ.on (joinLines separator lines) := by
  have plain : ∀ separator : Value,
      Value.text (((textOf? separator).getD "").intercalate ((lines.map ρ.on).map fun line => (textOf? line).getD "")) =
        .text (((textOf? separator).getD "").intercalate (lines.map fun line => (textOf? line).getD "")) := by
    intro separator
    rw [List.map_map]
    simp only [Function.comp_def, textOf?_on]
  cases separator
  case safe s =>
    show Value.safe _ = .safe _
    rw [List.map_map]
    congr 3
    funext line
    cases line <;> rfl
  all_goals exact plain _

theorem orDefault_on (default found : Value) :
    orDefault (ρ.on default) (ρ.on found) = ρ.on (orDefault default found) := by
  cases found
  case missing m => cases default <;> rfl
  all_goals rfl

theorem present?_on (v : Value) : present? (ρ.on v) = (present? v).map ρ.on := by
  cases v <;> rfl

theorem batches_on (size : Nat) (fill : Option Value) (n : Nat) (items : List Value) :
    batches size (fill.map ρ.on) n (items.map ρ.on) = (batches size fill n items).map (List.map ρ.on) := by
  induction n generalizing items with
  | zero => rfl
  | succ n ih =>
    cases items with
    | nil => rfl
    | cons x xs =>
      rw [List.map_cons]
      unfold batches
      rw [← List.map_cons, ← List.map_drop, ih]
      cases fill <;> simp [List.map_take]

end Pure

namespace Agreement

variable {A : Agreement} {I I' : Interp}

theorem sim_pathPart (like : Value) (s : String) :
    A.Same (pathPart like s) (pathPart (A.names.on like) s) :=
  .branch ((sim_liftOption_inert _ _).bind fun _ => .ret rfl) (.ret (likeText_on A.names like s))

theorem sim_pathParts (v : Value) : A.Sim (List.map A.names.on) (pathParts v) (pathParts (A.names.on v)) := by
  have text : ∀ (v : Value) (s : String), A.Sim (List.map A.names.on) ((s.splitOn ".").mapM (pathPart v))
      ((s.splitOn ".").mapM (pathPart (A.names.on v))) :=
    fun v s => .mapM_same (sim_pathPart v) _
  cases v
  case null => exact .ret rfl
  case text s => exact text (.text s) s
  case safe s => exact text (.safe s) s
  all_goals exact .ret rfl

theorem sim_followPath (hI : Aligned A I I') (item : Value) (parts : List Value) :
    A.Same (followPath I item parts) (followPath I' (A.names.on item) (parts.map A.names.on)) :=
  .foldlM (fun v part => sim_getElement hI v part) item parts

theorem sim_itemKey (hI : Aligned A I I') (exact : Bool) (parts : List Value) (item : Value) :
    A.Same (itemKey I exact parts item) (itemKey I' exact (parts.map A.names.on) (A.names.on item)) := by
  refine (sim_followPath hI item parts).bind fun v => .ret ?_
  cases exact
  · exact ignoreCase_on A.names v
  · rfl

theorem sim_pathList (v : Value) :
    A.Sim (List.map (List.map A.names.on)) (pathList v) (pathList (A.names.on v)) := by
  unfold pathList
  rw [textOf?_on]
  split
  · simp only [likeText_on]
    exact .mapM_same (fun p => sim_pathParts (likeText v p)) _
  · exact (sim_pathParts v).bind fun _ => .ret rfl

theorem sim_reverseFlag (v : Value) : A.Sim id (reverseFlag v) (reverseFlag (A.names.on v)) :=
  (sim_needInt v).bind fun _ => .branch (.failing _ _ _) (.ret rfl)

/-! ## Tests -/

theorem sim_remainderIs (hI : Aligned A I I') (v divisor : Value) (wanted : Int) :
    A.Sim id (remainderIs I v divisor wanted) (remainderIs I' (A.names.on v) (A.names.on divisor) wanted) :=
  (sim_binaryOp hI .mod v divisor).bind fun x => (sim_valueEqual x (.int wanted)).congr A.names.on_inert

theorem sim_plainTest (hI : Aligned A I I') (name : String) (v : Value) :
    A.Sim id (plainTest I name v) (plainTest I' name (A.names.on v)) := by
  have keyed : ∀ b : Bool, A.Sim id (do needKey v; return b) (do needKey (A.names.on v); return b) :=
    fun b => .bind (sim_needKey v) fun _ => .ret rfl
  unfold plainTest
  simp only [isMissing_on, isNumber_on, isTextValue_on, isSequence_on, canCall_on, isSafe_on, textOf?_on]
  split
  case h_3 => exact .ret (by cases v <;> rfl)
  case h_4 => exact .ret (by cases v <;> rfl)
  case h_5 => exact .ret (by cases v <;> rfl)
  case h_6 => exact .ret (by cases v <;> rfl)
  case h_7 => exact .ret (by cases v <;> rfl)
  case h_8 => exact .ret (by cases v <;> rfl)
  case h_11 => exact .ret (by cases v <;> rfl)
  case h_12 =>
    cases v
    case missing m => exact .bind (sim_admitMissing m) fun _ => .ret rfl
    all_goals exact .ret rfl
  case h_16 => exact sim_remainderIs hI v (.int 2) 1
  case h_17 => exact sim_remainderIs hI v (.int 2) 0
  case h_18 => exact (sim_display hI v).bind fun _ => .ret rfl
  case h_19 => exact (sim_display hI v).bind fun _ => .ret rfl
  case h_20 => exact keyed _
  case h_21 => exact keyed _
  case h_22 => exact .raise _ rfl
  all_goals exact .ret rfl

theorem sim_applyTest (hI : Aligned A I I') (name : String) (args : List Value) (named : Named) :
    A.Sim id (applyTest I name args named) (applyTest I' name (args.map A.names.on) (named.map A.names.on)) := by
  unfold applyTest
  cases compareTest? name with
  | some op =>
    have compared : ∀ g : Given, A.Sim id (compareValues I op (g.get "value" .null) (g.get "seq" .null))
        (compareValues I' op (Given.get (g.map A.names.on) "value" .null)
          (Given.get (g.map A.names.on) "seq" .null)) := by
      intro g
      rw [get_null_on, get_null_on]
      exact sim_compareValues hI op _ _
    exact .branch ((sim_signature _ args named).bind compared) ((sim_positional _ _ args named).bind compared)
  | none =>
    dsimp only
    split
    · refine (sim_signature _ args named).bind fun g => ?_
      rw [get_null_on, get_null_on]
      exact sim_remainderIs hI _ _ 0
    · refine (sim_signature _ args named).bind fun g => .ret ?_
      rw [get_null_on, get_null_on]
      exact isSame_on A.names _ _
    · refine .branch ?_ ?_
      · unfold missingTest
        rw [List.isEmpty_map]
        exact .branch (.raise _ rfl) (.fails _)
      · rcases args with _ | ⟨v, _ | _⟩
        · exact .fails _
        · dsimp only [List.map_cons, List.map_nil]
          rw [List.isEmpty_map]
          exact .branch (sim_plainTest hI _ v) (.fails _)
        · exact .fails _

/-! ## Numbers -/

theorem sim_floatOr (default v : Value) :
    A.Same (floatOr default v) (floatOr (A.names.on default) (A.names.on v)) :=
  sim_recover ((sim_floatOf v).bind fun x => sim_newFloat x) (.ret rfl) rfl rfl

theorem sim_filterFloat (v default : Value) :
    A.Same (filterFloat v default) (filterFloat (A.names.on v) (A.names.on default)) := by
  cases v
  case nan mark => exact .ret rfl
  all_goals exact sim_floatOr default _

theorem sim_wholeInBase (s : String) (base : Value) :
    A.Same (wholeInBase s base) (wholeInBase s (A.names.on base)) :=
  (sim_needInt base).bind fun _ => .branch (sim_liftOption_inert _ _) (.fails _)

theorem sim_wholeFrom (v base : Value) : A.Same (wholeFrom v base) (wholeFrom (A.names.on v) (A.names.on base)) := by
  unfold wholeFrom
  rw [textOf?_on]
  split
  · exact sim_wholeInBase _ base
  · exact sim_wholeOf v

theorem sim_wholeByFloat (v default : Value) :
    A.Same (wholeByFloat v default) (wholeByFloat (A.names.on v) (A.names.on default)) :=
  sim_recover ((sim_floatOf v).bind fun x => (sim_truncated x).bind fun _ => .ret rfl) (.ret rfl) rfl rfl

theorem sim_filterInt (v default base : Value) :
    A.Same (filterInt v default base) (filterInt (A.names.on v) (A.names.on default) (A.names.on base)) :=
  sim_recover ((sim_wholeFrom v base).bind fun _ => .ret rfl) (sim_wholeByFloat v default) rfl rfl

theorem sim_filterAbs (v : Value) : A.Same (filterAbs v) (filterAbs (A.names.on v)) := by
  unfold filterAbs
  rw [numOf?_on]
  split
  · exact .ret rfl
  · exact sim_newFloat _
  · exact (sim_liftOption_inert _ _).bind fun _ => .ret rfl
  · exact .fails _

theorem sim_roundWhole (n : Int) (places : Value) :
    A.Same (roundWhole n places) (roundWhole n (A.names.on places)) := by
  cases places
  case null => exact .ret rfl
  all_goals exact (sim_needInt _).bind fun _ => .ret rfl

theorem sim_roundBroken (x : Float) (places : Value) :
    A.Same (roundBroken x places) (roundBroken x (A.names.on places)) := by
  cases places
  case null =>
    change A.Same (roundBroken x .null) (roundBroken x .null)
    unfold roundBroken
    dsimp only
    split
    · exact .ret rfl
    · exact .branch (.fails _) (.fails _)
  all_goals
    exact (sim_needInt _).bind fun _ => .branch ((sim_liftOption_inert _ _).bind fun _ => .ret rfl) (sim_newFloat _)

theorem sim_roundCommon (v places : Value) :
    A.Same (roundCommon v places) (roundCommon (A.names.on v) (A.names.on places)) := by
  unfold roundCommon
  rw [numOf?_on]
  split
  · exact sim_roundWhole _ places
  · exact sim_roundBroken _ places
  · exact .fails _

theorem sim_wholeBeyond (up : Bool) (v : Value) : A.Same (wholeBeyond up v) (wholeBeyond up (A.names.on v)) := by
  unfold wholeBeyond
  rw [numOf?_on]
  split
  · exact .ret rfl
  · exact (sim_truncated _).bind fun _ => .ret rfl
  · exact .fails _

theorem sim_roundDirected (hI : Aligned A I I') (up : Bool) (v places : Value) :
    A.Same (roundDirected I up v places) (roundDirected I' up (A.names.on v) (A.names.on places)) :=
  (sim_binaryOp hI .pow (.int 10) places).bind fun power => (sim_binaryOp hI .mul v power).bind fun scaled =>
    (sim_wholeBeyond up scaled).bind fun whole => sim_binaryOp hI .div whole power

theorem sim_filterRound (hI : Aligned A I I') (v precision method : Value) :
    A.Same (filterRound I v precision method)
      (filterRound I' (A.names.on v) (A.names.on precision) (A.names.on method)) := by
  refine .bind (sim_needKey method) fun _ => ?_
  rw [textOf?_on]
  split
  · exact sim_roundCommon v precision
  · exact sim_roundDirected hI true v precision
  · exact sim_roundDirected hI false v precision
  · exact .raise _ rfl

/-! ## Rows -/

theorem sim_filterFirst (hI : Aligned A I I') (v : Value) :
    A.Same (filterFirst I v) (filterFirst I' (A.names.on v)) := by
  refine (sim_iterate v).bind fun it => (hI.next it).bind fun x => ?_
  cases x with
  | some x => exact .ret rfl
  | none => exact sim_newMissing _ _

theorem sim_keysBackward (r : Ref) (typeName : String) (kind : ViewKind) :
    A.Same (reversed?.keysBackward r typeName kind)
      (reversed?.keysBackward (A.names.object r) typeName kind) := by
  refine (sim_dictEntries r).bind fun entries => (sim_insists r).bind fun _ => .ret ?_
  rw [Renaming.on_list_eq, viewItems_on, List.length_map, ← List.map_reverse]
  rfl

theorem sim_reversed? (v : Value) : A.Same (reversed? v) (reversed? (A.names.on v)) := by
  have rows : ∀ items items' : List Value, items' = items.map A.names.on →
      A.Same (pure (some (Iter.items "reversed" items.reverse)) : Eval (Option Iter))
        (pure (some (Iter.items "reversed" items'.reverse))) := by
    rintro items _ rfl
    exact .ret (by rw [← List.map_reverse]; rfl)
  cases v
  case list r =>
    refine (sim_listItems r).bind fun items => .ret ?_
    rw [Renaming.on_list_eq, List.length_map]
    rfl
  case dict r => exact (sim_keysBackward r _ _).bind fun _ => .ret rfl
  case view kind r => cases kind <;> exact (sim_keysBackward r _ _).bind fun _ => .ret rfl
  case range a b c => exact .ret rfl
  case tuple items =>
    rw [on_tuple]
    exact rows items _ rfl
  case text s => exact rows _ _ (charTexts_on A.names s).symm
  case safe s => exact rows _ _ (by rw [List.map_map]; rfl)
  case bytes content => exact rows _ _ (byteValues_on A.names content).symm
  case missing m => exact .bind (sim_admitMissing m) fun _ => .ret rfl
  all_goals exact .ret rfl

theorem sim_filterLast (hI : Aligned A I I') (v : Value) :
    A.Same (filterLast I v) (filterLast I' (A.names.on v)) := by
  refine (sim_reversed? v).bind fun it => (sim_liftOption _ it).bind fun it => ?_
  refine (sim_alloc (.iter it)).bind fun r => (hI.next r).bind fun x => ?_
  cases x with
  | some x => exact .ret rfl
  | none => exact sim_newMissing _ _

theorem sim_reverseItems (hI : Aligned A I I') (v : Value) :
    A.Same (reverseItems I v) (reverseItems I' (A.names.on v)) := by
  refine (sim_reversed? v).bind fun it => ?_
  cases it with
  | some it => exact sim_newIter it
  | none =>
    have spared (x : Fault) (w w' : World) (both : A.noted x ∧ A.aside w w') :
        (A.noted x ∧ (x == .mishap .wrongType) = false) ∧ A.aside w w' :=
      ⟨⟨both.1, beq_eq_false_iff_ne.mpr (A.noted_apart x both.1)⟩, both.2⟩
    refine sim_recover (.heeding ?_ spared) (.raise _ rfl) rfl rfl
    refine (sim_itemsOf hI v).bind fun items => ?_
    rw [Renaming.on_list_eq, ← List.map_reverse]
    exact sim_newList _

theorem sim_filterReverse (hI : Aligned A I I') (v : Value) :
    A.Same (filterReverse I v) (filterReverse I' (A.names.on v)) := by
  cases v
  case text s => exact .ret rfl
  case safe s => exact .ret rfl
  all_goals exact sim_reverseItems hI _

theorem sim_filterList (hI : Aligned A I I') (v : Value) :
    A.Same (filterList I v) (filterList I' (A.names.on v)) :=
  (sim_itemsOf hI v).bind fun items => sim_newList items

theorem sim_filterSort (hI : Aligned A I I') (v reverse caseSensitive path : Value) :
    A.Same (filterSort I v reverse caseSensitive path)
      (filterSort I' (A.names.on v) (A.names.on reverse) (A.names.on caseSensitive) (A.names.on path)) := by
  refine (sim_truth hI caseSensitive).bind fun exact => (sim_pathList path).bind fun paths => ?_
  refine (sim_itemsOf hI v).bind fun items => (sim_reverseFlag reverse).bind fun reverse => ?_
  refine .bind (f := List.map A.names.on) (.mapM (fun item => ?_) items) fun keyed => ?_
  · refine .bind (f := List.map A.names.on) (.mapM (fun parts => sim_itemKey hI exact parts item) paths) fun keys => .ret ?_
    rw [Renaming.on_pair, on_tuple]
  · exact (sim_sortValues reverse keyed).bind fun sorted => sim_newList sorted

theorem sim_extremeOf {key key' : Value → Eval Value} (hk : ∀ v, A.Same (key v) (key' (A.names.on v))) (op : OrderOp)
    (best : Value × Value) (items : List Value) :
    A.Same (extremeOf key op best items) (extremeOf key' op (A.names.on best) (items.map A.names.on)) := by
  induction items generalizing best with
  | nil => exact .ret rfl
  | cons item rest ih =>
    exact (hk item).bind fun x => (sim_valueRelated op x best.1).bind fun _ => .branch (ih (x, item)) (ih best)

theorem sim_filterExtreme (hI : Aligned A I I') (op : OrderOp) (v caseSensitive path : Value) :
    A.Same (filterExtreme I op v caseSensitive path)
      (filterExtreme I' op (A.names.on v) (A.names.on caseSensitive) (A.names.on path)) := by
  refine (sim_itemsOf hI v).bind fun items => ?_
  cases items with
  | nil => exact sim_newMissing _ _
  | cons first rest =>
    refine (sim_truth hI caseSensitive).bind fun exact => (sim_pathParts path).bind fun parts => ?_
    refine (sim_itemKey hI exact parts first).bind fun best => ?_
    exact sim_extremeOf (fun v => sim_itemKey hI exact parts v) op (best, first) rest

theorem sim_filterSum (hI : Aligned A I I') (v path start : Value) :
    A.Same (filterSum I v path start) (filterSum I' (A.names.on v) (A.names.on path) (A.names.on start)) := by
  refine (sim_pathParts path).bind fun parts => (sim_itemsOf hI v).bind fun items => ?_
  rw [isTextValue_on]
  refine .branch (.failing _ _ _) (.foldlM (fun total item => ?_) start items)
  exact (sim_followPath hI item parts).bind fun x => sim_binaryOp hI .add total x

theorem sim_sortPlace (v : Value) : A.Sim id (sortPlace v) (sortPlace (A.names.on v)) :=
  (sim_valueEqual v (.text "key")).bind fun _ => .branch (.ret rfl)
    ((sim_valueEqual v (.text "value")).bind fun _ => .branch (.ret rfl) (.raise _ rfl))

theorem sim_entriesOf (v : Value) : A.Same (entriesOf v) (entriesOf (A.names.on v)) := by
  cases v
  case dict r => exact sim_dictEntries r
  case missing m => exact sim_failMissing m
  all_goals exact .fails _

theorem sim_filterDictSort (hI : Aligned A I I') (v caseSensitive sortBy reverse : Value) :
    A.Same (filterDictSort I v caseSensitive sortBy reverse)
      (filterDictSort I' (A.names.on v) (A.names.on caseSensitive) (A.names.on sortBy) (A.names.on reverse)) := by
  refine (sim_sortPlace sortBy).bind fun place => (sim_entriesOf v).bind fun entries => ?_
  refine (sim_reverseFlag reverse).bind fun reverse => ?_
  refine .bind (f := List.map A.names.on) (.mapM (fun e => ?_) entries) fun keyed => ?_
  · dsimp only [id]
    rw [pick_on]
    refine (sim_truth hI caseSensitive).bind fun exact => .ret ?_
    cases exact
    · exact congrArg (·, _) (ignoreCase_on A.names (place.pick e))
    · rfl
  · exact (sim_sortValues reverse keyed).bind fun sorted => sim_newList sorted

/-! ## Texts -/

theorem sim_mapText (hI : Aligned A I I') (f : List Char → List Char) (v : Value) :
    A.Same (mapText I f v) (mapText I' f (A.names.on v)) := by
  refine (sim_asText hI v).bind fun t => .ret ?_
  rw [textOf?_on, likeText_on]

theorem sim_filterTitle (hI : Aligned A I I') (v : Value) :
    A.Same (filterTitle I v) (filterTitle I' (A.names.on v)) :=
  (sim_display hI v).bind fun _ => .ret rfl

theorem sim_filterTrim (hI : Aligned A I I') (v chars : Value) :
    A.Same (filterTrim I v chars) (filterTrim I' (A.names.on v) (A.names.on chars)) :=
  (sim_charsArgument chars).bind fun _ => sim_mapText hI _ v

theorem sim_filterEscape (hI : Aligned A I I') (v : Value) :
    A.Same (filterEscape I v) (filterEscape I' (A.names.on v)) :=
  (sim_escaped hI v).bind fun _ => .ret rfl

theorem sim_filterForceEscape (hI : Aligned A I I') (v : Value) :
    A.Same (filterForceEscape I v) (filterForceEscape I' (A.names.on v)) :=
  (sim_display hI v).bind fun _ => .ret rfl

theorem sim_replaceLimit (count : Value) (cs : List Char) :
    A.Sim id (replaceLimit count cs) (replaceLimit (A.names.on count) cs) := by
  cases count
  case null => exact .ret rfl
  all_goals exact (sim_needInt _).bind fun _ => .ret rfl

theorem sim_replaceIn (like count : Value) (s old new : String) :
    A.Same (replaceIn like count s old new) (replaceIn (A.names.on like) (A.names.on count) s old new) :=
  (sim_replaceLimit count _).bind fun _ => .ret (likeText_on A.names like _)

theorem sim_filterReplace (hI : Aligned A I I') (env : Env) (v old new count : Value) :
    A.Same (filterReplace I env v old new count)
      (filterReplace I' (A.names.on env) (A.names.on v) (A.names.on old) (A.names.on new) (A.names.on count)) := by
  refine (sim_escapesNow hI env).bind fun escapes => .branch ?_ ?_
  · have replaced : ∀ subject : Value, A.Same
        (do
          let old ← display I old
          let new ← if isSafe subject then escaped I new else display I new
          replaceIn subject count ((textOf? subject).getD "") old new)
        (do
          let old ← display I' (A.names.on old)
          let new ← if isSafe (A.names.on subject) then escaped I' (A.names.on new) else display I' (A.names.on new)
          replaceIn (A.names.on subject) (A.names.on count) ((textOf? (A.names.on subject)).getD "") old new) := by
      intro subject
      rw [isSafe_on, textOf?_on]
      refine (sim_display hI old).bind fun old => .branch ?_ ?_
      · exact (sim_escaped hI new).bind fun new => sim_replaceIn subject count _ old new
      · exact (sim_display hI new).bind fun new => sim_replaceIn subject count _ old new
    rw [isSafe_on, isSafe_on, isSafe_on]
    exact .branch ((sim_filterEscape hI v).bind replaced) ((sim_asText hI v).bind replaced)
  · exact (sim_display hI v).bind fun s => (sim_display hI old).bind fun old => (sim_display hI new).bind fun new =>
      sim_replaceIn (.text "") count s old new

theorem sim_filterFormat (hI : Aligned A I I') (v : Value) (args : List Value) (named : Named) :
    A.Same (filterFormat I v args named)
      (filterFormat I' (A.names.on v) (args.map A.names.on) (named.map A.names.on)) := by
  unfold filterFormat
  simp only [List.isEmpty_map, namedEntries_on]
  refine .branch (.raise _ rfl) ?_
  refine (sim_asText hI v).bind fun template => .branch ?_ ?_
  · rw [← on_tuple]
    exact sim_formatText sim_formatKey hI template _
  · exact (sim_newDict _).bind fun args => sim_formatText sim_formatKey hI template args

theorem sim_withMargin (hI : Aligned A I I') (indention line : Value) :
    A.Same (withMargin I indention line) (withMargin I' (A.names.on indention) (A.names.on line)) := by
  unfold withMargin
  rw [textOf?_on]
  exact .branch (.ret rfl) (sim_binaryOp hI .add indention line)

theorem sim_indentRest (hI : Aligned A I I') (newline indention : Value) (lines : List Value) :
    A.Same (indentRest I newline indention lines)
      (indentRest I' (A.names.on newline) (A.names.on indention) (lines.map A.names.on)) := by
  rcases lines with _ | ⟨line, _ | ⟨next, rest⟩⟩
  · exact .ret rfl
  · exact .ret rfl
  · refine .bind (f := List.map A.names.on) (.mapM (sim_withMargin hI indention) (next :: rest)) fun rest => ?_
    rw [joinLines_on]
    exact (sim_binaryOp hI .add newline _).bind fun block => sim_binaryOp hI .add line block

theorem sim_indentBehind (hI : Aligned A I I') (newline indention blank : Value) (lines : List Value) :
    A.Same (indentBehind I newline indention blank lines)
      (indentBehind I' (A.names.on newline) (A.names.on indention) (A.names.on blank) (lines.map A.names.on)) := by
  refine (sim_truth hI blank).bind fun _ => .branch ?_ (sim_indentRest hI newline indention lines)
  exact (sim_binaryOp hI .add newline indention).bind fun separator => .ret (joinLines_on A.names separator lines)

theorem sim_marginOf (hI : Aligned A I I') (width : Value) :
    A.Same (marginOf I width) (marginOf I' (A.names.on width)) := by
  unfold marginOf
  rw [isTextValue_on]
  exact .branch (.ret rfl) (sim_binaryOp hI .mul (.text " ") width)

theorem linesOf_on (ρ : Renaming) (text : Value) : linesOf (ρ.on text) = (linesOf text).map ρ.on := by
  simp only [linesOf, textOf?_on, likeText_on, List.map_map, Function.comp_def]

theorem sim_filterIndent (hI : Aligned A I I') (v width first blank : Value) :
    A.Same (filterIndent I v width first blank)
      (filterIndent I' (A.names.on v) (A.names.on width) (A.names.on first) (A.names.on blank)) := by
  refine (sim_marginOf hI width).bind fun margin => ?_
  dsimp only
  rw [safeLike_on, show Value.text "\n" = A.names.on (Value.text "\n") from rfl, safeLike_on, isList_on]
  refine .branch (.failing _ _ _) ?_
  refine (sim_binaryOp hI .add v _).bind fun text => ?_
  rw [linesOf_on]
  refine (sim_indentBehind hI _ _ blank _).bind fun body => (sim_truth hI first).bind fun _ => ?_
  exact .branch (sim_binaryOp hI .add _ body) (.ret rfl)

theorem sim_jsonIndent (hI : Aligned A I I') (v indent : Value) :
    A.Sim id (jsonIndent I v indent) (jsonIndent I' (A.names.on v) (A.names.on indent)) := by
  have times : ∀ indent : Value, A.Sim id (do return textOf? (← binaryOp I .mul (.text " ") indent))
      (do return textOf? (← binaryOp I' .mul (.text " ") (A.names.on indent))) :=
    fun indent => (sim_binaryOp hI .mul (.text " ") indent).bind fun x => .ret (textOf?_on A.names x)
  unfold jsonIndent
  rw [isTextValue_on]
  cases indent
  case null => exact .ret rfl
  case text s => exact .branch (.ret rfl) (.ret rfl)
  case safe s => exact .branch (.ret rfl) (.ret rfl)
  all_goals exact .branch (.ret rfl) (times _)

theorem sim_filterToJson (hI : Aligned A I I') (v indent : Value) :
    A.Same (filterToJson I v indent) (filterToJson I' (A.names.on v) (A.names.on indent)) := by
  refine (sim_jsonIndent hI v indent).bind fun indent => (sim_freeze v).bind fun d => ?_
  dsimp only [id]
  rw [Renaming.on_inert]
  split
  · exact .ret rfl
  · exact .fails _

theorem sim_givenPath? (path : Value) : A.Same (givenPath? path) (givenPath? (A.names.on path)) := by
  cases path
  case null => exact .ret rfl
  all_goals exact (sim_pathParts _).bind fun _ => .ret rfl

theorem sim_followGiven (hI : Aligned A I I') (parts : Option (List Value)) (item : Value) :
    A.Same (followGiven I parts item) (followGiven I' (A.names.on parts) (A.names.on item)) := by
  cases parts with
  | none => exact .ret rfl
  | some parts => exact sim_followPath hI item parts

theorem any_isSafe_on (ρ : Renaming) (items : List Value) : (items.map ρ.on).any isSafe = items.any isSafe := by
  rw [List.any_map]
  simp only [Function.comp_def, isSafe_on]

theorem sim_joinEscaped (hI : Aligned A I I') (separator : Value) (items : List Value) :
    A.Same (joinEscaped I separator items) (joinEscaped I' (A.names.on separator) (items.map A.names.on)) := by
  unfold joinEscaped
  rw [isSafe_on, any_isSafe_on]
  refine .branch ?_ ?_
  · refine (sim_escaped hI separator).bind fun s => .bind (.mapM (sim_escaped hI) items) fun texts => .ret ?_
    rw [Renaming.map_inert]
    rfl
  · refine (sim_display hI separator).bind fun s => .bind (.mapM (sim_display hI) items) fun texts => .ret ?_
    rw [Renaming.map_inert]
    rfl

theorem sim_filterJoin (hI : Aligned A I I') (env : Env) (v separator path : Value) :
    A.Same (filterJoin I env v separator path)
      (filterJoin I' (A.names.on env) (A.names.on v) (A.names.on separator) (A.names.on path)) := by
  refine (sim_givenPath? path).bind fun parts => ?_
  have joined : A.Same
      (do
        if ← escapesNow I env then joinEscaped I separator (← (← itemsOf I v).mapM (followGiven I parts))
        else
          let plain ← display I separator
          let items ← (← itemsOf I v).mapM (followGiven I parts)
          return .text (plain.intercalate (← items.mapM (display I))))
      (do
        if ← escapesNow I' (A.names.on env) then
          joinEscaped I' (A.names.on separator)
            (← (← itemsOf I' (A.names.on v)).mapM (followGiven I' (A.names.on parts)))
        else
          let plain ← display I' (A.names.on separator)
          let items ← (← itemsOf I' (A.names.on v)).mapM (followGiven I' (A.names.on parts))
          return .text (plain.intercalate (← items.mapM (display I')))) := by
    refine (sim_escapesNow hI env).bind fun _ => .branch ?_ ?_
    · refine (sim_itemsOf hI v).bind fun items => ?_
      exact .bind (.mapM (sim_followGiven hI parts) items) fun items => sim_joinEscaped hI separator items
    · refine (sim_display hI separator).bind fun plain => (sim_itemsOf hI v).bind fun items => ?_
      refine .bind (.mapM (sim_followGiven hI parts) items) fun items => ?_
      refine .bind (.mapM (sim_display hI) items) fun texts => .ret ?_
      rw [Renaming.map_inert]
      rfl
  cases parts with
  | none => exact joined
  | some parts => exact .bind (sim_iterate v).dropped fun _ => joined

theorem sim_filterCenter (hI : Aligned A I I') (v width : Value) :
    A.Same (filterCenter I v width) (filterCenter I' (A.names.on v) (A.names.on width)) :=
  (sim_needInt width).bind fun _ => sim_mapText hI _ v

/-! ## Filters that give iterators -/

theorem sim_sift (env : Env) (id : String) (args : List Value) (named : Named) :
    A.Same (sift env id args named)
      (sift (A.names.on env) id (args.map A.names.on) (named.map A.names.on)) := by
  unfold sift
  simp only [List.isEmpty_map]
  have rest : A.Same
      (do
        if args.isEmpty then fail .wrongType
        newIter (.sifted id env args named none []))
      (do
        if args.isEmpty then fail .wrongType
        newIter (.sifted id (A.names.on env) (args.map A.names.on) (named.map A.names.on) none [])) :=
    .branch (.failing _ _ _) (sim_newIter _)
  exact .branch (.bind (sim_signature _ args named).dropped fun _ => rest) rest

theorem sim_unknownCallable {α β : Type} {f : α → β} (kind : String) (v : Value) :
    A.Sim f (unknownCallable kind v) (unknownCallable kind (A.names.on v)) := by
  refine .bind (sim_needKey v) fun _ => (sim_writable v).bind fun d => ?_
  rw [missingOf?_on, Renaming.on_inert]
  exact .raise _ rfl

theorem mapByPath_on (ρ : Renaming) (args : List Value) (named : Named) :
    mapByPath (args.map ρ.on) (named.map ρ.on) = mapByPath args named := by
  rw [mapByPath, mapByPath, List.isEmpty_map, lookup_on, Option.isSome_map]

theorem sim_checkSift (id : String) (args : List Value) (named : Named) :
    A.Same (checkSift id args named) (checkSift id (args.map A.names.on) (named.map A.names.on)) := by
  unfold checkSift
  rw [mapByPath_on, List.isEmpty_map, List.find?_map]
  split
  · refine .branch ?_ (.branch (.raise _ rfl) (.ret rfl))
    simp only [Function.comp_def, Renaming.on_fst, Renaming.on_inert]
    cases named.find? fun e => e.1 != "attribute" && e.1 != "default" with
    | some e => exact .raise _ rfl
    | none => exact .ret rfl
  · exact .branch (.raise _ rfl) (.ret rfl)
  · exact .branch (.raise _ rfl) (.ret rfl)
  · exact .ret rfl

theorem sim_followWithDefault (hI : Aligned A I I') (default item : Value) (parts : List Value) :
    A.Same (followWithDefault I default item parts)
      (followWithDefault I' (A.names.on default) (A.names.on item) (parts.map A.names.on)) := by
  refine .foldlM (fun v part => ?_) item parts
  exact (sim_getElement hI v part).bind fun found => .ret (orDefault_on A.names default found)

theorem lookup_getD_on (ρ : Renaming) (named : Named) (id : String) :
    ((named.map ρ.on).lookup id).getD .null = ρ.on ((named.lookup id).getD .null) := by
  rw [lookup_on]
  cases named.lookup id <;> rfl

theorem sim_mapItem (hI : Aligned A I I') (env : Env) (args : List Value) (named : Named) (item : Value) :
    A.Same (mapItem I env args named item)
      (mapItem I' (A.names.on env) (args.map A.names.on) (named.map A.names.on) (A.names.on item)) := by
  cases args with
  | nil =>
    unfold mapItem
    simp only [List.map_nil, lookup_getD_on]
    exact (sim_pathParts _).bind fun parts => sim_followWithDefault hI _ item parts
  | cons v rest =>
    unfold mapItem
    simp only [List.map_cons, textOf?_on]
    split
    · exact .branch (hI.filter env _ (item :: rest) named) (sim_unknownCallable _ v)
    · exact sim_unknownCallable _ v

theorem sim_passes (hI : Aligned A I I') (args : List Value) (named : Named) (subject : Value) :
    A.Sim id (passes I args named subject)
      (passes I' (args.map A.names.on) (named.map A.names.on) (A.names.on subject)) := by
  cases args with
  | nil => exact (sim_truth hI subject).congr A.names.on_inert
  | cons v rest =>
    unfold passes
    simp only [List.map_cons, textOf?_on]
    split
    · exact .branch (sim_applyTest hI _ (subject :: rest) named) (sim_unknownCallable _ v)
    · exact sim_unknownCallable _ v

theorem sim_passesAt (hI : Aligned A I I') (args : List Value) (named : Named) (item : Value) :
    A.Sim id (passesAt I args named item)
      (passesAt I' (args.map A.names.on) (named.map A.names.on) (A.names.on item)) := by
  cases args with
  | nil => exact (sim_truth hI item).congr A.names.on_inert
  | cons path rest =>
    exact (sim_pathParts path).bind fun parts => (sim_followPath hI item parts).bind fun v => sim_passes hI rest named v

theorem sim_siftItem (hI : Aligned A I I') (env : Env) (name : String) (args : List Value) (named : Named)
    (seen : List Value) (item : Value) :
    A.Same (siftItem I env name args named seen item)
      (siftItem I' (A.names.on env) name (args.map A.names.on) (named.map A.names.on) (seen.map A.names.on)
        (A.names.on item)) := by
  have kept : ∀ b : Bool, ((if b then some (A.names.on item) else none, seen.map A.names.on) :
      Option Value × List Value) = A.names.on (if b then some item else none, seen) := by
    intro b
    cases b <;> rfl
  unfold siftItem
  dsimp only
  split
  · exact (sim_mapItem hI env args named item).bind fun _ => .ret rfl
  · exact (sim_passes hI args named item).bind fun b => .ret (kept b)
  · exact (sim_passes hI args named item).bind fun b => .ret (kept !b)
  · exact (sim_passesAt hI args named item).bind fun b => .ret (kept b)
  · exact (sim_passesAt hI args named item).bind fun b => .ret (kept !b)
  · refine (sim_signature _ args named).bind fun g => ?_
    rw [get_bool_on, get_null_on]
    refine (sim_truth hI _).bind fun exact => (sim_pathParts _).bind fun parts => ?_
    refine (sim_itemKey hI exact parts item).bind fun key => .bind (sim_needKey key) fun _ => ?_
    rw [any_keyEqual_on]
    exact .branch (.ret rfl) (.ret rfl)

theorem sim_startSift (hI : Aligned A I I') (id : String) (args : List Value) (named : Named) :
    A.Sim (Option.map A.names.object) (startSift I id args named)
      (startSift I' id (args.map A.names.on) (named.map A.names.on)) := by
  cases args with
  | nil => exact .ret rfl
  | cons v rest =>
    have started : A.Sim (Option.map A.names.object) (do return some (← iterate v))
        (do return some (← iterate (A.names.on v))) :=
      (sim_iterate v).bind fun _ => .ret rfl
    refine .branch ((sim_truth hI v).bind fun _ => .branch (.ret rfl) ?_) started
    exact .bind (sim_checkSift id rest named) fun _ => started

/-! ## All filters -/

theorem sim_filterDefault (hI : Aligned A I I') (v default boolean : Value) :
    A.Same (filterDefault I v default boolean)
      (filterDefault I' (A.names.on v) (A.names.on default) (A.names.on boolean)) := by
  have present : ∀ v : Value, A.Same
      (do
        if ← truth I boolean then
          if ← truth I v then return v else return default
        else return v)
      (do
        if ← truth I' (A.names.on boolean) then
          if ← truth I' (A.names.on v) then return A.names.on v else return A.names.on default
        else return A.names.on v) :=
    fun v => (sim_truth hI boolean).bind fun _ =>
      .branch ((sim_truth hI v).bind fun _ => .branch (.ret rfl) (.ret rfl)) (.ret rfl)
  cases v
  case missing m => exact .ret rfl
  all_goals exact present _

theorem sim_filterItems (v : Value) : A.Same (filterItems v) (filterItems (A.names.on v)) := by
  cases v
  case missing m => exact sim_newIter (.items "generator" [])
  case dict r =>
    refine (sim_dictEntries r).bind fun entries => ?_
    rw [Renaming.on_list_eq, viewItems_on]
    exact sim_newIter (.items "generator" _)
  all_goals exact .fails _

theorem sim_filterBatch (hI : Aligned A I I') (v size fill : Value) :
    A.Same (filterBatch I v size fill) (filterBatch I' (A.names.on v) (A.names.on size) (A.names.on fill)) := by
  refine (sim_itemsOf hI v).bind fun items => (sim_needInt size).bind fun n => ?_
  rw [present?_on, Renaming.on_list_eq, batches_on, List.length_map]
  exact .bind (.mapM sim_newList _) fun pieces => sim_newIter (.items "generator" pieces)

theorem sim_filterLength (hI : Aligned A I I') (v : Value) :
    A.Same (filterLength I v) (filterLength I' (A.names.on v)) :=
  (sim_size hI v).bind fun _ => .ret rfl

theorem sim_filterSafe (hI : Aligned A I I') (v : Value) : A.Same (filterSafe I v) (filterSafe I' (A.names.on v)) :=
  (sim_display hI v).bind fun _ => .ret rfl

theorem sim_filterWordCount (hI : Aligned A I I') (v : Value) :
    A.Same (filterWordCount I v) (filterWordCount I' (A.names.on v)) :=
  (sim_display hI v).bind fun _ => .ret rfl

theorem sim_applyFilter (hI : Aligned A I I') (env : Env) (name : String) (args : List Value) (named : Named) :
    A.Same (applyFilter I env name args named)
      (applyFilter I' (A.names.on env) name (args.map A.names.on) (named.map A.names.on)) := by
  have one : ∀ {f f' : Value → Eval Value}, (∀ v, A.Same (f v) (f' (A.names.on v))) →
      A.Same (do f ((← Signature.bind ⟨["value"], 1⟩ args named).get "value" .null))
        (do
          f' ((← Signature.bind ⟨["value"], 1⟩ (args.map A.names.on) (named.map A.names.on)).get "value" .null)) := by
    intro f f' hf
    refine (sim_signature _ args named).bind fun g => ?_
    rw [get_null_on]
    exact hf _
  have bound : ∀ (names : List String) (required : Nat), A.Sim (List.map A.names.on)
      (Signature.bind ⟨"value" :: names, required⟩ args named)
      (Signature.bind ⟨"value" :: names, required⟩ (args.map A.names.on) (named.map A.names.on)) :=
    fun _ _ => sim_signature _ args named
  unfold applyFilter
  dsimp only
  split
  case h_1 => exact one sim_filterAbs
  case h_4 => exact one (sim_mapText hI _)
  case h_6 => exact one (sim_filterLength hI)
  case h_7 => exact one (sim_filterLength hI)
  case h_11 => exact one (sim_filterEscape hI)
  case h_12 => exact one (sim_filterEscape hI)
  case h_13 => exact one (sim_filterForceEscape hI)
  case h_14 => exact one (sim_filterFirst hI)
  case h_16 =>
    cases args with
    | nil => exact .fails _
    | cons v rest => exact sim_filterFormat hI v rest named
  case h_19 => exact one sim_filterItems
  case h_21 => exact one (sim_filterLast hI)
  case h_22 => exact one (sim_filterList hI)
  case h_23 => exact one (sim_mapText hI _)
  case h_27 => exact one (sim_filterReverse hI)
  case h_29 => exact one (sim_filterSafe hI)
  case h_31 => exact one (sim_asText hI)
  case h_33 => exact one (sim_filterTitle hI)
  case h_36 => exact one (sim_mapText hI _)
  case h_37 => exact one (sim_filterWordCount hI)
  case h_38 =>
    rw [List.isEmpty_map]
    exact .branch (sim_sift env _ args named) (.branch (.fails _) (.raise _ rfl))
  -- what is left binds further parameters
  all_goals refine (bound _ _).bind fun g => ?_
  all_goals simp only [get_null_on, get_bool_on, get_int_on, get_text_on, get_float_on]
  case h_2 =>
    refine (sim_display hI _).bind fun id => (sim_member? hI _ id).bind fun found => ?_
    cases found with
    | some v => exact .ret rfl
    | none => exact sim_missingMember _ (.text id)
  case h_3 => exact sim_filterBatch hI _ _ _
  case h_5 => exact sim_filterCenter hI _ _
  case h_8 => exact sim_filterDefault hI _ _ _
  case h_9 => exact sim_filterDefault hI _ _ _
  case h_10 => exact sim_filterDictSort hI _ _ _ _
  case h_15 => exact sim_filterFloat _ _
  case h_17 => exact sim_filterIndent hI _ _ _ _
  case h_18 => exact sim_filterInt _ _ _
  case h_20 => exact sim_filterJoin hI env _ _ _
  case h_24 => exact sim_filterExtreme hI .gt _ _ _
  case h_25 => exact sim_filterExtreme hI .lt _ _ _
  case h_26 => exact sim_filterReplace hI env _ _ _ _
  case h_28 => exact sim_filterRound hI _ _ _
  case h_30 => exact sim_filterSort hI _ _ _ _
  case h_32 => exact sim_filterSum hI _ _ _
  case h_34 => exact sim_filterToJson hI _ _
  case h_35 => exact sim_filterTrim hI _ _

end Agreement

end Stencil.Engine
