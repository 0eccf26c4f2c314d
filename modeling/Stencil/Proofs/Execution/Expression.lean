import Stencil.Engine.Expression
import Stencil.Proofs.Execution.Variable
import Stencil.Proofs.Library.Filter

/-!
# Expressions follow each other

By induction over the expression; constants are brought to life as new objects on both sides.
-/

set_option autoImplicit false

namespace Stencil.Engine

open Stencil.Template

instance : Renames Arguments := ⟨fun ρ a => ⟨a.positional.map ρ.on, a.named.map ρ.on⟩⟩

namespace Agreement

variable {A : Agreement} {I I' : Interp} {α β γ δ : Type} {f : α → β} {g : γ → δ}

def Thaws (A : Agreement) (f : α → β) (t : Thaw α) (t' : Thaw β) : Prop :=
  ∀ labels : Labels, A.Sim (fun p => (f p.1, p.2.map A.names.on)) (t.run labels) (t'.run (labels.map A.names.on))

theorem Thaws.ret {a : α} {b : β} (h : b = f a) : A.Thaws f (pure a) (pure b) :=
  fun _ => .ret (by rw [h])

theorem Thaws.bind {t : Thaw α} {t' : Thaw β} {k : α → Thaw γ} {k' : β → Thaw δ} (ht : A.Thaws f t t')
    (hk : ∀ a, A.Thaws g (k a) (k' (f a))) : A.Thaws g (t >>= k) (t' >>= k') :=
  fun labels => (ht labels).bind fun p => hk p.1 p.2

theorem Thaws.lift {e : Eval α} {e' : Eval β} (he : A.Sim f e e') :
    A.Thaws f (liftM e : Thaw α) (liftM e' : Thaw β) :=
  fun _ => he.bind fun _ => .ret rfl

theorem thaws_labelled? (label : Nat) : A.Thaws (Option.map A.names.on) (labelled? label) (labelled? label) := by
  refine fun labels => .ret (congrArg (·, _) ?_)
  induction labels with
  | nil => rfl
  | cons e rest ih =>
    obtain ⟨l, v⟩ := e
    show List.lookup label ((l, A.names.on v) :: rest.map A.names.on) = _
    rw [List.lookup_cons, List.lookup_cons, ih]
    split <;> rfl

theorem thaws_setLabel (label : Option Nat) (v : Value) :
    A.Thaws id (setLabel label v) (setLabel label (A.names.on v)) := by
  cases label with
  | none => exact .ret rfl
  | some l => exact fun _ => .ret rfl

/-- A cell that gets its label before it gets its content. -/
theorem thaws_labelledObject (label : Option Nat) (o : Object) (make : Ref → Value)
    (hm : ∀ r, A.names.on (make r) = make (A.names.object r)) {t : Thaw α} {t' : Thaw β} (ht : A.Thaws f t t')
    {fill : Ref → α → Eval Unit} {fill' : Ref → β → Eval Unit}
    (hf : ∀ r a, A.Same (fill r a) (fill' (A.names.object r) (f a))) :
    A.Thaws A.names.on
      (do let r ← alloc o; setLabel label (make r); fill r (← t); return make r)
      (do let r ← alloc (A.names.on o); setLabel label (make r); fill' r (← t'); return make r) := by
  refine .bind (.lift (sim_alloc o)) fun r => ?_
  rw [← hm]
  exact (thaws_setLabel label _).bind fun _ => ht.bind fun a => .bind (.lift (hf r a)) fun _ => .ret rfl

mutual

theorem thaws_as (label : Option Nat) (d : Data) : A.Thaws A.names.on (thawAs label d) (thawAs label d) := by
  cases d
  case list items =>
    unfold thawAs
    exact thaws_labelledObject label (.list []) .list (fun _ => rfl) (thaws_items items)
      fun r items => sim_setObject r (.list items)
  case map entries =>
    unfold thawAs
    exact thaws_labelledObject label (.dict [] false) .dict (fun _ => rfl) (thaws_entries entries)
      fun r entries => sim_setEntries r entries
  case ordered entries =>
    unfold thawAs
    exact thaws_labelledObject label (.dict [] true) .dict (fun _ => rfl) (thaws_entries entries)
      fun r entries => sim_setEntries r entries
  case tuple items =>
    unfold thawAs
    exact (thaws_items items).bind fun values => .ret (on_tuple A.names values).symm
  case set items =>
    unfold thawAs
    exact (thaws_items items).bind fun values => .bind (.lift (sim_alloc (.set values))) fun r =>
      (thaws_setLabel label (.set r)).bind fun _ => .ret rfl
  case labelled l d =>
    unfold thawAs
    refine (thaws_labelled? l).bind fun v => ?_
    cases v with
    | some v => exact .ret rfl
    | none => exact thaws_as (some l) d
  case again l _ =>
    unfold thawAs
    exact (thaws_labelled? l).bind fun v => .ret (by cases v <;> rfl)
  all_goals exact .ret rfl

theorem thaws_items (items : List Data) : A.Thaws (List.map A.names.on) (thawItems items) (thawItems items) := by
  cases items with
  | nil => exact .ret rfl
  | cons d rest =>
    unfold thawItems
    exact (thaws_as none d).bind fun _ => (thaws_items rest).bind fun _ => .ret rfl

theorem thaws_entries (entries : List (Data × Data)) :
    A.Thaws (List.map A.names.on) (thawEntries entries) (thawEntries entries) := by
  rcases entries with _ | ⟨⟨k, d⟩, rest⟩
  · exact .ret rfl
  · unfold thawEntries
    exact (thaws_as none k).bind fun _ => (thaws_as none d).bind fun _ => (thaws_entries rest).bind fun _ => .ret rfl

end

theorem sim_thaw (d : Data) : A.Same (thaw d) (thaw d) := (thaws_as none d []).bind fun _ => .ret rfl

theorem sim_constant (d : Data) : A.Same (constant d) (constant d) := by
  refine .branch (.failing _ _ _) ?_
  cases d
  case complex z => exact .ret rfl
  all_goals exact sim_thaw _

theorem sim_positionText (env : Env) (shown : String → String) (line : Nat) :
    A.Sim id (positionText env shown line) (positionText (A.names.on env) shown line) :=
  (sim_compiled? env.script).bind fun _ => .ret rfl

theorem sim_noOtherSide (env : Env) (line : Nat) :
    A.Same (noOtherSide env line) (noOtherSide (A.names.on env) line) :=
  (sim_positionText env inMarks line).bind fun _ => sim_freshMark.bind fun _ => .ret rfl

theorem sim_escapesHere (hI : Aligned A I I') (env : Env) :
    A.Same (escapesHere I env) (escapesHere I' (A.names.on env)) :=
  .branch (p := env.escape.unsure) (sim_escapesNow hI env) (.ret rfl)

theorem sim_joinSafely (hI : Aligned A I I') (values : List Value) :
    A.Same (joinSafely I values) (joinSafely I' (values.map A.names.on)) := by
  refine .bind (.mapM (sim_asText hI) values) fun texts => ?_
  rw [any_isSafe_on]
  refine .branch ?_ ?_
  · refine .bind (.mapM (sim_escaped hI) texts) fun parts => .ret ?_
    rw [Renaming.map_inert]
    rfl
  · refine .bind (.mapM (sim_display hI) texts) fun parts => .ret ?_
    rw [Renaming.map_inert]
    rfl

theorem sim_joinPlainly (hI : Aligned A I I') (values : List Value) :
    A.Same (joinPlainly I values) (joinPlainly I' (values.map A.names.on)) := by
  refine .bind (.mapM (sim_display hI) values) fun parts => .ret ?_
  rw [Renaming.map_inert]
  rfl

/-! ## Arguments -/

theorem sim_namedKey (key : Value) : A.Sim id (namedKey key) (namedKey (A.names.on key)) := by
  cases key
  case text s => exact .ret rfl
  case safe s => exact .ret rfl
  all_goals exact .fails _

theorem putNamed_on (ρ : Renaming) (named : Named) (id : String) (v : Value) :
    putNamed (named.map ρ.on) id (ρ.on v) = (putNamed named id v).map ρ.on := by
  unfold putNamed
  rw [any_name_on]
  split
  · rw [List.map_map, List.map_map]
    congr 1
    funext e
    show (if e.1 == id then (id, ρ.on v) else ρ.on e) = ρ.on (if e.1 == id then (id, v) else e)
    split <;> rfl
  · rw [List.map_append]
    rfl

theorem sim_addNamed (asMap : Bool) (named : Named) (entries : List (Value × Value)) :
    A.Sim (List.map A.names.on) (addNamed asMap named entries)
      (addNamed asMap (named.map A.names.on) (entries.map A.names.on)) := by
  induction entries generalizing named with
  | nil => exact .ret rfl
  | cons e rest ih =>
    refine (sim_namedKey e.1).bind fun name => ?_
    rw [any_name_on]
    refine .branch (.failing _ _ _) ?_
    dsimp only [id, Renaming.on_snd]
    rw [putNamed_on]
    exact ih _

theorem foldl_putNamed_on (ρ : Renaming) (named start : Named) :
    (named.map ρ.on).foldl (fun ns e => putNamed ns e.1 e.2) (start.map ρ.on) =
      (named.foldl (fun ns e => putNamed ns e.1 e.2) start).map ρ.on := by
  induction named generalizing start with
  | nil => rfl
  | cons e rest ih =>
    rw [List.map_cons, List.foldl_cons, List.foldl_cons, ← ih]
    exact congrArg (List.foldl _ · _) (putNamed_on ρ start e.1 e.2)

theorem sim_collectNamed (named : Named) (moreNamed : Option Value) :
    A.Sim (List.map A.names.on) (collectNamed named moreNamed)
      (collectNamed (named.map A.names.on) (moreNamed.map A.names.on)) := by
  have fst : (named.map A.names.on).map Prod.fst = named.map Prod.fst := by
    rw [List.map_map]
    rfl
  have start : (if passedAsMap (named.map Prod.fst) then
        (named.map A.names.on).foldl (fun ns e => putNamed ns e.1 e.2) []
      else (named.map A.names.on).map fun e => (Text.normal e.1, e.2)) =
      (if passedAsMap (named.map Prod.fst) then named.foldl (fun ns e => putNamed ns e.1 e.2) []
        else named.map fun e => (Text.normal e.1, e.2)).map A.names.on := by
    split
    · exact foldl_putNamed_on A.names named []
    · rw [List.map_map, List.map_map]
      rfl
  unfold collectNamed
  dsimp only
  rw [fst, start]
  rcases moreNamed with _ | v
  · exact .ret rfl
  · cases v
    case dict r => exact (sim_dictEntries r).bind fun entries => sim_addNamed _ _ entries
    case missing m => exact sim_failMissing m
    all_goals exact .fails _

theorem sim_spread (hI : Aligned A I I') (more : Option Value) :
    A.Sim (List.map A.names.on) (spread I more) (spread I' (more.map A.names.on)) := by
  cases more with
  | some v => exact sim_itemsOf hI v
  | none => exact .ret rfl

theorem sim_gather (args : List Value) (named : Named) (moreNamed : Option Value) :
    A.Same (gather args named moreNamed)
      (gather (args.map A.names.on) (named.map A.names.on) (moreNamed.map A.names.on)) :=
  (sim_collectNamed named moreNamed).bind fun _ => .ret rfl

/-- The arguments of a call are evaluated in the order of their kinds, and then collected. -/
theorem sim_arguments (hI : Aligned A I I') {args args' : Eval (List Value)} {more more' : Eval (Option Value)}
    {named named' : Eval Named} {moreNamed moreNamed' : Eval (Option Value)}
    (hargs : A.Sim (List.map A.names.on) args args') (hmore : A.Sim (Option.map A.names.on) more more')
    (hnamed : A.Sim (List.map A.names.on) named named')
    (hmoreNamed : A.Sim (Option.map A.names.on) moreNamed moreNamed')
    {k : Arguments → Eval α} {k' : Arguments → Eval β} (hk : ∀ given, A.Sim f (k given) (k' (A.names.on given))) :
    A.Sim f
      (do
        let args ← args
        let rest ← spread I (← more)
        let named ← named
        let given ← gather (args ++ rest) named (← moreNamed)
        k given)
      (do
        let args ← args'
        let rest ← spread I' (← more')
        let named ← named'
        let given ← gather (args ++ rest) named (← moreNamed')
        k' given) := by
  refine hargs.bind fun args => hmore.bind fun more => (sim_spread hI more).bind fun rest => ?_
  refine hnamed.bind fun named => hmoreNamed.bind fun moreNamed => ?_
  rw [← List.map_append]
  exact (sim_gather _ named moreNamed).bind hk

theorem getD_null_on (ρ : Renaming) (v : Option Value) : (v.map ρ.on).getD .null = ρ.on (v.getD .null) := by
  cases v <;> rfl

mutual

theorem sim_evaluate (hI : Aligned A I I') (env : Env) (e : Expr) :
    A.Same (evaluate I env e) (evaluate I' (A.names.on env) e) := by
  cases e with
  | literal d => exact sim_constant d
  | folded d _ => exact sim_constant d
  | name id _ => exact sim_readName env id
  | list items => exact (sim_evaluateAll hI env items).bind fun values => sim_newList values
  | tuple items =>
    exact (sim_evaluateAll hI env items).bind fun values => .ret (on_tuple A.names values).symm
  | dict entries =>
    exact (sim_evaluateEntries hI env entries).bind fun more => (sim_putAll [] more).bind fun es => sim_newDict es
  | «attribute» e id => exact (sim_evaluate hI env e).bind fun v => sim_getMember hI v id
  | item e i =>
    have he := sim_evaluate hI env e
    have hi := sim_evaluate hI env i
    have element : A.Same (do let v ← evaluate I env e; getElement I v (← evaluate I env i))
        (do
          let v ← evaluate I' (A.names.on env) e
          getElement I' v (← evaluate I' (A.names.on env) i)) :=
      he.bind fun v => hi.bind fun key => sim_getElement hI v key
    cases i
    case slice start stop stride =>
      refine he.bind fun v => (sim_evaluateOption hI env start).bind fun a => ?_
      refine (sim_evaluateOption hI env stop).bind fun b => (sim_evaluateOption hI env stride).bind fun c => ?_
      simp only [getD_null_on]
      exact sim_sliceOf v _ _ _
    all_goals exact element
  | slice start stop stride =>
    refine (sim_evaluateOption hI env start).bind fun a => (sim_evaluateOption hI env stop).bind fun b => ?_
    refine (sim_evaluateOption hI env stride).bind fun c => .ret ?_
    simp only [getD_null_on]
    rfl
  | call fn args named more moreNamed =>
    refine (sim_evaluate hI env fn).bind fun v => ?_
    exact sim_arguments hI (sim_evaluateAll hI env args) (sim_evaluateOption hI env more)
      (sim_evaluateNamed hI env named) (sim_evaluateOption hI env moreNamed) fun given =>
      hI.call env v given.positional given.named
  | filter operand id args named more moreNamed _ =>
    refine (sim_evaluateOption hI env operand).bind fun v => ?_
    refine sim_arguments hI (sim_evaluateAll hI env args) (sim_evaluateOption hI env more)
      (sim_evaluateNamed hI env named) (sim_evaluateOption hI env moreNamed) fun given => ?_
    have first : (v.map A.names.on).toList ++ given.positional.map A.names.on =
        (v.toList ++ given.positional).map A.names.on := by
      cases v <;> rfl
    show A.Same _ (I'.filter _ id ((v.map A.names.on).toList ++ given.positional.map A.names.on) _)
    rw [first]
    exact hI.filter env id _ given.named
  | test operand id args named more moreNamed _ =>
    refine (sim_evaluate hI env operand).bind fun v => ?_
    refine sim_arguments hI (sim_evaluateAll hI env args) (sim_evaluateOption hI env more)
      (sim_evaluateNamed hI env named) (sim_evaluateOption hI env moreNamed) fun given => ?_
    exact (sim_applyTest hI id (v :: given.positional) given.named).bind fun _ => .ret rfl
  | negative e => exact (sim_evaluate hI env e).bind fun v => sim_negate v
  | positive e => exact (sim_evaluate hI env e).bind fun v => sim_positive v
  | not e => exact (sim_evaluate hI env e).bind fun v => (sim_truth hI v).bind fun _ => .ret rfl
  | and a b =>
    exact (sim_evaluate hI env a).bind fun v => (sim_truth hI v).bind fun _ =>
      .branch (sim_evaluate hI env b) (.ret rfl)
  | or a b =>
    exact (sim_evaluate hI env a).bind fun v => (sim_truth hI v).bind fun _ =>
      .branch (.ret rfl) (sim_evaluate hI env b)
  | binary op a b =>
    have plain : A.Same (do let v ← evaluate I env a; binaryOp I op v (← evaluate I env b))
        (do
          let v ← evaluate I' (A.names.on env) a
          binaryOp I' op v (← evaluate I' (A.names.on env) b)) :=
      (sim_evaluate hI env a).bind fun v => (sim_evaluate hI env b).bind fun x => sim_binaryOp hI op v x
    unfold evaluate
    split
    · next d _ =>
      exact (sim_constant d).bind fun v => (sim_evaluate hI env b).bind fun x =>
        (sim_binaryOp hI .pow v x).bind fun y => sim_negate y
    · exact plain
  | compare e rest =>
    exact (sim_evaluate hI env e).bind fun v => (sim_compareChain hI env v rest).bind fun _ => .ret rfl
  | concat items =>
    refine (sim_evaluateAll hI env items).bind fun values => ?_
    exact .branch (p := (env.escape.on && !env.escape.unsure) = true) (sim_joinSafely hI values)
      (sim_joinPlainly hI values)
  | choose condition yes no line =>
    refine (sim_evaluate hI env condition).bind fun v => (sim_truth hI v).bind fun _ =>
      .branch (sim_evaluate hI env yes) ((sim_evaluateOption hI env no).bind fun v => ?_)
    cases v with
    | some v => exact .ret rfl
    | none => exact sim_noOtherSide env line

theorem sim_evaluateAll (hI : Aligned A I I') (env : Env) (items : List Expr) :
    A.Sim (List.map A.names.on) (evaluateAll I env items) (evaluateAll I' (A.names.on env) items) := by
  cases items with
  | nil => exact .ret rfl
  | cons e rest => exact (sim_evaluate hI env e).bind fun _ => (sim_evaluateAll hI env rest).bind fun _ => .ret rfl

theorem sim_evaluateOption (hI : Aligned A I I') (env : Env) (e : Option Expr) :
    A.Sim (Option.map A.names.on) (evaluateOption I env e) (evaluateOption I' (A.names.on env) e) := by
  cases e with
  | none => exact .ret rfl
  | some e => exact (sim_evaluate hI env e).bind fun _ => .ret rfl

theorem sim_evaluateEntries (hI : Aligned A I I') (env : Env) (entries : List (Expr × Expr)) :
    A.Sim (List.map A.names.on) (evaluateEntries I env entries) (evaluateEntries I' (A.names.on env) entries) := by
  rcases entries with _ | ⟨⟨k, e⟩, rest⟩
  · exact .ret rfl
  · exact (sim_evaluate hI env k).bind fun _ => (sim_evaluate hI env e).bind fun _ =>
      (sim_evaluateEntries hI env rest).bind fun _ => .ret rfl

theorem sim_evaluateNamed (hI : Aligned A I I') (env : Env) (named : List (String × Expr)) :
    A.Sim (List.map A.names.on) (evaluateNamed I env named) (evaluateNamed I' (A.names.on env) named) := by
  rcases named with _ | ⟨⟨id, e⟩, rest⟩
  · exact .ret rfl
  · exact (sim_evaluate hI env e).bind fun _ => (sim_evaluateNamed hI env rest).bind fun _ => .ret rfl

theorem sim_compareChain (hI : Aligned A I I') (env : Env) (v : Value) (rest : List (CompareOp × Expr)) :
    A.Sim id (compareChain I env v rest) (compareChain I' (A.names.on env) (A.names.on v) rest) := by
  rcases rest with _ | ⟨⟨op, e⟩, rest⟩
  · exact .ret rfl
  · exact (sim_evaluate hI env e).bind fun x => (sim_compareValues hI op v x).bind fun _ =>
      .branch (sim_compareChain hI env x rest) (.ret rfl)

end

theorem sim_applyChain (hI : Aligned A I I') (env : Env) (captured : Value) (e : Expr) :
    A.Same (applyChain I env captured e) (applyChain I' (A.names.on env) (A.names.on captured) e) := by
  cases e
  case filter operand id args named more moreNamed _ =>
    unfold applyChain
    cases operand with
    | some e =>
      exact (sim_applyChain hI env captured e).bind fun v =>
        sim_arguments hI (sim_evaluateAll hI env args) (sim_evaluateOption hI env more)
          (sim_evaluateNamed hI env named) (sim_evaluateOption hI env moreNamed) fun given =>
          hI.filter env id (v :: given.positional) given.named
    | none =>
      exact sim_arguments hI (sim_evaluateAll hI env args) (sim_evaluateOption hI env more)
        (sim_evaluateNamed hI env named) (sim_evaluateOption hI env moreNamed) fun given =>
        hI.filter env id (captured :: given.positional) given.named
  all_goals exact sim_evaluate hI env _

end Agreement

end Stencil.Engine
