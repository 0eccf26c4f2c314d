import Stencil.Proofs.Invariant

/-!
# Faults of templates

Before a template runs it is read, folded and checked. A fault of this is one of an ordinary operation that was carried
out early, or a flaw of the text that is told with the name and the file of the template.
-/

set_option autoImplicit false

namespace Stencil.Engine

open Stencil.Template

section Raises

variable {α β : Type} {R : Fault → Prop}

def Raises (R : Fault → Prop) (e : Eval α) : Prop := ∀ w x, (outcome e w).1 = .error x → R x

theorem Raises.ret (a : α) : Raises R (pure a) := by
  intro w x h
  cases h

theorem Raises.throws {x : Fault} (h : R x) : Raises R (throw x : Eval α) := by
  intro w y same
  cases same
  exact h

theorem Raises.total {e : Eval α} (h : ∀ w, ∃ a w', outcome e w = (.ok a, w')) : Raises R e := by
  intro w x failed
  obtain ⟨a, w', ends⟩ := h w
  rw [ends] at failed
  cases failed

theorem Raises.bind {e : Eval α} {k : α → Eval β} (he : Raises R e) (hk : ∀ a, Raises R (k a)) :
    Raises R (e >>= k) := by
  intro w x
  have first := he w x
  rw [outcome_bind]
  revert first
  rcases outcome e w with ⟨y | a, w₁⟩ <;> intro first failed
  · cases failed
    exact first rfl
  · exact hk a w₁ x failed

theorem Raises.branch {p : Prop} [Decidable p] {a b : Eval α} (ha : Raises R a) (hb : Raises R b) :
    Raises R (if p then a else b) := by
  split
  · exact ha
  · exact hb

/-- Where every fault is handled none is raised. -/
theorem Raises.recovered (e : Eval α) {h : Fault → Eval α} (hh : ∀ x, Raises R (h x)) : Raises R (recover e h) := by
  refine .bind (.total fun w => ⟨w.depth, w, rfl⟩) fun outer w x => ?_
  rw [outcome_tryCatch]
  rcases outcome e w with ⟨y | a, w₁⟩
  · exact hh y _ x
  · exact Raises.ret a w₁ x

/-! ## Values that are known early -/

def Known.Raises (R : Fault → Prop) (e : Known α) : Prop := Engine.Raises R e.run

namespace Known.Raises

theorem ret (a : α) : Known.Raises R (pure a) := Engine.Raises.ret (some a)

theorem unknown : Known.Raises R (failure : Known α) := Engine.Raises.ret none

theorem bind {e : Known α} {k : α → Known β} (he : Known.Raises R e) (hk : ∀ a, Known.Raises R (k a)) :
    Known.Raises R (e >>= k) := by
  refine Engine.Raises.bind he fun found => ?_
  cases found with
  | none => exact Engine.Raises.ret none
  | some a => exact hk a

theorem lift {e : Eval α} (he : Engine.Raises R e) : Known.Raises R (liftM e) := he.bind fun a => .ret (some a)

theorem attempt (e : Known α) : Known.Raises R e.attempt := Engine.Raises.recovered e.run fun _ => .ret none

theorem branch {p : Prop} [Decidable p] {a b : Known α} (ha : Known.Raises R a) (hb : Known.Raises R b) :
    Known.Raises R (if p then a else b) := by
  split
  · exact ha
  · exact hb

end Known.Raises

/-! ## Steps of a preparation -/

def Preparing.Raises (R : Fault → Prop) (e : Preparing α) : Prop := ∀ progress, Engine.Raises R (e.run progress)

namespace Preparing.Raises

theorem ret (a : α) : Preparing.Raises R (pure a) := fun progress => .ret (a, progress)

theorem bind {e : Preparing α} {k : α → Preparing β} (he : Preparing.Raises R e) (hk : ∀ a, Preparing.Raises R (k a)) :
    Preparing.Raises R (e >>= k) := fun progress => (he progress).bind fun found => hk found.1 found.2

theorem lift {e : Eval α} (he : Engine.Raises R e) : Preparing.Raises R (liftM e) :=
  fun progress => he.bind fun a => .ret (a, progress)

theorem throws {x : Fault} (h : R x) : Preparing.Raises R (throw x : Preparing α) := fun _ => .throws h

theorem change (u : Progress → Progress) : Preparing.Raises R (modify u) := fun progress => .ret ((), u progress)

theorem asks : Preparing.Raises R (get : Preparing Progress) := fun progress => .ret (progress, progress)

theorem branch {p : Prop} [Decidable p] {a b : Preparing α} (ha : Preparing.Raises R a) (hb : Preparing.Raises R b) :
    Preparing.Raises R (if p then a else b) := by
  split
  · exact ha
  · exact hb

/-- A step that may be taken comes before the rest. -/
theorem check {p : Prop} [Decidable p] {e : Preparing α} {k : α → Preparing β} {rest : Preparing β}
    (he : Preparing.Raises R e) (hk : ∀ a, Preparing.Raises R (k a)) (hr : Preparing.Raises R rest) :
    Preparing.Raises R (if p then e >>= k else rest) := .branch (he.bind hk) hr

theorem mapM {f : α → Preparing β} (hf : ∀ a, Preparing.Raises R (f a)) (xs : List α) :
    Preparing.Raises R (xs.mapM f) := by
  induction xs with
  | nil => exact .ret []
  | cons x xs ih =>
    rw [List.mapM_cons]
    exact (hf x).bind fun b => ih.bind fun bs => .ret (b :: bs)

end Preparing.Raises

end Raises

/-! ## Operations that are carried out early -/

def raising (R : Fault → Prop) (plain : ∀ {x : Fault}, x.isPlain = true → R x) : Invariant :=
  .everywhere (fun _ => True) (fun _ => True) R plain fun _ _ => trivial

abbrev Interp.Raises (R : Fault → Prop) (plain : ∀ {x : Fault}, x.isPlain = true → R x) (I : Interp) : Prop :=
  Agreement.Aligned (raising R plain).agreement I I

theorem Agreement.aligned_early {A : Agreement} (n : Nat) : Aligned A (tied earlyStage n) (tied earlyStage n) := by
  induction n with
  | zero => exact aligned_exhausted
  | succ n ih =>
    exact Aligned.deferred { aligned_exhausted with
      next := sim_nextValue ih
      drain := sim_drainIter ih
      seek := sim_seekIter ih
      filter := sim_applyFilter ih }

section Early

open Agreement

variable {α β : Type} {R : Fault → Prop} {plain : ∀ {x : Fault}, x.isPlain = true → R x} {I : Interp}

theorem Interp.Raises.of_sim {f : α → β} {e : Eval α} {e' : Eval β} (_ : I.Raises R plain)
    (he : (raising R plain).agreement.Sim f e e') : Engine.Raises R e :=
  fun _ _ failed => Invariant.raised_of_error he trivial failed

theorem raises_moreKnown (args : List Value) (more : Option Value) : Known.Raises R (moreKnown I args more) := by
  cases more with
  | none => exact .ret args
  | some v => exact .attempt _

theorem raises_moreNamedKnown (named : Named) (more : Option Value) : Known.Raises R (moreNamedKnown I named more) := by
  cases more with
  | none => exact .ret named
  | some v => exact .attempt _

theorem raises_truth (hI : I.Raises R plain) (v : Value) : Raises R (truth I v) := hI.of_sim (sim_truth hI v)

mutual

theorem raises_constOf (hI : I.Raises R plain) (env : Env) (e : Expr) : Known.Raises R (constOf I env e) := by
  cases e with
  | literal d => exact .lift (hI.of_sim (sim_thaw d))
  | folded d _ => exact .lift (hI.of_sim (sim_thaw d))
  | name _ _ => exact .unknown
  | list items =>
    exact (raises_constAll hI env items).bind fun values => .lift (hI.of_sim (sim_newList values))
  | tuple items => exact (raises_constAll hI env items).bind fun _ => .ret _
  | dict entries =>
    refine (raises_constEntries hI env entries).bind fun more => ?_
    exact (Known.Raises.lift (hI.of_sim (sim_putAll [] more))).bind fun entries =>
      .lift (hI.of_sim (sim_newDict entries))
  | «attribute» _ _ => exact .attempt _
  | item _ _ => exact .attempt _
  | slice start stop stride =>
    exact (raises_constOption hI env start).bind fun _ => (raises_constOption hI env stop).bind fun _ =>
      (raises_constOption hI env stride).bind fun _ => .ret _
  | call _ _ _ _ _ => exact .unknown
  | filter operand id args named more moreNamed _ =>
    cases operand with
    | none => exact .unknown
    | some e =>
      have rest : Known.Raises R (do
          let args ← constAll I env args
          let named ← constNamed I env named
          let args ← moreKnown I args (← (constOption I env more).attempt)
          let named ← moreNamedKnown I (lastNamed named) (← (constOption I env moreNamed).attempt)
          let v ← constOf I env e
          Known.attempt (I.filter env id (v :: args) named)) :=
        (raises_constAll hI env args).bind fun _ => (raises_constNamed hI env named).bind fun _ =>
          .bind (.attempt _) fun _ => (raises_moreKnown _ _).bind fun _ =>
          .bind (.attempt _) fun _ => (raises_moreNamedKnown _ _).bind fun _ =>
          (raises_constOf hI env e).bind fun _ => .attempt _
      exact .branch (.bind .unknown fun _ => rest) rest
  | test e id args named more moreNamed _ =>
    have rest : Known.Raises R (do
        let args ← constAll I env args
        let named ← constNamed I env named
        let args ← moreKnown I args (← (constOption I env more).attempt)
        let named ← moreNamedKnown I (lastNamed named) (← (constOption I env moreNamed).attempt)
        let v ← constOf I env e
        Known.attempt do return Value.bool (← applyTest I id (v :: args) named)) :=
      (raises_constAll hI env args).bind fun _ => (raises_constNamed hI env named).bind fun _ =>
        .bind (.attempt _) fun _ => (raises_moreKnown _ _).bind fun _ =>
        .bind (.attempt _) fun _ => (raises_moreNamedKnown _ _).bind fun _ =>
        (raises_constOf hI env e).bind fun _ => .attempt _
    exact .branch (.bind .unknown fun _ => rest) rest
  | negative _ => exact .attempt _
  | positive _ => exact .attempt _
  | not _ => exact .attempt _
  | and a b =>
    exact (raises_constOf hI env a).bind fun v => (Known.Raises.lift (raises_truth hI v)).bind fun _ =>
      .branch (raises_constOf hI env b) (.ret v)
  | or a b =>
    exact (raises_constOf hI env a).bind fun v => (Known.Raises.lift (raises_truth hI v)).bind fun _ =>
      .branch (.ret v) (raises_constOf hI env b)
  | binary _ _ _ => exact .attempt _
  | compare e rest => exact (raises_constOf hI env e).bind fun _ => .attempt _
  | concat items =>
    exact (raises_constAll hI env items).bind fun values => .lift (hI.of_sim (sim_joinPlainly hI values))
  | choose condition yes no _ =>
    refine (raises_constOf hI env condition).bind fun v => (Known.Raises.lift (raises_truth hI v)).bind fun _ => ?_
    refine .branch (raises_constOf hI env yes) ((raises_constOption hI env no).bind fun found => ?_)
    cases found with
    | some v => exact .ret v
    | none => exact .unknown

theorem raises_constAll (hI : I.Raises R plain) (env : Env) (items : List Expr) :
    Known.Raises R (constAll I env items) := by
  cases items with
  | nil => exact .ret []
  | cons e rest => exact (raises_constOf hI env e).bind fun _ => (raises_constAll hI env rest).bind fun _ => .ret _

theorem raises_constOption (hI : I.Raises R plain) (env : Env) (e : Option Expr) :
    Known.Raises R (constOption I env e) := by
  cases e with
  | none => exact .ret none
  | some e => exact (raises_constOf hI env e).bind fun _ => .ret _

theorem raises_constEntries (hI : I.Raises R plain) (env : Env) (entries : List (Expr × Expr)) :
    Known.Raises R (constEntries I env entries) := by
  rcases entries with _ | ⟨⟨k, e⟩, rest⟩
  · exact .ret []
  · exact (raises_constOf hI env k).bind fun _ => (raises_constOf hI env e).bind fun _ =>
      (raises_constEntries hI env rest).bind fun _ => .ret _

theorem raises_constNamed (hI : I.Raises R plain) (env : Env) (named : List (String × Expr)) :
    Known.Raises R (constNamed I env named) := by
  rcases named with _ | ⟨⟨id, e⟩, rest⟩
  · exact .ret []
  · exact (raises_constOf hI env e).bind fun _ => (raises_constNamed hI env rest).bind fun _ => .ret _

end

theorem raises_settle (hI : I.Raises R plain) (env : Env) (e : Expr) :
    Raises R (settle I env e) := by
  refine Raises.bind (raises_constOf hI env e) fun found => ?_
  cases found with
  | none => exact .ret e
  | some v => exact (hI.of_sim (sim_freeze v)).bind fun _ => .ret _

mutual

theorem raises_fold (hI : I.Raises R plain) (env : Env) (e : Expr) : Raises R (fold I env e) := by
  cases e with
  | literal d => exact .ret _
  | folded d _ => exact .ret _
  | name _ _ => exact .ret _
  | list items => exact (raises_foldAll hI env items).bind fun _ => raises_settle hI env _
  | tuple items => exact (raises_foldAll hI env items).bind fun _ => raises_settle hI env _
  | dict entries => exact (raises_foldEntries hI env entries).bind fun _ => raises_settle hI env _
  | «attribute» e _ => exact (raises_fold hI env e).bind fun _ => raises_settle hI env _
  | item e i =>
    exact (raises_fold hI env e).bind fun _ => (raises_fold hI env i).bind fun _ => raises_settle hI env _
  | slice start stop stride =>
    exact (raises_foldOption hI env start).bind fun _ => (raises_foldOption hI env stop).bind fun _ =>
      (raises_foldOption hI env stride).bind fun _ => .ret _
  | call fn args named more moreNamed =>
    exact (raises_fold hI env fn).bind fun _ => (raises_foldAll hI env args).bind fun _ =>
      (raises_foldNamed hI env named).bind fun _ => (raises_foldOption hI env more).bind fun _ =>
      (raises_foldOption hI env moreNamed).bind fun _ => .ret _
  | filter operand id args named more moreNamed _ =>
    exact (raises_foldOption hI env operand).bind fun _ => (raises_foldAll hI env args).bind fun _ =>
      (raises_foldNamed hI env named).bind fun _ => (raises_foldOption hI env more).bind fun _ =>
      (raises_foldOption hI env moreNamed).bind fun _ => raises_settle hI env _
  | test operand id args named more moreNamed _ =>
    exact (raises_fold hI env operand).bind fun _ => (raises_foldAll hI env args).bind fun _ =>
      (raises_foldNamed hI env named).bind fun _ => (raises_foldOption hI env more).bind fun _ =>
      (raises_foldOption hI env moreNamed).bind fun _ => raises_settle hI env _
  | negative e => exact (raises_fold hI env e).bind fun _ => raises_settle hI env _
  | positive e => exact (raises_fold hI env e).bind fun _ => raises_settle hI env _
  | not e => exact (raises_fold hI env e).bind fun _ => raises_settle hI env _
  | and a b => exact (raises_fold hI env a).bind fun _ => (raises_fold hI env b).bind fun _ => raises_settle hI env _
  | or a b => exact (raises_fold hI env a).bind fun _ => (raises_fold hI env b).bind fun _ => raises_settle hI env _
  | binary op a b =>
    exact (raises_fold hI env a).bind fun _ => (raises_fold hI env b).bind fun _ => raises_settle hI env _
  | compare e rest =>
    exact (raises_fold hI env e).bind fun _ => (raises_foldCompared hI env rest).bind fun _ => raises_settle hI env _
  | concat items => exact (raises_foldAll hI env items).bind fun _ => raises_settle hI env _
  | choose condition yes no _ =>
    exact (raises_fold hI env condition).bind fun _ => (raises_fold hI env yes).bind fun _ =>
      (raises_foldOption hI env no).bind fun _ => raises_settle hI env _

theorem raises_foldAll (hI : I.Raises R plain) (env : Env) (items : List Expr) :
    Raises R (foldAll I env items) := by
  cases items with
  | nil => exact .ret []
  | cons e rest => exact (raises_fold hI env e).bind fun _ => (raises_foldAll hI env rest).bind fun _ => .ret _

theorem raises_foldOption (hI : I.Raises R plain) (env : Env) (e : Option Expr) :
    Raises R (foldOption I env e) := by
  cases e with
  | none => exact .ret none
  | some e => exact (raises_fold hI env e).bind fun _ => .ret _

theorem raises_foldEntries (hI : I.Raises R plain) (env : Env) (entries : List (Expr × Expr)) :
    Raises R (foldEntries I env entries) := by
  rcases entries with _ | ⟨⟨k, e⟩, rest⟩
  · exact .ret []
  · exact (raises_fold hI env k).bind fun _ => (raises_fold hI env e).bind fun _ =>
      (raises_foldEntries hI env rest).bind fun _ => .ret _

theorem raises_foldNamed (hI : I.Raises R plain) (env : Env) (named : List (String × Expr)) :
    Raises R (foldNamed I env named) := by
  rcases named with _ | ⟨⟨id, e⟩, rest⟩
  · exact .ret []
  · exact (raises_fold hI env e).bind fun _ => (raises_foldNamed hI env rest).bind fun _ => .ret _

theorem raises_foldCompared (hI : I.Raises R plain) (env : Env) (rest : List (CompareOp × Expr)) :
    Raises R (foldCompared I env rest) := by
  rcases rest with _ | ⟨⟨op, e⟩, rest⟩
  · exact .ret []
  · exact (raises_fold hI env e).bind fun _ => (raises_foldCompared hI env rest).bind fun _ => .ret _

end

/-! ## Checks -/

theorem raises_fixedText? (env : Env) (e : Expr) : Raises R (fixedText? I env e) := Known.Raises.attempt _

theorem raises_noteUnreadable (m : Mishap) : Preparing.Raises R (noteUnreadable m) := .change _

theorem raises_noteRefused : Preparing.Raises R noteRefused := .change _

theorem raises_noteIndent (p : Position) (more : Nat) : Preparing.Raises R (noteIndent p more) :=
  .branch (.change _) (.ret _)

theorem raises_noteBrackets (n : Nat) : Preparing.Raises R (noteBrackets n) := .branch (.change _) (.ret _)

theorem raises_noteLoops (n : Nat) : Preparing.Raises R (noteLoops n) := .branch (.change _) (.ret _)

theorem raises_noteArguments (ids more : List String) : Preparing.Raises R (noteArguments ids more) :=
  .branch (.change _) (.ret _)

theorem raises_noteChoice (s : Subject) (hasOther : Bool) : Preparing.Raises R (noteChoice s hasOther) :=
  .branch (.change _) (.ret _)

structure Admits (R : Fault → Prop) (name file : Option String) : Prop where
  plain : ∀ {x : Fault}, x.isPlain = true → R x
  flawed : ∀ flaw, R (.ofFlaw flaw name file)

variable {s : Subject}

theorem raises_flaw (hR : Admits R s.name s.file) (problem : Problem) (line : Nat) :
    Preparing.Raises R (s.flaw problem line : Preparing α) :=
  .throws (hR.flawed _)

theorem raises_fail (hR : Admits R s.name s.file) (m : Mishap) : Preparing.Raises R (liftM (fail m : Eval α)) :=
  .lift (.throws (hR.plain rfl))

theorem raises_checkConstant (hR : Admits R s.name s.file) (d : Data) : Preparing.Raises R (checkConstant d) :=
  .branch (raises_fail hR .badValue) (.ret _)

mutual

theorem raises_checkExpr (hR : Admits R s.name s.file) (p : Position) (e : Expr) :
    Preparing.Raises R (checkExpr s p e) := by
  cases e with
  | literal d => exact raises_checkConstant hR d
  | folded d _ => exact raises_checkConstant hR d
  | name id _ => exact .branch (.throws (hR.plain rfl)) (.ret _)
  | list items => exact raises_checkList hR p items
  | tuple items => exact (raises_checkList hR p items).bind fun _ => .branch (raises_noteUnreadable _) (.ret _)
  | dict entries => exact raises_checkEntries hR p entries
  | «attribute» e _ => exact raises_checkExpr hR p e
  | item e i => exact (raises_checkExpr hR p e).bind fun _ => raises_checkExpr hR p i
  | slice start stop stride =>
    exact (raises_checkOption hR p start).bind fun _ => (raises_checkOption hR p stop).bind fun _ =>
      raises_checkOption hR p stride
  | call fn args named more moreNamed =>
    exact (raises_checkExpr hR p fn).bind fun _ => (raises_checkList hR p args).bind fun _ =>
      (raises_checkNamed hR p named).bind fun _ => (raises_checkOption hR p more).bind fun _ =>
      (raises_checkOption hR p moreNamed).bind fun _ => raises_noteArguments _ _
  | filter operand id args named more moreNamed line =>
    have rest : Preparing.Raises R (do
        checkOption s p operand
        checkList s p args
        checkNamed s p named
        checkOption s p more
        checkOption s p moreNamed
        noteArguments (named.map Prod.fst) []) :=
      (raises_checkOption hR p operand).bind fun _ => (raises_checkList hR p args).bind fun _ =>
        (raises_checkNamed hR p named).bind fun _ => (raises_checkOption hR p more).bind fun _ =>
        (raises_checkOption hR p moreNamed).bind fun _ => raises_noteArguments _ _
    exact .check (raises_flaw hR _ _) (fun _ => rest) rest
  | test operand id args named more moreNamed line =>
    have rest : Preparing.Raises R (do
        checkExpr s p operand
        checkList s p args
        checkNamed s p named
        checkOption s p more
        checkOption s p moreNamed
        noteArguments (named.map Prod.fst) []) :=
      (raises_checkExpr hR p operand).bind fun _ => (raises_checkList hR p args).bind fun _ =>
        (raises_checkNamed hR p named).bind fun _ => (raises_checkOption hR p more).bind fun _ =>
        (raises_checkOption hR p moreNamed).bind fun _ => raises_noteArguments _ _
    exact .check (raises_flaw hR _ _) (fun _ => rest) rest
  | negative e => exact raises_checkExpr hR p e
  | positive e => exact raises_checkExpr hR p e
  | not e => exact raises_checkExpr hR p e
  | and a b => exact (raises_checkExpr hR p a).bind fun _ => raises_checkExpr hR p b
  | or a b => exact (raises_checkExpr hR p a).bind fun _ => raises_checkExpr hR p b
  | binary op a b => exact (raises_checkExpr hR p a).bind fun _ => raises_checkExpr hR p b
  | compare e rest => exact (raises_checkExpr hR p e).bind fun _ => raises_checkCompared hR p rest
  | concat items => exact raises_checkList hR p items
  | choose condition yes no _ =>
    exact (raises_checkExpr hR _ yes).bind fun _ => (raises_checkExpr hR _ condition).bind fun _ =>
      (raises_checkOption hR _ no).bind fun _ => raises_noteChoice s _

theorem raises_checkList (hR : Admits R s.name s.file) (p : Position) (items : List Expr) :
    Preparing.Raises R (checkList s p items) := by
  cases items with
  | nil => exact .ret _
  | cons e rest => exact (raises_checkExpr hR p e).bind fun _ => raises_checkList hR p rest

theorem raises_checkOption (hR : Admits R s.name s.file) (p : Position) (e : Option Expr) :
    Preparing.Raises R (checkOption s p e) := by
  cases e with
  | none => exact .ret _
  | some e => exact raises_checkExpr hR p e

theorem raises_checkEntries (hR : Admits R s.name s.file) (p : Position) (entries : List (Expr × Expr)) :
    Preparing.Raises R (checkEntries s p entries) := by
  rcases entries with _ | ⟨⟨k, e⟩, rest⟩
  · exact .ret _
  · exact (raises_checkExpr hR p k).bind fun _ => (raises_checkExpr hR p e).bind fun _ => raises_checkEntries hR p rest

theorem raises_checkNamed (hR : Admits R s.name s.file) (p : Position) (named : List (String × Expr)) :
    Preparing.Raises R (checkNamed s p named) := by
  rcases named with _ | ⟨⟨id, e⟩, rest⟩
  · exact .ret _
  · exact (raises_checkExpr hR p e).bind fun _ => raises_checkNamed hR p rest

theorem raises_checkCompared (hR : Admits R s.name s.file) (p : Position) (rest : List (CompareOp × Expr)) :
    Preparing.Raises R (checkCompared s p rest) := by
  rcases rest with _ | ⟨⟨op, e⟩, rest⟩
  · exact .ret _
  · exact (raises_checkExpr hR p e).bind fun _ => raises_checkCompared hR p rest

end

end Early

/-! ## Preparation -/

section Prepare

open Agreement

structure Early (R : Fault → Prop) (s : Subject) (I : Interp) : Prop where
  admits : Admits R s.name s.file
  aligned : I.Raises R admits.plain

variable {α : Type} {R : Fault → Prop} {s : Subject} {I : Interp}

theorem raises_folded (h : Early R s I) (p : Position) (e : Expr) : Preparing.Raises R (folded I s p e) := by
  have rest : Preparing.Raises R (do if p.mode.unsure then return e else fold I (s.env p) e) :=
    .branch (.ret e) (.lift (raises_fold h.aligned _ e))
  exact .check (raises_fail h.admits .tooDeep) (fun _ => rest) rest

mutual

theorem raises_prepareExpr (h : Early R s I) (p : Position) (e : Expr) : Preparing.Raises R (prepareExpr I s p e) := by
  have folds : Preparing.Raises R (do
      let e ← folded I s p e
      checkExpr s p e
      return e) :=
    (raises_folded h p e).bind fun e => (raises_checkExpr h.admits p e).bind fun _ => .ret e
  cases e
  case list items => exact (raises_prepareExprs h p items).bind fun _ => .ret _
  case tuple items =>
    exact (raises_prepareExprs h p items).bind fun _ => .check (raises_noteUnreadable _) (fun _ => .ret _) (.ret _)
  case dict entries => exact (raises_prepareEntries h p entries).bind fun _ => .ret _
  all_goals exact folds

theorem raises_prepareExprs (h : Early R s I) (p : Position) (items : List Expr) :
    Preparing.Raises R (prepareExprs I s p items) := by
  cases items with
  | nil => exact .ret []
  | cons e rest => exact (raises_prepareExpr h p e).bind fun _ => (raises_prepareExprs h p rest).bind fun _ => .ret _

theorem raises_prepareEntries (h : Early R s I) (p : Position) (entries : List (Expr × Expr)) :
    Preparing.Raises R (prepareEntries I s p entries) := by
  rcases entries with _ | ⟨⟨k, e⟩, rest⟩
  · exact .ret []
  · exact (raises_prepareExpr h p k).bind fun _ => (raises_prepareExpr h p e).bind fun _ =>
      (raises_prepareEntries h p rest).bind fun _ => .ret _

end

theorem raises_prepareIn (h : Early R s I) (p : Position) (around : Nat) (e : Expr) :
    Preparing.Raises R (prepareIn I s p around e) :=
  (raises_prepareExpr h p e).bind fun _ => (raises_noteBrackets _).bind fun _ => .ret _

theorem raises_prepareOption (h : Early R s I) (p : Position) (around : Nat) (e : Option Expr) :
    Preparing.Raises R (prepareOption I s p around e) := by
  cases e with
  | none => exact .ret none
  | some e => exact (raises_prepareIn h p around e).bind fun _ => .ret _

theorem raises_fixPiece (p : Position) (piece : Piece) : Preparing.Raises R (fixPiece I s p piece) := by
  cases piece with
  | data text => exact .ret _
  | value e =>
    refine .branch (.ret _) (.bind (.lift (raises_fixedText? _ e)) fun found => ?_)
    cases found <;> exact .ret _
  | fixed text source => exact .ret _

theorem raises_preparePieces (h : Early R s I) (p : Position) (pieces : List Piece) :
    Preparing.Raises R (preparePieces I s p pieces) := by
  refine (Preparing.Raises.mapM (raises_fixPiece p) pieces).bind fun pieces => .mapM (fun piece => ?_) _
  cases piece with
  | value e => exact (raises_prepareIn h p _ e).bind fun _ => .ret _
  | _ => exact .ret _

theorem raises_prepareWhen (h : Early R s I) (p : Position) (now : Bool) (around : Nat) (e : Expr) :
    Preparing.Raises R (prepareWhen I s p now around e) := .branch (raises_prepareIn h p around e) (.ret e)

theorem raises_prepareTest (h : Early R s I) (p : Position) (target : Target) (test : Option Expr) :
    Preparing.Raises R (prepareTest I s p target test) := by
  cases test with
  | none => exact .ret none
  | some e => exact (raises_noteIndent p 3).bind fun _ => (raises_prepareIn h _ 0 e).bind fun _ => .ret _

theorem raises_checkLoopTarget (h : Early R s I) (assigned : List (String × Nat)) :
    Preparing.Raises R (checkLoopTarget s assigned) := by
  unfold checkLoopTarget
  split
  · exact raises_flaw h.admits _ _
  · exact .ret _

theorem raises_prepareParams (h : Early R s I) (p : Position) (params : Params) (body : List Node) (line : Nat) :
    Preparing.Raises R (prepareParams I s p params body line) := by
  have last : Preparing.Raises R (do
      if repeatsName params.names then noteRefused
      noteIndent p (if params.names.isEmpty then 0 else 1)
      return ({ params with defaults := ← params.defaults.mapM (prepareIn I s p 0) } : Params)) := by
    have indented : Preparing.Raises R (do
        noteIndent p (if params.names.isEmpty then 0 else 1)
        return ({ params with defaults := ← params.defaults.mapM (prepareIn I s p 0) } : Params)) :=
      (raises_noteIndent p _).bind fun _ => (Preparing.Raises.mapM (raises_prepareIn h p 0) _).bind fun _ => .ret _
    exact .check raises_noteRefused (fun _ => indented) indented
  refine .branch ?_ last
  cases params.names.findIdx? (· == "caller") with
  | some index => exact .check (raises_flaw h.admits _ _) (fun _ => last) last
  | none => exact last

theorem raises_prepareCall (h : Early R s I) (p : Position) (call : Expr) :
    Preparing.Raises R (prepareCall I s p call) := by
  refine (raises_prepareIn h p _ call).bind fun call => ?_
  cases call
  case call => exact (raises_noteArguments _ _).bind fun _ => .ret _
  all_goals exact .ret _

theorem raises_prepareExtends (h : Early R s I) (p : Position) (template : Expr) (line : Nat) :
    Preparing.Raises R (prepareExtends I s p template line) := by
  have rest : Preparing.Raises R (do
      let progress ← get
      if 0 < progress.count && progress.certain then
        set { progress with stopped := true }
        return template
      else
        let template ← prepareIn I s p 1 template
        noteIndent p 1
        noteLoops (p.loops + 1)
        modify fun s => { s with certain := s.certain || p.root, count := s.count + 1 }
        return template) :=
    Preparing.Raises.asks.bind fun _ => .branch (.bind (.change _) fun _ => .ret _)
      ((raises_prepareIn h p 1 template).bind fun _ => (raises_noteIndent p 1).bind fun _ =>
        (raises_noteLoops _).bind fun _ => .bind (.change _) fun _ => .ret _)
  exact .check (raises_flaw h.admits _ _) (fun _ => rest) rest

theorem raises_noteBlock (p : Position) (isRequired : Bool) : Preparing.Raises R (noteBlock p isRequired) :=
  Preparing.Raises.asks.bind fun _ =>
    .branch ((raises_noteIndent _ _).bind fun _ => raises_noteLoops _) (.ret _)

theorem raises_noteInclude (p : Position) (ignoreMissing withContext : Bool) :
    Preparing.Raises R (noteInclude p ignoreMissing withContext) :=
  (raises_noteIndent p _).bind fun _ => raises_noteLoops _

theorem raises_inEscape (h : Early R s I) (p : Position) (value : Expr) {act : Position → Preparing α}
    (ha : ∀ p, Preparing.Raises R (act p)) : Preparing.Raises R (inEscape I s p value act) := by
  refine (Preparing.Raises.lift (raises_constOf h.aligned _ value)).bind fun found => ?_
  cases found with
  | none => exact (ha _).bind fun _ => .ret _
  | some v =>
    have writes (v : Value) : Raises R (setEscape (s.env p) v) :=
      h.aligned.of_sim (sim_setEscape _ v)
    exact .bind (.lift (raises_truth h.aligned v)) fun on =>
      .bind (.lift (.total fun w => ⟨_, w, rfl⟩)) fun before =>
      .bind (.lift (writes _)) fun _ => (ha _).bind fun _ => .bind (.lift (writes before)) fun _ => .ret _

mutual

theorem raises_prepareNode (h : Early R s I) (p : Position) (node : Node) :
    Preparing.Raises R (prepareNode I s p node) := by
  cases node with
  | output pieces =>
    have rest : Preparing.Raises R (do
        noteIndent p (if p.dropsOutput then 1 else 0)
        return Node.output (← preparePieces I s p pieces)) :=
      (raises_noteIndent p _).bind fun _ => (raises_preparePieces h p pieces).bind fun _ => .ret _
    exact Preparing.Raises.asks.bind fun _ => .branch (.ret _) rest
  | assign target value =>
    exact (raises_noteIndent p _).bind fun _ => (raises_prepareIn h p 0 value).bind fun _ => .ret _
  | capture target filter body =>
    exact (raises_prepareBody h _ body).bind fun _ => (raises_prepareOption h _ 1 filter).bind fun _ => .ret _
  | withVars bindings body =>
    have bound (b : Target × Expr) : Preparing.Raises R (do return (b.1, ← prepareIn I s p 0 b.2)) :=
      (raises_prepareIn h p 0 b.2).bind fun _ => .ret _
    exact (Preparing.Raises.mapM bound bindings).bind fun _ => (raises_prepareBody h _ body).bind fun _ => .ret _
  | macroDef id params body line =>
    exact (raises_prepareParams h _ params body line).bind fun _ => (raises_prepareBody h _ body).bind fun _ => .ret _
  | callBlock params call body line =>
    exact (raises_prepareParams h _ params body line).bind fun _ => (raises_prepareBody h _ body).bind fun _ =>
      (raises_prepareCall h p call).bind fun _ => .ret _
  | tagBlock tag markup body =>
    exact (raises_noteIndent _ 1).bind fun _ => (raises_prepareBody h _ body).bind fun _ => .ret _
  | filterBlock filter body =>
    exact (raises_prepareBody h _ body).bind fun _ => (raises_prepareIn h _ _ filter).bind fun _ => .ret _
  | «autoescape» value _ body =>
    exact (raises_prepareIn h _ 0 value).bind fun value =>
      (raises_inEscape h _ value fun p => raises_prepareBody h p body).bind fun _ => .ret _
  | block id isScoped isRequired body line => exact (raises_noteBlock p isRequired).bind fun _ => .ret _
  | extendsFrom template line => exact (raises_prepareExtends h p template line).bind fun _ => .ret _
  | includeFile template ignoreMissing withContext =>
    exact (raises_prepareIn h p 1 template).bind fun _ => (raises_noteInclude p _ _).bind fun _ => .ret _
  | importAs template id withContext => exact (raises_prepareIn h p 1 template).bind fun _ => .ret _
  | importNames template names withContext line =>
    exact (raises_prepareIn h p 1 template).bind fun _ => (raises_noteIndent p 1).bind fun _ => .ret _
  | collect => exact .ret _
  | ifElse condition body branches otherwise =>
    refine (raises_prepareIn h _ 0 condition).bind fun _ => (raises_prepareBody h _ body).bind fun _ => ?_
    refine (raises_prepareBranches h _ branches).bind fun _ => ?_
    exact .branch (.ret _) ((raises_prepareBody h _ otherwise).bind fun _ => .ret _)
  | forLoop target iterable test isRecursive body otherwise =>
    refine (raises_prepareTest h p target test).bind fun _ => (raises_checkLoopTarget h _).bind fun _ => ?_
    refine (raises_prepareWhen h p _ _ iterable).bind fun iterable => (raises_noteLoops _).bind fun _ => ?_
    refine (raises_prepareBody h _ body).bind fun _ => ?_
    exact .branch (.bind (.ret []) fun _ => (raises_prepareWhen h p _ _ iterable).bind fun _ => .ret _)
      ((raises_prepareBody h _ otherwise).bind fun _ => (raises_prepareWhen h p _ _ iterable).bind fun _ => .ret _)

theorem raises_prepareBody (h : Early R s I) (p : Position) (body : List Node) :
    Preparing.Raises R (prepareBody I s p body) := by
  rcases body with _ | ⟨n, rest⟩
  · exact (raises_noteIndent p 0).bind fun _ => .bind (.change _) fun _ => .ret _
  · exact (raises_noteIndent p 0).bind fun _ => (raises_prepareNode h p n).bind fun _ =>
      Preparing.Raises.asks.bind fun _ => .branch (.bind (.change _) fun _ => .ret _)
        ((raises_prepareBody h p rest).bind fun _ => .ret _)

theorem raises_prepareBranches (h : Early R s I) (p : Position) (branches : List (Expr × List Node)) :
    Preparing.Raises R (prepareBranches I s p branches) := by
  rcases branches with _ | ⟨⟨condition, body⟩, rest⟩
  · exact .ret []
  · exact (raises_prepareIn h p 0 condition).bind fun _ => (raises_prepareBody h _ body).bind fun _ =>
      (raises_prepareBranches h p rest).bind fun _ => .ret _

end

theorem raises_checkBlockNames (h : Early R s I) (seen : List String) (blocks : List Block) :
    Preparing.Raises R (checkBlockNames s seen blocks) := by
  induction blocks generalizing seen with
  | nil => exact .ret _
  | cons b rest ih => exact .branch (raises_flaw h.admits _ _) (ih _)

theorem raises_prepareBlock (h : Early R s I) (mode : EscapeMode) (b : Block) :
    Preparing.Raises R (prepareBlock I s mode b) := (raises_prepareBody h _ b.body).bind fun _ => .ret _

/-- Every fault of a preparation is told with the name and the file of the template. -/
theorem raises_prepare {name file : Option String} (hR : Admits R name file)
    (hI : I.Raises R hR.plain) (body : List Node) : Raises R (prepare I name file body) := by
  refine Raises.bind (.total fun w => ⟨w, w, rfl⟩) fun w => .bind (.total fun _ => ⟨_, _, rfl⟩) fun cell => ?_
  refine .bind (.total fun _ => ⟨_, _, rfl⟩) fun context => ?_
  have h : Early R ⟨name, file, context⟩ I := ⟨hR, hI⟩
  have walk : Preparing.Raises R (do
      checkBlockNames ⟨name, file, context⟩ [] (blocksOf body)
      let prepared ← prepareBody I ⟨name, file, context⟩
        { scopes := Scopes.unit ["self"] body, mode := ⟨w.settings.escape, false⟩, top := true, root := true,
          dropsOutput := anyExtends body } body
      let blocks ← (blocksOf body).mapM (prepareBlock I ⟨name, file, context⟩ ⟨w.settings.escape, false⟩)
      return (⟨name, file, prepared, blocks, anyExtends body⟩ : Compiled)) :=
    (raises_checkBlockNames h [] _).bind fun _ => (raises_prepareBody h _ body).bind fun _ =>
      (Preparing.Raises.mapM (raises_prepareBlock h _) _).bind fun _ => .ret _
  refine (walk {}).bind fun result => ?_
  obtain ⟨c, progress⟩ := result
  dsimp only
  cases progress.unreadable with
  | some m => exact .throws (hR.plain rfl)
  | none => exact .branch (.throws (hR.plain rfl)) (.ret c)

end Prepare

/-- What is wrong with a template is a fault of an ordinary operation, or a flaw of its text that is told with its name
and its file. -/
theorem compiledText_eq_error {settings : Settings} {tags : List String} {name file : Option String} {source : String}
    {x : Fault} (h : compiledText settings tags name file source = .error x) :
    x.isPlain = true ∨ ∃ flaw, x = .ofFlaw flaw name file := by
  have admits : Admits (fun x => x.isPlain = true ∨ ∃ flaw, x = .ofFlaw flaw name file) name file :=
    ⟨.inl, fun flaw => .inr ⟨flaw, rfl⟩⟩
  unfold compiledText at h
  split at h
  · next body _ => exact raises_prepare admits (Agreement.aligned_early plenty) body _ x h
  · next flaw _ =>
    cases h
    exact .inr ⟨flaw, rfl⟩

end Stencil.Engine
