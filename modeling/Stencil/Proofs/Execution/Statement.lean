import Stencil.Engine.Interpreter
import Stencil.Proofs.Execution.Tag

/-!
# Runs follow each other

Statements follow each other, by induction over the syntax, and so do interpreters of the same fuel, by induction over
the fuel. A statement writes to the frame of the body it stands in, and to the context only at the top level of its
template.
-/

set_option autoImplicit false

namespace Stencil.Engine

open Stencil.Template

namespace Agreement

variable {A : Agreement} {I I' : Interp}

theorem aligned_exhausted : Aligned A exhausted exhausted where
  nodes _ _ _ := .raise _ rfl
  call _ _ _ _ := .raise _ rfl
  next _ := .raise _ rfl
  drain _ := .raise _ rfl
  seek _ _ := .raise _ rfl
  turns _ _ _ _ _ _ _ _ := .raise _ rfl
  body _ _ := .raise _ rfl
  template _ _ _ := .raise _ rfl
  block _ _ := .raise _ rfl
  filter _ _ _ _ := .raise _ rfl
  tag _ _ _ _ _ := .raise _ rfl
  render _ _ _ := .raise _ rfl
  sought _ _ _ := .raise _ rfl

theorem Aligned.deferred (hI : Aligned A I I') : Aligned A (deferred fun _ => I) (deferred fun _ => I') where
  nodes := hI.nodes
  call := hI.call
  next := hI.next
  drain := hI.drain
  seek := hI.seek
  turns := hI.turns
  body := hI.body
  template := hI.template
  block := hI.block
  filter := hI.filter
  tag := hI.tag
  render := hI.render
  sought := hI.sought

theorem sim_isDropped (env : Env) : A.Same (isDropped env) (isDropped (A.names.on env)) := by
  unfold isDropped
  rw [Renaming.env_dropping]
  cases env.dropping with
  | some r => exact (sim_frame r).bind fun _ => .ret rfl
  | none => exact .ret rfl

theorem sim_written (hI : Aligned A I I') (escapes : Bool) (v : Value) :
    A.Same (written I escapes v) (written I' escapes (A.names.on v)) :=
  .branch (sim_escaped hI v) (sim_display hI v)

theorem sim_runPieces (hI : Aligned A I I') (env : Env) (pieces : List Piece) :
    A.Same (runPieces I env pieces) (runPieces I' (A.names.on env) pieces) := by
  induction pieces with
  | nil => exact .ret rfl
  | cons p rest ih =>
    cases p with
    | data s => exact .bind (sim_escapesHere hI env).dropped fun _ => ih.bind fun _ => .ret rfl
    | value e =>
      exact (sim_escapesHere hI env).bind fun escapes => (sim_evaluate hI env e).bind fun v =>
        (sim_written hI escapes v).bind fun _ => ih.bind fun _ => .ret rfl
    | fixed s _ => exact ih.bind fun _ => .ret rfl

theorem sim_capturedText (hI : Aligned A I I') (env : Env) (out : Output) :
    A.Same (capturedText I env out) (capturedText I' (A.names.on env) out) :=
  (sim_escapesHere hI env).bind fun _ =>
    .branch ((sim_joined out).bind fun _ => .ret rfl) ((sim_joined out).bind fun _ => .ret rfl)

theorem sim_markedSafe (hI : Aligned A I I') (v : Value) :
    A.Same (markedSafe I v) (markedSafe I' (A.names.on v)) := by
  cases v
  case «module» r => exact (sim_escaped hI (.module r)).bind fun _ => .ret rfl
  all_goals exact (sim_display hI _).bind fun _ => .ret rfl

theorem sim_filteredCapture (hI : Aligned A I I') (env : Env) (filter : Option Expr) (out : Output) :
    A.Same (filteredCapture I env filter out) (filteredCapture I' (A.names.on env) filter out) := by
  cases filter with
  | some e => exact (sim_capturedText hI env out).bind fun v => sim_applyChain hI env v e
  | none => exact (sim_joined out).bind fun _ => .ret rfl

theorem sim_capturedValue (hI : Aligned A I I') (env : Env) (filter : Option Expr) (out : Output) :
    A.Same (capturedValue I env filter out) (capturedValue I' (A.names.on env) filter out) :=
  (sim_escapesNow hI env).bind fun _ => (sim_filteredCapture hI env filter out).bind fun v =>
    .branch (sim_markedSafe hI v) (.ret rfl)

theorem rawOutput_on (ρ : Renaming) (v : Value) : rawOutput (ρ.on v) = rawOutput v := by
  cases v <;> rfl

theorem sim_runForLoop (hI : Aligned A I I') {env : Env} (he : A.Writes env) (f : LoopFn) (isRecursive : Bool)
    (iterable : Expr) :
    A.Same (runForLoop I env f isRecursive iterable)
      (runForLoop I' (A.names.on env) (A.names.on f) isRecursive iterable) := by
  refine .branch ?_ ?_
  · refine (sim_alloc (.loopFn f)).bind fun fn => (sim_evaluate hI env iterable).bind fun items => ?_
    refine .branch (p := (anyLeaks f.body || anyLeaks f.otherwise) = true) (.ret rfl) ?_
    exact .bind (sim_deeper 1 (sim_callLoop hI fn 0 items)) fun v => .ret (rawOutput_on A.names v)
  · exact (sim_evaluate hI env iterable).bind fun items => sim_runLoop hI env he.1 f _ none 0 items

theorem sim_runMacroDef {env : Env} (he : A.Writes env) (id : String) (params : Params) (body : List Node) :
    A.Same (runMacroDef env id params body) (runMacroDef (A.names.on env) id params body) :=
  (sim_newMacro env (some id) params body).bind fun m => (sim_alloc (.macroFn m)).bind fun r =>
    sim_storeName he id (.macroFn r)

theorem sim_runCallBlock (hI : Aligned A I I') (env : Env) (params : Params) (call : Expr) (body : List Node) :
    A.Same (runCallBlock I env params call body) (runCallBlock I' (A.names.on env) params call body) := by
  refine (sim_newMacro env none params body).bind fun m => (sim_alloc (.macroFn m)).bind fun caller => ?_
  cases call
  case call fn args named more moreNamed =>
    refine (sim_evaluate hI env fn).bind fun v => (sim_evaluateAll hI env args).bind fun args => ?_
    refine (sim_evaluateOption hI env more).bind fun more => (sim_spread hI more).bind fun rest => ?_
    refine (sim_evaluateNamed hI env named).bind fun named => ?_
    refine (sim_evaluateOption hI env moreNamed).bind fun moreNamed => ?_
    have withCaller : named.map A.names.on ++ [("caller", Value.macroFn (A.names.object caller))] =
        (named ++ [("caller", Value.macroFn caller)]).map A.names.on := by
      rw [List.map_append]
      rfl
    rw [← List.map_append, withCaller]
    refine (sim_gather _ _ moreNamed).bind fun given => ?_
    exact (hI.call env v given.positional given.named).bind fun v => .ret (rawOutput_on A.names v)
  all_goals exact .fails _

theorem sim_blockContext (env : Env) (isScoped : Bool) :
    A.Sim A.names.context (blockContext env isScoped) (blockContext (A.names.on env) isScoped) :=
  .branch (sim_derivedContext env) (.ret rfl)

theorem sim_runBlock (hI : Aligned A I I') (env : Env) (id : String) (isScoped isRequired : Bool) :
    A.Same (runBlock I env id isScoped isRequired) (runBlock I' (A.names.on env) id isScoped isRequired) := by
  refine (sim_frame env.frame).bind fun f => .branch (p := (env.top && f.parent.isSome) = true) (.ret rfl) ?_
  refine (sim_blockContext env isScoped).bind fun target => (sim_context env.context).bind fun c => ?_
  refine .branch (p := (isRequired && ((c.blocks.find? id).getD []).length ≤ 1) = true) (.raise _ rfl) ?_
  rw [Renaming.context_blocks]
  cases (c.blocks.find? id).getD [] with
  | nil => exact .fails _
  | cons fn _ => exact sim_deeper 1 (hI.block fn target)

theorem sim_runExtends [A.Complete] (hI : Aligned A I I') {env : Env} (he : A.Writes env) (template : Expr) :
    A.Same (runExtends I env template) (runExtends I' (A.names.on env) template) := by
  by_cases top : env.top = true
  · have top' : (A.names.on env).top = true := top
    unfold runExtends
    rw [top, top']
    refine (sim_frame env.frame).bind fun f => .branch (p := f.parent.isSome = true) (.raise _ rfl) ?_
    refine (sim_evaluate hI env template).bind fun v => (sim_getTemplate v).bind fun t => ?_
    refine .bind (A.write_frame env.frame _ _ he.1 fun _ => rfl) fun _ => (sim_compiled? (.file t)).bind fun c => ?_
    cases c with
    | some c => exact A.write_context env.context _ _ (he.2 top) fun _ => rfl
    | none => exact .ret rfl
  · have top' : ¬(A.names.on env).top = true := top
    unfold runExtends
    simp only [Bool.not_eq_true] at top top'
    rw [top, top']
    exact .failing _ _ _

theorem sim_soughtTemplate [A.Complete] (hI : Aligned A I I') (env : Env) (template : Expr) :
    A.Sim id (soughtTemplate I env template) (soughtTemplate I' (A.names.on env) template) :=
  (sim_evaluate hI env template).bind fun v => sim_getOrSelect hI v

theorem sim_includedTemplate? [A.Complete] (hI : Aligned A I I') (env : Env) (template : Expr) (ignoreMissing : Bool) :
    A.Sim id (includedTemplate? I env template ignoreMissing)
      (includedTemplate? I' (A.names.on env) template ignoreMissing) := by
  refine sim_recover ((hI.sought env template ignoreMissing).bind fun _ => .ret rfl) (.ret rfl) ?_ ?_ <;>
    cases ignoreMissing <;> rfl

theorem sim_runInclude [A.Complete] (hI : Aligned A I I') (env : Env) (template : Expr) (ignoreMissing withContext : Bool) :
    A.Same (runInclude I env template ignoreMissing withContext)
      (runInclude I' (A.names.on env) template ignoreMissing withContext) := by
  refine (sim_includedTemplate? hI env template ignoreMissing).bind fun t => ?_
  cases t with
  | none => exact .ret rfl
  | some t =>
    refine .branch ?_ ?_
    · refine (sim_visibleNames env).bind fun names => ?_
      exact sim_withFreshContext (.file t) names fun r hr => sim_deeper 1 (hI.template (.file t) r hr)
    · refine (sim_defaultModule hI t).bind fun r => (sim_object? r).bind fun o => ?_
      rcases o with _ | o
      · exact .ret rfl
      · cases o <;> exact .ret rfl

theorem sim_importedModule [A.Complete] (hI : Aligned A I I') (env : Env) (template : Expr) (withContext : Bool) :
    A.Sim A.names.object (importedModule I env template withContext)
      (importedModule I' (A.names.on env) template withContext) := by
  refine (sim_evaluate hI env template).bind fun v => (sim_getTemplate v).bind fun t => .branch ?_ ?_
  · exact (sim_visibleNames env).bind fun names => sim_makeModule hI t names
  · exact sim_defaultModule hI t

theorem sim_runImportAs [A.Complete] (hI : Aligned A I I') {env : Env} (he : A.Writes env) (template : Expr) (id : String)
    (withContext : Bool) :
    A.Same (runImportAs I env template id withContext) (runImportAs I' (A.names.on env) template id withContext) :=
  (sim_importedModule hI env template withContext).bind fun r => sim_storeImport he id (.module r)

theorem sim_notExported (env : Env) (source : Option String) (id : String) (line : Nat) :
    A.Same (notExported env source id line) (notExported (A.names.on env) source id line) :=
  (sim_positionText env Text.quoted line).bind fun _ => sim_newMissing _ _

theorem sim_moduleAt (r : Ref) : A.Same (moduleAt r) (moduleAt (A.names.object r)) := by
  refine (sim_object? r).bind fun o => ?_
  rcases o with _ | o
  · exact .fails _
  · cases o
    case «module» m => exact .ret rfl
    all_goals exact .fails _

theorem sim_runImportNames [A.Complete] (hI : Aligned A I I') {env : Env} (he : A.Writes env) (template : Expr)
    (names : List (String × String)) (withContext : Bool) (line : Nat) :
    A.Same (runImportNames I env template names withContext line)
      (runImportNames I' (A.names.on env) template names withContext line) := by
  refine (sim_importedModule hI env template withContext).bind fun r => (sim_moduleAt r).bind fun m => ?_
  refine .forM_same (fun e => ?_) names
  rw [Renaming.module_exports, Table.find?_mapValues]
  cases m.exports.find? e.1 with
  | some v => exact sim_storeImport he e.2 v
  | none => exact (sim_notExported env m.name e.1 line).bind fun v => sim_storeImport he e.2 v

mutual

theorem sim_run [A.Complete] (hI : Aligned A I I') {env : Env} (he : A.Writes env) (node : Node) :
    A.Same (run I env node) (run I' (A.names.on env) node) := by
  cases node with
  | output pieces =>
    exact (sim_isDropped env).bind fun _ => .branch (.ret rfl) ((sim_runPieces hI env pieces).bind fun _ => .ret rfl)
  | assign target value =>
    exact .bind (sim_checkNamespaces env target) fun _ => (sim_evaluate hI env value).bind fun v =>
      .bind (sim_assignTo hI he target v) fun _ => .ret rfl
  | capture target filter body =>
    unfold run
    refine sim_inScope he.1 (Scopes.plain env.scopes body) fun hw => ?_
    let inner : Env := { env.inner (Scopes.plain env.scopes body) with dropping := none, captures := true }
    have hinner : A.Writes inner := ⟨hw.1, nofun⟩
    refine .bind (sim_runAll hI hinner body) fun out => ?_
    exact .bind (sim_capturedValue hI inner filter out) fun v => .bind (sim_assignTo hI he target v) fun _ => .ret rfl
  | forLoop target iterable test isRecursive body otherwise =>
    exact sim_runForLoop hI he ⟨env, target, test, body, otherwise⟩ isRecursive iterable
  | ifElse condition body branches otherwise =>
    refine (sim_evaluate hI env condition).bind fun v => (sim_truth hI v).bind fun _ =>
      .branch (sim_runAll hI he body) ((sim_runBranches hI he branches).bind fun out => ?_)
    cases out with
    | some out => exact .ret rfl
    | none => exact sim_runAll hI he otherwise
  | withVars bindings body =>
    unfold run
    refine sim_inScope he.1 (Scopes.withBody env.scopes (bindings.map Prod.fst) body) fun hw => ?_
    refine .bind (.forM_same (fun b => ?_) bindings) fun _ => sim_runAll hI hw body
    exact (sim_evaluate hI env b.2).bind fun v => sim_assignTo hI hw b.1 v
  | macroDef id params body _ => exact .bind (sim_runMacroDef he id params body) fun _ => .ret rfl
  | callBlock params call body _ => exact sim_runCallBlock hI env params call body
  | tagBlock id markup body =>
    exact sim_registered id
      (fun found => match found with | some tag => I.tag env tag markup body | none => fail .noKey)
      (fun found => match found with | some tag => I'.tag (A.names.on env) tag markup body | none => fail .noKey)
      (.fails _) fun tag used => hI.tag env tag markup body used
  | filterBlock filter body =>
    unfold run
    refine sim_inScope he.1 (Scopes.filterBody env.scopes body filter) fun hw => ?_
    let inner : Env := { env.inner (Scopes.filterBody env.scopes body filter) with captures := true }
    have hinner : A.Writes inner := ⟨hw.1, nofun⟩
    refine .bind (sim_runAll hI hinner body) fun out => ?_
    refine .bind (sim_capturedText hI inner out) fun text => .bind (sim_applyChain hI inner text filter) fun v => ?_
    exact .ret (congrArg (out.leaked env.captures ++ ·) (rawOutput_on A.names v))
  | autoescape value settled body =>
    unfold run
    refine sim_inScope he.1 (Scopes.autoescapeBody env.scopes value body) fun hw => ?_
    let inner : Env := env.inner (Scopes.autoescapeBody env.scopes value body)
    refine .bind (sim_escapeValue inner.context) fun before => .bind (sim_evaluate hI inner value) fun v => ?_
    have hinner : A.Writes { inner with escape := inner.escape.changed settled } := ⟨hw.1, nofun⟩
    refine .bind (sim_setEscape inner v) fun _ => .bind (sim_runAll hI hinner body) fun out => ?_
    exact .bind (sim_setEscape inner before) fun _ => .ret rfl
  | block id isScoped isRequired _ _ => exact sim_runBlock hI env id isScoped isRequired
  | extendsFrom template _ => exact .bind (sim_runExtends hI he template) fun _ => .ret rfl
  | includeFile template ignoreMissing withContext =>
    exact sim_runInclude hI env template ignoreMissing withContext
  | importAs template id withContext => exact .bind (sim_runImportAs hI he template id withContext) fun _ => .ret rfl
  | importNames template names withContext line =>
    exact .bind (sim_runImportNames hI he template names withContext line) fun _ => .ret rfl
  | collect => exact .bind (sim_collectNames env) fun _ => .ret rfl

theorem sim_runAll [A.Complete] (hI : Aligned A I I') {env : Env} (he : A.Writes env) (nodes : List Node) :
    A.Same (runAll I env nodes) (runAll I' (A.names.on env) nodes) := by
  cases nodes with
  | nil => exact .ret rfl
  | cons n rest => exact (sim_run hI he n).bind fun _ => (sim_runAll hI he rest).bind fun _ => .ret rfl

theorem sim_runBranches [A.Complete] (hI : Aligned A I I') {env : Env} (he : A.Writes env) (branches : List (Expr × List Node)) :
    A.Same (runBranches I env branches) (runBranches I' (A.names.on env) branches) := by
  rcases branches with _ | ⟨⟨condition, body⟩, rest⟩
  · exact .ret rfl
  · exact (sim_evaluate hI env condition).bind fun v => (sim_truth hI v).bind fun _ =>
      .branch ((sim_runAll hI he body).bind fun _ => .ret rfl) (sim_runBranches hI he rest)

end

theorem sim_superBlock (fn : BlockFn) (r : Ref) :
    A.Same (superBlock fn r) (superBlock fn (A.names.context r)) := by
  refine (sim_context r).bind fun c => ?_
  rw [Renaming.context_blocks]
  dsimp only
  cases ((c.blocks.find? fn.id).getD []).findIdx? (·.same fn) with
  | some height => exact sim_parentBlock fn.id r _ height
  | none => exact sim_parentBlock fn.id r [] 0

theorem sim_giveSpecial (env : Env) (he : A.frames env.frame) (body : List Node) (id : String) {v v' : Eval Value}
    (hv : A.Same v v') : A.Same (giveSpecial env body id v) (giveSpecial (A.names.on env) body id v') :=
  .branch (hv.bind fun v => sim_giveName he id v) (.ret rfl)

theorem sim_runToParent [A.Complete] (hI : Aligned A I I') (env : Env) (he : A.frames env.frame) (hc : A.contexts env.context)
    (body : List Node) : A.Same (runToParent I env body) (runToParent I' (A.names.on env) body) := by
  refine .bind (sim_enter env he) fun _ => (sim_runAll hI ⟨he, fun _ => hc⟩ body).bind fun out => ?_
  refine (sim_frame env.frame).bind fun f => ?_
  rw [Renaming.frame_parent]
  cases f.parent with
  | some parent => exact .bind (sim_deeper 1 (hI.template (.file parent) env.context hc)) fun _ => .ret rfl
  | none => exact .ret rfl

theorem sim_runTemplate [A.Complete] (hI : Aligned A I I') (t : Script) {r : Ref} (hr : A.contexts r) :
    A.Same (runTemplate I t r) (runTemplate I' t (A.names.context r)) := by
  refine (sim_compiled? t).bind fun c => ?_
  cases c with
  | none => exact .ret rfl
  | some c =>
    refine sim_withFrame ⟨0, none, {}, {}, none⟩ fun f hf => sim_currentSettings.bind fun settings => ?_
    have dropped : (if c.inherits then some (A.names.frame f) else none) =
        (if c.inherits then some f else none : Option Ref).map A.names.frame := by
      split <;> rfl
    dsimp only [id]
    rw [dropped]
    let env : Env :=
      { script := t, context := r, frame := f, scopes := Scopes.unit ["self"] c.body,
        escape := ⟨settings.escape, false⟩, top := true, dropping := if c.inherits then some f else none }
    exact .bind (sim_giveSpecial env hf c.body "self" (.ret rfl)) fun _ =>
      sim_runToParent hI env hf hr c.body

theorem sim_runBlockFn [A.Complete] (hI : Aligned A I I') (fn : BlockFn) (r : Ref) :
    A.Same (runBlockFn I fn r) (runBlockFn I' fn (A.names.context r)) := by
  refine (sim_compiled? fn.script).bind fun c => ?_
  dsimp only [id]
  cases c.bind fun c => c.blocks.reverse.find? fun b => Text.normal b.id == Text.normal fn.id with
  | none => exact .ret rfl
  | some b =>
    refine sim_withFrame ⟨0, none, {}, {}, none⟩ fun f hf => sim_currentSettings.bind fun settings => ?_
    let env : Env :=
      { script := fn.script, context := r, frame := f, scopes := Scopes.unit ["self", "super"] b.body,
        escape := ⟨settings.escape, false⟩ }
    refine .bind (sim_giveSpecial env hf b.body "self" (.ret rfl)) fun _ => ?_
    refine .bind (sim_giveSpecial env hf b.body "super" (sim_superBlock fn r)) fun _ => ?_
    have hw : A.Writes env := ⟨hf, nofun⟩
    exact .bind (sim_enter env hf) fun _ => sim_runAll hI hw b.body

/-! ## Interpreters -/

/-- One passage through the interpreter. -/
theorem aligned_stage [A.Complete] (hI : Aligned A I I') {sought : Env → Expr → Bool → Eval Ref}
    (hs : ∀ env e ignoring, (A.sparing fun x => ignoring && isNotFound x).Sim id (sought env e ignoring)
      (soughtTemplate I' (A.names.on env) e)) : Aligned A { stage I with sought } (stage I') where
  nodes _ nodes he := sim_runAll hI he nodes
  call env v args named := sim_callValue hI env v args named
  next r := sim_nextValue hI r
  drain r := sim_drainIter hI r
  seek r v := sim_seekIter hI r v
  turns _ counted source target body turns out he := sim_runTurns hI he counted source target body turns out
  body m bound := sim_runMacroBody hI m bound
  template t _ hr := sim_runTemplate hI t hr
  block fn r := sim_runBlockFn hI fn r
  filter env id args named := sim_applyFilter hI env id args named
  tag env tag markup body used := sim_runTag hI env tag used markup body
  render name vars source := sim_renderSource hI name vars source
  sought := hs

theorem aligned_interp [A.Complete] (n : Nat) : Aligned A (interp n) (interp n) := by
  induction n generalizing A with
  | zero => exact aligned_exhausted
  | succ n ih => exact (aligned_stage ih fun env e _ => sim_soughtTemplate ih env e).deferred

end Agreement

end Stencil.Engine
