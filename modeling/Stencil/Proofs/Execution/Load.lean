import Stencil.Engine.Load
import Stencil.Proofs.Execution.Call

/-!
# Templates follow each other

Template files are found and compiled in the same way on both sides, and a template that runs may write to the context
that was made for it.
-/

set_option autoImplicit false

namespace Stencil.Engine

open Stencil.Template

namespace Agreement

variable {A : Agreement} {I I' : Interp} {α β : Type} {f : α → β}

/-- A new context may be written. -/
theorem sim_withContext (c : Context) {k : Ref → Eval α} {k' : Ref → Eval β}
    (hk : ∀ r, A.contexts r → A.Sim f (k r) (k' (A.names.context r))) :
    A.Sim f (newContext c >>= k) (newContext (A.names.on c) >>= k') := by
  refine ⟨fun w hw => ?_, fun w w' hr => ?_, fun w w' hr => ?_⟩
  · exact (hk _ (A.newest_context (.inl hw))).1 _ ((A.push_context c).1 w hw)
  · have ready := hk _ (A.newest_context (.inr ⟨w', hr⟩))
    rcases (A.push_context c).ends w w' hr with hout | ⟨named, related⟩
    · exact .inl (ready.1 _ hout)
    · have same : w'.contexts.size = A.names.context w.contexts.size := named
      have followed := ready.ends _ _ related
      rw [← same] at followed
      exact followed
  · intro a w₁ b w₁' run run'
    have ready := hk _ (A.newest_context (.inr ⟨w', hr⟩))
    rcases (A.push_context c).ends w w' hr with hout | ⟨named, related⟩
    · have stays : A.out (outcome (newContext c >>= k) w).2 := ready.1 _ hout
      rw [run] at stays
      exact .inl stays
    · have same : w'.contexts.size = A.names.context w.contexts.size := named
      have level := ready.level _ _ related
      rw [← same] at level
      exact level a w₁ b w₁' run run'

theorem sim_compile [A.Complete] (name file : Option String) (source : String) :
    A.Sim id (compile name file source) (compile name file source) :=
  sim_currentSettings.bind fun _ => sim_currentRegistry.bind fun _ => sim_liftExcept _ fun _ => Complete.uncompiled

theorem sim_readTemplate [A.Complete] (folder : Path) (name : String) :
    A.Sim id (readTemplate folder name) (readTemplate folder name) := by
  unfold readTemplate
  split
  · exact .raise _ rfl
  · refine sim_currentFiles.bind fun files => ?_
    dsimp only [id]
    split
    · exact .raise _ rfl
    · exact .raise _ rfl
    · split
      · exact .raise _ rfl
      · exact (sim_compile _ _ _).bind fun c => (A.push_template c).bind fun _ => .ret rfl

theorem sim_currentLoaded : A.Sim id currentLoaded currentLoaded := .read _ _ fun _ _ h => (A.linked h).loaded

theorem sim_isCurrent (file : LoadedFile) : A.Sim id (isCurrent file) (isCurrent file) :=
  sim_currentFiles.bind fun _ => .ret rfl

theorem sim_keptFile? (name : String) : A.Sim id (keptFile? name) (keptFile? name) := by
  refine sim_currentLoaded.bind fun loaded => ?_
  dsimp only [id]
  split
  · exact .bind (A.write_loaded _) fun _ => .ret rfl
  · exact .ret rfl

theorem sim_reloaded [A.Complete] (folder : Path) (name : String) : A.Sim id (reloaded folder name) (reloaded folder name) :=
  (sim_readTemplate folder name).bind fun _ => sim_currentLoaded.bind fun _ =>
    .bind (A.write_loaded _) fun _ => .ret rfl

theorem sim_loadTemplate [A.Complete] (name : String) : A.Sim id (loadTemplate name) (loadTemplate name) := by
  refine sim_currentSettings.bind fun settings => ?_
  dsimp only [id]
  split
  · exact .fails _
  · refine (sim_keptFile? name).bind fun file => ?_
    cases file with
    | some file => exact (sim_isCurrent file).bind fun _ => .branch (.ret rfl) (sim_reloaded _ name)
    | none => exact sim_reloaded _ name

theorem sim_getTemplate [A.Complete] (v : Value) : A.Sim id (getTemplate v) (getTemplate (A.names.on v)) := by
  refine sim_currentSettings.bind fun _ => .branch (.failing _ _ _) ?_
  cases v
  case text name => exact sim_loadTemplate name
  case safe name => exact sim_loadTemplate name
  case missing m => exact sim_failMissing m
  case bytes => exact .fails _
  all_goals exact .bind (sim_needKey _) fun _ => .fails _

theorem sim_firstTemplate? [A.Complete] (vs : List Value) :
    A.Sim id (firstTemplate? vs) (firstTemplate? (vs.map A.names.on)) := by
  induction vs with
  | nil => exact .ret rfl
  | cons v rest ih =>
    exact sim_recover ((sim_getTemplate v).bind fun _ => .ret rfl) ih rfl rfl

theorem sim_candidateText (hI : Aligned A I I') (v : Value) :
    A.Same (candidateText I v) (candidateText I' (A.names.on v)) := by
  cases v
  case missing m => exact .ret rfl
  all_goals exact sim_display hI _

theorem sim_needLast (v : Value) : A.Same (needLast v) (needLast (A.names.on v)) := by
  cases v
  case list r => exact .ret rfl
  case tuple items => exact .ret rfl
  case dict r =>
    refine (sim_dictEntries r).bind fun entries => ?_
    rw [Renaming.on_list_eq, show Value.int (-1) = A.names.on (Value.int (-1)) from rfl, findKey?_on, Option.isNone_map]
    exact .branch (.fails _) (.ret rfl)
  all_goals exact .fails _

theorem sim_selectTemplate [A.Complete] (hI : Aligned A I I') (v : Value) :
    A.Sim id (selectTemplate I v) (selectTemplate I' (A.names.on v)) := by
  refine (sim_truth hI v).bind fun _ => .branch (.raise _ rfl) ?_
  refine (sim_itemsOf hI v).bind fun candidates => (sim_firstTemplate? candidates).bind fun t => ?_
  cases t with
  | some t => exact .ret rfl
  | none =>
    refine .bind (sim_needLast v) fun _ => .bind (.mapM (sim_candidateText hI) candidates) fun texts => ?_
    rw [Renaming.map_inert]
    exact .raise _ rfl

theorem sim_getOrSelect [A.Complete] (hI : Aligned A I I') (v : Value) :
    A.Sim id (getOrSelect I v) (getOrSelect I' (A.names.on v)) := by
  cases v
  case text s => exact sim_getTemplate (.text s)
  case safe s => exact sim_getTemplate (.safe s)
  case missing m => exact sim_getTemplate (.missing m)
  all_goals exact sim_selectTemplate hI _

/-! ## Contexts and modules -/

/-- The context for a template, which it may write. -/
theorem sim_withFreshContext (t : Script) (given : Table String Value) {k : Ref → Eval α} {k' : Ref → Eval β}
    (hk : ∀ r, A.contexts r → A.Sim f (k r) (k' (A.names.context r))) :
    A.Sim f (freshContext t given >>= k) (freshContext t (A.names.on given) >>= k') := by
  unfold freshContext
  simp only [bind_assoc]
  refine sim_currentSettings.bind fun settings => .bind (A.push_escape (.bool settings.escape)) fun cell => ?_
  refine (sim_compiled? t).bind fun c => ?_
  exact sim_withContext ⟨(c.getD ⟨none, none, [], [], false⟩).name, given, {}, [],
    blockTable t (c.getD ⟨none, none, [], [], false⟩).blocks, some cell⟩ hk

theorem sim_derivedContext (env : Env) :
    A.Sim A.names.context (derivedContext env) (derivedContext (A.names.on env)) := by
  refine (sim_context env.context).bind fun c => (sim_visibleNames env).bind fun names => ?_
  exact A.push_context { c with parent := names, vars := {}, exported := [] }

theorem exports_on (ρ : Renaming) (c : Context) :
    Table.ofList ((ρ.on c).exported.filterMap fun id => ((ρ.on c).vars.find? id).map (id, ·)) =
      ρ.on (Table.ofList (c.exported.filterMap fun id => (c.vars.find? id).map (id, ·))) := by
  have same : (ρ.on c).exported.filterMap (fun id => ((ρ.on c).vars.find? id).map (id, ·)) =
      (c.exported.filterMap fun id => (c.vars.find? id).map (id, ·)).map fun e => (e.1, ρ.on e.2) := by
    rw [List.map_filterMap]
    show c.exported.filterMap (fun id => ((c.vars.mapValues ρ.on).find? id).map (id, ·)) = _
    congr 1
    funext id
    rw [Table.find?_mapValues]
    cases c.vars.find? id <;> rfl
  rw [same]
  exact (Table.mapValues_insertAll ρ.on Table.empty _).symm

theorem sim_makeModule (hI : Aligned A I I') (t : Ref) (given : Table String Value) :
    A.Sim A.names.object (makeModule I t given) (makeModule I' t (A.names.on given)) := by
  refine sim_withFreshContext (.file t) given fun r hr => ?_
  refine .bind (sim_deeper 3 (hI.template (.file t) r hr)) fun body => (sim_context r).bind fun c => ?_
  dsimp only
  rw [exports_on]
  exact sim_alloc (.module ⟨c.name, _, body⟩)

theorem sim_keptModule? (t : Ref) : A.Sim (Option.map A.names.object) (keptModule? t) (keptModule? t) := by
  refine .read (fun w => w.modules.find? t) _ fun w w' h => ?_
  rw [(A.linked h).modules, Table.find?_mapValues]

theorem sim_defaultModule (hI : Aligned A I I') (t : Ref) :
    A.Sim A.names.object (defaultModule I t) (defaultModule I' t) := by
  refine (sim_keptModule? t).bind fun r => ?_
  cases r with
  | some r => exact .ret rfl
  | none => exact .bind (sim_makeModule hI t globals) fun r => .bind (A.write_module t r) fun _ => .ret rfl

theorem sim_renderTemplate (hI : Aligned A I I') (t : Script) (vars : Table String Value) :
    A.Same (renderTemplate I t vars) (renderTemplate I' t (A.names.on vars)) := by
  unfold renderTemplate
  rw [show globals.update (A.names.on vars) = A.names.on (globals.update vars) from
    (Table.mapValues_update A.names.on globals vars).symm]
  exact sim_withFreshContext t _ fun r hr => (hI.template t r hr).bind fun out => sim_joined out

theorem sim_renderSource [A.Complete] (hI : Aligned A I I') (name : String) (vars : Table String Value) (source : String) :
    A.Same (renderSource I name vars source) (renderSource I' name (A.names.on vars) source) :=
  (Complete.compile_text name source).of_quiet.bind fun c => sim_deeper 3 (sim_renderTemplate hI (.text c) vars)

end Agreement

end Stencil.Engine
