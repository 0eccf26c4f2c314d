import Stencil.Proofs.Faults
import Stencil.Proofs.Setup

/-!
# Plugins and their renderer

A plugin that renders asks for the renderer it holds, which it was given if it was registered when plugins were first
initialised. On a processor that was created with its plugins all of them hold it.
-/

set_option autoImplicit false

namespace Stencil

namespace Registry

theorem links_register (r : Registry) (plugin : Plugin) : (r.perform (.register plugin)).2.links = r.links := by
  by_cases taken : plugin.name ∈ r.listPlugins
  · rw [(perform_refused ((refused_iff r plugin).mpr taken)).1]
  · have free : r.plugins.any (·.name == plugin.name) = false := by
      simpa [listPlugins, List.any_eq_false] using taken
    simp [perform, register?, free]

theorem links_registered (r : Registry) (plugins : List Plugin) : (r.after (plugins.map .register)).links = r.links := by
  induction plugins generalizing r with
  | nil => rfl
  | cons p rest ih => exact (ih _).trans (links_register r p)

/-- Once plugins are initialised no more of them are connected. -/
theorem links_after {r : Registry} (done : r.initialized = true) (calls : List Call) : (r.after calls).links = r.links := by
  induction calls generalizing r with
  | nil => rfl
  | cons c rest ih =>
    have first : (r.perform c).2.links = r.links := by
      cases c with
      | register plugin => exact links_register r plugin
      | startUp renderer => rw [perform_startUp_again done]
    exact (ih (initialized_perform done c).1).trans first

def started (r : Registry) : List Call → List String
  | [] => []
  | .startUp _ :: _ => r.listPlugins
  | .register plugin :: rest => (r.perform (.register plugin)).2.started rest

theorem mem_connected_startUp {r : Registry} (fresh : r.initialized = false) (unlinked : r.links = {}) (renderer : Renderer)
    (name : String) : name ∈ (r.startUp renderer).1.connected ↔ name ∈ r.listPlugins := by
  have same : name ∈ r.initOrder.map Plugin.name ↔ name ∈ r.listPlugins := ((initOrder_perm r).map Plugin.name).mem_iff
  have links : (r.startUp renderer).1.links = (r.connectAll renderer r.initOrder).links := by
    unfold startUp
    rw [fresh]
    rfl
  rw [connected, Table.mem_keys_iff_has, Table.has, links, find?_connectAll, unlinked, ← same]
  by_cases listed : name ∈ r.initOrder.map Plugin.name
  · rw [if_pos listed]
    exact iff_of_true rfl listed
  · rw [if_neg listed]
    exact iff_of_false Bool.false_ne_true listed

/-- The plugins that are connected after a row of calls are those that were registered when it was first initialised. -/
theorem mem_connected_after {r : Registry} (fresh : r.initialized = false) (unlinked : r.links = {}) (calls : List Call)
    (name : String) : name ∈ (r.after calls).connected ↔ name ∈ r.started calls := by
  induction calls generalizing r with
  | nil => simp [after, connected, started, unlinked, Table.keys]
  | cons c rest ih =>
    cases c with
    | register plugin => exact ih ((initialized_register r plugin).trans fresh) ((links_register r plugin).trans unlinked)
    | startUp renderer =>
      have kept : (r.after (.startUp renderer :: rest)).links = (r.startUp renderer).1.links :=
        links_after (initialized_startUp r renderer) rest
      rw [connected, kept]
      exact mem_connected_startUp fresh unlinked renderer name

/-- Every tag belongs to one of the plugins. -/
theorem owner_of_getTag? {r : Registry} {done : List Plugin} (h : r.Holds done) {id : String} {tag : Tag}
    (found : r.getTag? id = some tag) : tag.owner ∈ r.listPlugins := by
  rw [h.tells.last] at found
  have brought := List.mem_of_mem_filter (List.mem_of_getLast? found)
  obtain ⟨plugin, installed, own⟩ := List.mem_flatMap.mp brought
  obtain ⟨t, -, rfl⟩ := List.mem_map.mp own
  rw [listPlugins, h.plugins]
  exact List.mem_map_of_mem installed

def AllConnected (r : Registry) : Prop := ∀ {id : String} {tag : Tag}, r.getTag? id = some tag → tag.owner ∈ r.connected

theorem allConnected_startUp {r : Registry} {done : List Plugin} (h : r.Holds done) (fresh : r.initialized = false)
    (unlinked : r.links = {}) (renderer : Renderer) : (r.startUp renderer).1.AllConnected := by
  intro id tag found
  have started := h.startUp renderer
  have same : (r.startUp renderer).1.listPlugins = r.listPlugins := by
    rw [listPlugins, listPlugins, started.plugins, h.plugins]
  rw [mem_connected_startUp fresh unlinked, ← same]
  exact owner_of_getTag? started found

end Registry

namespace Engine

def dispatching (r : Registry) : Invariant :=
  .everywhere (·.registry = r) (fun tag => ∃ id, r.getTag? id = some tag) (fun x => x = .unconnected → ¬r.AllConnected)
    (by
      rintro x plain rfl
      cases plain)
    (by
      intro w w' change h
      cases change <;> exact h)

theorem Fault.ofFlaw_ne_unconnected (flaw : Template.Flaw) (name file : Option String) :
    Fault.ofFlaw flaw name file ≠ .unconnected := by
  unfold Fault.ofFlaw
  split <;> nofun

instance (r : Registry) : (dispatching r).Complete where
  found_tag := by
    rintro w id tag rfl found
    exact ⟨id, found⟩
  unconnected := by
    rintro w tag rfl ⟨id, found⟩ absent - all
    rw [List.contains_iff_mem.mpr (all found)] at absent
    cases absent
  uncompiled := by
    rintro settings tags name file source x failed rfl
    rcases compiledText_eq_error failed with plain | ⟨flaw, same⟩
    · cases plain
    · exact absurd same.symm (Fault.ofFlaw_ne_unconnected flaw name file)

end Engine

namespace Processor

open Engine

/-! ## Rows of uses -/

def Use.call? : Use → Option Registry.Call
  | .register plugin => some (.register plugin)
  | .startUp => some (.startUp .own)
  | _ => none

def started (p : Processor) : List Use → List String
  | [] => []
  | .startUp :: _ => p.listPlugins
  | u :: rest => (p.use u).2.started rest

section Exec

variable {p : Processor} {r : Registry} {e : Eval String} {wrap : Engine.Fault → Failure}

theorem registry_exec (he : (dispatching p.world.registry).agreement.Same e e) :
    (p.exec wrap e).2.world.registry = p.world.registry := by
  rw [outcome_exec]
  exact Invariant.after he.follows (w := { p.world with depth := 0 }) rfl

/-- A run in which all tags belong to connected plugins does not end for want of a renderer. -/
theorem exec_connected (he : (dispatching p.world.registry).agreement.Same e e) (all : p.world.registry.AllConnected)
    (tells : ∀ x, wrap x = .template .unconnected → x = .unconnected) :
    (p.exec wrap e).1 ≠ .error (.template .unconnected) := by
  rw [outcome_exec]
  intro failed
  cases ends : (outcome e { p.world with depth := 0 }).1 with
  | ok a =>
    rw [ends] at failed
    cases failed
  | error x =>
    rw [ends] at failed
    obtain rfl := tells x (Except.error.inj failed)
    exact Invariant.raised_of_error he (w := { p.world with depth := 0 }) rfl ends rfl all

end Exec

theorem wrapFault_eq_unconnected (name reason : String) (x : Engine.Fault)
    (h : wrapFault name reason x = .template .unconnected) : x = .unconnected := by
  unfold wrapFault at h
  split at h
  · cases h
  · cases h
  · exact Failure.template.inj h

theorem registry_use (p : Processor) (u : Use) :
    (p.use u).2.world.registry = p.world.registry.after u.call?.toList := by
  cases u with
  | text name vars source => exact registry_exec (Agreement.sim_sourceText name vars source)
  | file name vars =>
    show (p.renderFile name vars).2.world.registry = _
    unfold renderFile
    cases p.world.settings.folder with
    | none => rfl
    | some folder => exact registry_exec (Agreement.sim_fileText name vars)
  | register plugin =>
    show (p.registered plugin).world.registry = (p.world.registry.perform (.register plugin)).2
    unfold registered register
    rw [Registry.perform]
    cases p.world.registry.register? plugin <;> rfl
  | startUp => rfl

theorem started_eq (p : Processor) (uses : List Use) :
    p.started uses = p.world.registry.started (uses.filterMap Use.call?) := by
  induction uses generalizing p with
  | nil => rfl
  | cons u rest ih =>
    have next := registry_use p u
    cases u with
    | startUp => rfl
    | register plugin =>
      show (p.use (.register plugin)).2.started rest = _
      rw [ih, next]
      rfl
    | text name vars source =>
      show (p.use (.text name vars source)).2.started rest = _
      rw [ih, next]
      rfl
    | file name vars =>
      show (p.use (.file name vars)).2.started rest = _
      rw [ih, next]
      rfl

theorem registry_after (p : Processor) (uses : List Use) :
    (p.after uses).world.registry = p.world.registry.after (uses.filterMap Use.call?) := by
  induction uses generalizing p with
  | nil => rfl
  | cons u rest ih =>
    show ((p.use u).2.after rest).world.registry = _
    rw [ih, registry_use]
    cases u <;> rfl

/-- After a row of uses the plugins that hold a renderer are those that were registered at the first initialisation. -/
theorem mem_connected_after {c : Config} {files : FileTree} {root : Option Path} {p : Processor}
    (made : bare c files root = .ok p) (uses : List Use) (name : String) :
    name ∈ (p.after uses).world.registry.connected ↔ name ∈ p.started uses := by
  obtain ⟨folder, world⟩ := world_bare made
  rw [registry_after, started_eq, world]
  exact Registry.mem_connected_after rfl rfl _ name

/-! ## Processors that are created -/

def Use.registers : Use → Bool
  | .register _ => true
  | _ => false

/-- Once plugins are initialised the registry changes only if one is added. -/
theorem registry_use_of_initialized {p : Processor} (done : p.world.registry.initialized = true) {u : Use}
    (adds : u.registers = false) : (p.use u).2.world.registry = p.world.registry := by
  rw [registry_use]
  cases u with
  | register plugin => cases adds
  | startUp => exact congrArg Prod.snd (Registry.perform_startUp_again done .own)
  | text name vars source => rfl
  | file name vars => rfl

theorem registry_after_of_initialized {p : Processor} (done : p.world.registry.initialized = true) {uses : List Use}
    (adds : ∀ u ∈ uses, u.registers = false) : (p.after uses).world.registry = p.world.registry := by
  induction uses generalizing p with
  | nil => rfl
  | cons u rest ih =>
    have first := registry_use_of_initialized done (adds u List.mem_cons_self)
    refine (ih ?_ fun u hu => adds u (List.mem_cons_of_mem _ hu)).trans first
    rw [first]
    exact done

theorem use_connected {p : Processor} (all : p.world.registry.AllConnected) (u : Use) :
    (p.use u).1 ≠ some (.error (.template .unconnected)) := by
  intro answered
  cases u with
  | text name vars source =>
    exact exec_connected (Agreement.sim_sourceText name vars source) all (wrapFault_eq_unconnected _ _)
      (Option.some.inj answered)
  | file name vars =>
    have failed : (p.renderFile name vars).1 = .error (.template .unconnected) := Option.some.inj answered
    unfold renderFile at failed
    cases folder : p.world.settings.folder with
    | none =>
      rw [folder] at failed
      cases failed
    | some place =>
      rw [folder] at failed
      exact exec_connected (Agreement.sim_fileText name vars) all (wrapFault_eq_unconnected _ _) failed
  | register plugin => cases answered
  | startUp => cases answered

theorem answers_connected {p : Processor} (done : p.world.registry.initialized = true)
    (all : p.world.registry.AllConnected) {uses : List Use} (adds : ∀ u ∈ uses, u.registers = false) :
    .error (.template .unconnected) ∉ p.answers uses := by
  induction uses generalizing p with
  | nil => simp [answers]
  | cons u rest ih =>
    have first := registry_use_of_initialized done (adds u List.mem_cons_self)
    have later : .error (.template .unconnected) ∉ (p.use u).2.answers rest := by
      refine ih ?_ ?_ fun u hu => adds u (List.mem_cons_of_mem _ hu)
      · rw [first]
        exact done
      · rw [first]
        exact all
    rw [answers, List.mem_append]
    rintro (now | after)
    · exact use_connected all u (Option.mem_toList.mp now)
    · exact later after

theorem after_of_registerAll {p q : Processor} {references : List String}
    (h : p.registerAll references = (.ok (), q)) : ∃ plugins : List Plugin, q = p.after (plugins.map .register) := by
  induction references generalizing p with
  | nil =>
    cases h
    exact ⟨[], rfl⟩
  | cons reference rest ih =>
    rw [registerAll] at h
    cases added : (loadPlugin reference).bind p.register with
    | error f =>
      rw [added] at h
      cases h
    | ok next =>
      rw [added] at h
      obtain ⟨plugins, rfl⟩ := ih h
      cases loaded : loadPlugin reference with
      | error f =>
        rw [loaded] at added
        cases added
      | ok plugin =>
        rw [loaded] at added
        have same : p.registered plugin = next := by
          unfold registered
          rw [show p.register plugin = .ok next from added]
        refine ⟨plugin :: plugins, ?_⟩
        show _ = (p.registered plugin).after _
        rw [same]

/-- A processor is created by registering its plugins and initialising them. -/
theorem after_of_create {c : Config} {files : FileTree} {root : Option Path} {p : Processor}
    (created : create c files root = .ok p) : ∃ b, ∃ plugins : List Plugin,
      bare c files root = .ok b ∧ p = (b.after (plugins.map .register)).startUp := by
  obtain ⟨b, q, made, registered, rfl⟩ := registerAll_of_create created
  obtain ⟨plugins, rfl⟩ := after_of_registerAll registered
  exact ⟨b, plugins, made, rfl⟩

theorem allConnected_of_create {c : Config} {files : FileTree} {root : Option Path} {p : Processor}
    (created : create c files root = .ok p) : p.world.registry.initialized = true ∧ p.world.registry.AllConnected := by
  obtain ⟨b, plugins, made, rfl⟩ := after_of_create created
  obtain ⟨folder, world⟩ := world_bare made
  have calls : (plugins.map Use.register).filterMap Use.call? = plugins.map .register := by
    rw [List.filterMap_map]
    exact congrFun List.filterMap_eq_map plugins
  have registry : (b.after (plugins.map .register)).world.registry = ({} : Registry).after (plugins.map .register) := by
    rw [registry_after, calls, world]
  have fresh := (Registry.initialized_registered {} plugins).1
  have unlinked := Registry.links_registered {} plugins
  have holds := (Registry.holds_empty.after (plugins.map .register)).1
  show ((b.after (plugins.map .register)).world.registry.startUp .own).1.initialized = true ∧
    ((b.after (plugins.map .register)).world.registry.startUp .own).1.AllConnected
  rw [registry]
  exact ⟨Registry.initialized_startUp _ _, Registry.allConnected_startUp holds fresh unlinked .own⟩

/-! ## Blocks that ask for the renderer -/

def lateUses : List Use := [.startUp, .register Catalogue.renderBlock]

end Processor

end Stencil
