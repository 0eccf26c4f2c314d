import Stencil.Proofs.Caching
import Stencil.Proofs.Registration

/-!
# Lists of plugins

A processor is set up with the plugins that its configuration refers to. It has all of them, in the order of the list, or
the first reference that cannot be followed, or that leads to a plugin for the second time, says why there is none.
-/

set_option autoImplicit false

namespace Stencil.Processor

def Loads (references : List String) (plugins : List Plugin) : Prop :=
  references.map loadPlugin = plugins.map Except.ok

theorem Loads.cons {reference : String} {plugin : Plugin} {rest : List String} {plugins : List Plugin}
    (loaded : loadPlugin reference = .ok plugin) (h : Loads rest plugins) :
    Loads (reference :: rest) (plugin :: plugins) := by
  rw [Loads, List.map_cons, List.map_cons, loaded, h]

inductive Stops (taken : List String) (reference : String) : Failure → Prop
  | broken {f : Failure} (failed : loadPlugin reference = .error f) : Stops taken reference f
  | twice {plugin : Plugin} (loaded : loadPlugin reference = .ok plugin) (seen : plugin.name ∈ taken) :
    Stops taken reference (.pluginTwice plugin.name)

inductive Leads (taken references : List String) : Except Failure (List String) → Prop
  | all {plugins : List Plugin} (loads : Loads references plugins)
    (distinct : (taken ++ plugins.map Plugin.name).Nodup) : Leads taken references (.ok (taken ++ plugins.map Plugin.name))
  | stopped {before after : List String} {reference : String} {plugins : List Plugin} {f : Failure}
    (split : references = before ++ reference :: after) (loads : Loads before plugins)
    (distinct : (taken ++ plugins.map Plugin.name).Nodup)
    (stops : Stops (taken ++ plugins.map Plugin.name) reference f) : Leads taken references (.error f)

theorem Leads.cons {taken rest : List String} {reference : String} {plugin : Plugin} {r : Except Failure (List String)}
    (loaded : loadPlugin reference = .ok plugin) (h : Leads (taken ++ [plugin.name]) rest r) :
    Leads taken (reference :: rest) r := by
  have names (plugins : List Plugin) : taken ++ [plugin.name] ++ plugins.map Plugin.name =
      taken ++ (plugin :: plugins).map Plugin.name := by simp
  cases h with
  | all loads distinct =>
    rw [names] at distinct ⊢
    exact .all (loads.cons loaded) distinct
  | stopped split loads distinct stops =>
    rw [names] at distinct stops
    exact .stopped (congrArg (reference :: ·) split) (loads.cons loaded) distinct stops

theorem Leads.here {taken rest : List String} {reference : String} {f : Failure} (distinct : taken.Nodup)
    (stops : Stops taken reference f) : Leads taken (reference :: rest) (.error f) := by
  rw [← List.append_nil taken] at distinct stops
  exact @stopped taken _ [] rest reference [] f rfl rfl distinct stops

theorem register_cases (p : Processor) (plugin : Plugin) :
    (plugin.name ∈ p.listPlugins ∧ p.register plugin = .error (.pluginTwice plugin.name)) ∨
      plugin.name ∉ p.listPlugins ∧
        ∃ q, p.register plugin = .ok q ∧ q.listPlugins = p.listPlugins ++ [plugin.name] := by
  by_cases taken : plugin.name ∈ p.world.registry.listPlugins
  · exact .inl ⟨taken, (p.register_eq_error plugin).mpr taken⟩
  · obtain ⟨q, registered, registry⟩ := (p.register_eq_ok plugin).mpr taken
    have new : p.world.registry.plugins.any (·.name == plugin.name) = false := by
      simpa [Registry.listPlugins] using taken
    refine .inr ⟨taken, q, registered, ?_⟩
    rw [listPlugins, registry, Registry.perform, Registry.register?, new]
    simp [Registry.listPlugins, listPlugins]

/-- Registering a list leads where its references lead. -/
theorem leads_registerAll (p : Processor) (references : List String) (distinct : p.listPlugins.Nodup) :
    Leads p.listPlugins references ((p.registerAll references).1.map fun _ => (p.registerAll references).2.listPlugins) := by
  induction references generalizing p with
  | nil =>
    have none : Leads p.listPlugins [] (.ok (p.listPlugins ++ [].map Plugin.name)) := .all rfl (by simpa using distinct)
    simpa [registerAll, Except.map] using none
  | cons reference rest ih =>
    unfold registerAll
    cases loaded : loadPlugin reference with
    | error f => exact .here distinct (.broken loaded)
    | ok plugin =>
      simp only [Except.bind]
      rcases p.register_cases plugin with ⟨taken, refused⟩ | ⟨new, q, registered, listed⟩
      · rw [refused]
        exact .here distinct (.twice loaded taken)
      · rw [registered]
        refine .cons loaded ?_
        rw [← listed]
        refine ih q ?_
        rw [listed]
        refine List.nodup_append.mpr ⟨distinct, by simp, fun name old other same => ?_⟩
        rintro rfl
        exact new (List.mem_singleton.mp same ▸ old)

theorem listPlugins_startUp (p : Processor) : p.startUp.listPlugins = p.listPlugins := by
  show (p.world.registry.startUp .own).1.plugins.map Plugin.name = p.world.registry.plugins.map Plugin.name
  unfold Registry.startUp
  split
  · rfl
  · exact congrArg (List.map Plugin.name) (Registry.plugins_connectAll ..)

/-- Creating a processor leads where the list of its configuration leads. -/
theorem leads_create {c : Config} {files : FileTree} {root folder : Option Path}
    (resolved : folderFor files.cwd c root = .ok folder) :
    Leads [] c.plugins ((create c files root).map listPlugins) := by
  obtain ⟨b, made, empty⟩ : ∃ b, bare c files root = .ok b ∧ b.listPlugins = [] := by
    rw [bare, resolved]
    exact ⟨_, rfl, rfl⟩
  have leads := leads_registerAll b c.plugins (empty ▸ List.nodup_nil)
  rw [empty] at leads
  unfold create setUp
  rw [made]
  simp only [bind, Except.bind]
  rcases registered : b.registerAll c.plugins with ⟨f | _, q⟩
  · rw [registered] at leads
    exact leads
  · rw [registered] at leads
    rw [← listPlugins_startUp q] at leads
    exact leads

def Usable (reference : String) : Prop :=
  Catalogue.load reference ≠ .error .relative ∧ Catalogue.load reference ≠ .error .outline

theorem processing_of_usable {reference : String} {f : Failure} (usable : Usable reference)
    (failed : loadPlugin reference = .error f) : ∃ g, f = .processing g := by
  unfold loadPlugin at failed
  obtain ⟨absolute, whole⟩ := usable
  cases loaded : Catalogue.load reference with
  | ok l =>
    rw [loaded] at failed
    cases failed
  | error g =>
    rw [loaded] at failed absolute whole
    cases failed
    cases g with
    | outline => exact absurd rfl whole
    | relative => exact absurd rfl absolute
    | unknown _ | missing _ _ _ | notAPlugin _ => exact ⟨_, rfl⟩

/-- A list of usable references gives a processor with the plugins under their names in the order of the list, or it is
refused: with a sentence at the first reference that cannot be followed, or as a repetition at the first one that leads
to a name that is taken by then. -/
theorem create_lists_plugins_or_refuses {c : Config} {files : FileTree} {root folder : Option Path}
    (resolved : folderFor files.cwd c root = .ok folder) (usable : ∀ reference ∈ c.plugins, Usable reference) :
    (∃ p plugins, create c files root = .ok p ∧ Loads c.plugins plugins ∧ (plugins.map Plugin.name).Nodup ∧
      p.listPlugins = plugins.map Plugin.name) ∨
    ∃ before reference after plugins, c.plugins = before ++ reference :: after ∧ Loads before plugins ∧
      (plugins.map Plugin.name).Nodup ∧
      ((∃ f, loadPlugin reference = .error (.processing f) ∧ create c files root = .error (.processing f)) ∨
        ∃ plugin, loadPlugin reference = .ok plugin ∧ plugin.name ∈ plugins.map Plugin.name ∧
          create c files root = .error (.pluginTwice plugin.name)) := by
  have leads := leads_create resolved
  cases created : create c files root with
  | ok p =>
    rw [created] at leads
    generalize listed : p.listPlugins = names at leads
    simp only [Except.map, listed] at leads
    cases leads with
    | all loads distinct => exact .inl ⟨p, _, rfl, loads, distinct, listed⟩
  | error f =>
    rw [created] at leads
    simp only [Except.map] at leads
    cases leads with
    | stopped split loads distinct stops =>
      refine .inr ⟨_, _, _, _, split, loads, distinct, ?_⟩
      cases stops with
      | broken failed =>
        obtain ⟨g, rfl⟩ := processing_of_usable (usable _ (split ▸ by simp)) failed
        exact .inl ⟨g, failed, rfl⟩
      | twice loaded seen => exact .inr ⟨_, loaded, seen, rfl⟩

theorem create_lists_both : ∃ p plugins,
    create { plugins := ["tests.infrastructure.plugins:UpperPlugin", "render_block"] } {} none = .ok p ∧
      Loads ["tests.infrastructure.plugins:UpperPlugin", "render_block"] plugins ∧ (plugins.map Plugin.name).Nodup ∧
      p.listPlugins = plugins.map Plugin.name := by
  have usable : ∀ reference ∈ ["tests.infrastructure.plugins:UpperPlugin", "render_block"], Usable reference := by
    simp only [List.mem_cons, List.not_mem_nil, or_false]
    rintro _ (rfl | rfl)
    · exact ⟨fun h => (by cases h), fun h => (by cases h)⟩
    · exact ⟨fun h => (by cases h), fun h => (by cases h)⟩
  refine (create_lists_plugins_or_refuses (c := { plugins := _ }) rfl usable).resolve_right ?_
  rintro ⟨_, _, _, _, -, -, -, ⟨f, -, failed⟩ | ⟨plugin, -, -, failed⟩⟩
  · cases failed
  · cases failed

/-- A plugin that is listed twice is refused, and not with a sentence for the user. -/
theorem create_refuses_repetition :
    create { plugins := ["render_block", "render_block"] } {} none = .error (.pluginTwice "render_block") := by
  rfl

end Stencil.Processor
