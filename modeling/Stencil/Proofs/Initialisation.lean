import Stencil.Proofs.Registration

/-!
# Initialisation

The first call to initialise the plugins of a registry connects all of them and then calls their hooks, heavier plugins
first. Plugins that are registered later are never initialised, and further calls do nothing.
-/

set_option autoImplicit false

namespace Stencil.Registry

/-! ## What plugins hold -/

theorem links_connectAll (r : Registry) (renderer : Renderer) (plugins : List Plugin) :
    (r.connectAll renderer plugins).links = r.links.insertAll (plugins.map fun p => (p.name, renderer)) := by
  induction plugins generalizing r with
  | nil => rfl
  | cons p rest ih => exact ih (r.connect renderer p)

theorem findEntries?_renderer (renderer : Renderer) (name : String) (plugins : List Plugin) :
    Table.findEntries? name (plugins.map fun p => (p.name, renderer)) =
      if name ∈ plugins.map Plugin.name then some renderer else none := by
  induction plugins with
  | nil => rfl
  | cons p rest ih =>
    by_cases same : p.name = name
    · simp [Table.findEntries?, same]
    · have behind : name ∈ (p :: rest).map Plugin.name ↔ name ∈ rest.map Plugin.name := by
        simp [Ne.symm same]
      rw [List.map_cons, Table.findEntries?_cons_of_ne _ same, ih]
      simp only [behind]

/-- A plugin that is connected holds the renderer; the others hold what they held. -/
theorem find?_connectAll (r : Registry) (renderer : Renderer) (plugins : List Plugin) (name : String) :
    (r.connectAll renderer plugins).links.find? name =
      if name ∈ plugins.map Plugin.name then some renderer else r.links.find? name := by
  rw [links_connectAll, Table.find?_insertAll, ← List.map_reverse, findEntries?_renderer]
  by_cases named : name ∈ plugins.map Plugin.name
  · simp [named]
  · have absent : name ∉ plugins.reverse.map Plugin.name := by
      simpa using named
    simp only [absent, named, if_false, Option.none_or]

/-! ## The order of the hooks -/

theorem initOrder_perm (r : Registry) : r.initOrder.Perm r.plugins := List.mergeSort_perm _ _

section Order

variable (r : Registry)

theorem heavier_trans (a b c : Plugin) (hab : decide (b.priority.weight ≤ a.priority.weight) = true)
    (hbc : decide (c.priority.weight ≤ b.priority.weight) = true) :
    decide (c.priority.weight ≤ a.priority.weight) = true := by
  simp only [decide_eq_true_eq] at *
  omega

theorem heavier_total (a b : Plugin) : (decide (b.priority.weight ≤ a.priority.weight) ||
    decide (a.priority.weight ≤ b.priority.weight)) = true := by
  simp only [Bool.or_eq_true, decide_eq_true_eq]
  omega

theorem pairwise_initOrder : r.initOrder.Pairwise fun a b => b.priority.weight ≤ a.priority.weight :=
  (List.pairwise_mergeSort heavier_trans heavier_total r.plugins).imp of_decide_eq_true

/-- Plugins of the same weight keep their order. -/
theorem filter_initOrder (n : Nat) : r.initOrder.filter (fun p => p.priority.weight = n) =
    r.plugins.filter fun p => p.priority.weight = n := by
  have alike : (r.plugins.filter fun p => p.priority.weight = n).Pairwise
      fun a b => decide (b.priority.weight ≤ a.priority.weight) = true := by
    refine List.Pairwise.imp_of_mem (R := fun _ _ => True) ?_ (List.pairwise_of_forall fun _ _ => trivial)
    intro a b ha hb _
    simp only [List.mem_filter, decide_eq_true_eq] at ha hb
    simp [ha.2, hb.2]
  have sublist := List.sublist_mergeSort heavier_trans heavier_total alike List.filter_sublist
  have filtered := sublist.filter fun p => p.priority.weight = n
  rw [List.filter_filter] at filtered
  simp only [Bool.and_self] at filtered
  exact (filtered.eq_of_length ((initOrder_perm r).filter _).length_eq.symm).symm

end Order

/-! ## Rows of calls -/

theorem replies_append (r : Registry) (a b : List Call) : r.replies (a ++ b) = r.replies a ++ (r.after a).replies b := by
  induction a generalizing r with
  | nil => rfl
  | cons c a ih => exact congrArg ((r.perform c).1 :: ·) (ih (r.perform c).2)

theorem initialized_register (r : Registry) (plugin : Plugin) :
    (r.perform (.register plugin)).2.initialized = r.initialized := by
  by_cases taken : plugin.name ∈ r.listPlugins
  · rw [(perform_refused ((refused_iff r plugin).mpr taken)).1]
  · have free : r.plugins.any (·.name == plugin.name) = false := by
      simpa [listPlugins, List.any_eq_false] using taken
    simp [perform, register?, free]

theorem hooks_register (r : Registry) (plugin : Plugin) : (r.perform (.register plugin)).1.hooks = [] := by
  rw [perform]
  cases r.register? plugin <;> rfl

theorem initialized_registered (r : Registry) (plugins : List Plugin) :
    (r.after (plugins.map .register)).initialized = r.initialized ∧
      (r.replies (plugins.map .register)).flatMap Reply.hooks = [] := by
  induction plugins generalizing r with
  | nil => exact ⟨rfl, rfl⟩
  | cons p rest ih =>
    obtain ⟨same, none⟩ := ih (r.perform (.register p)).2
    refine ⟨same.trans (initialized_register r p), ?_⟩
    rw [List.map_cons, replies, List.flatMap_cons, hooks_register, none]
    rfl

/-- To initialise once more does nothing. -/
theorem perform_startUp_again {r : Registry} (done : r.initialized = true) (renderer : Renderer) :
    r.perform (.startUp renderer) = ({}, r) := by
  simp [perform, hooks, startUp, done]

theorem initialized_startUp (r : Registry) (renderer : Renderer) : (r.startUp renderer).1.initialized = true := by
  unfold startUp
  split
  · assumption
  · rfl

theorem initialized_perform {r : Registry} (done : r.initialized = true) (c : Call) :
    (r.perform c).2.initialized = true ∧ (r.perform c).1.hooks = [] := by
  cases c with
  | register plugin => exact ⟨(initialized_register r plugin).trans done, hooks_register r plugin⟩
  | startUp renderer =>
    rw [perform_startUp_again done]
    exact ⟨done, rfl⟩

theorem initialized_after {r : Registry} (done : r.initialized = true) (calls : List Call) :
    (r.after calls).initialized = true ∧ (r.replies calls).flatMap Reply.hooks = [] := by
  induction calls generalizing r with
  | nil => exact ⟨done, rfl⟩
  | cons c rest ih =>
    obtain ⟨done', none⟩ := initialized_perform done c
    obtain ⟨last, others⟩ := ih done'
    refine ⟨last, ?_⟩
    rw [replies, List.flatMap_cons, none, others]
    rfl

/-- The hooks of a whole row of calls are those of the first initialisation. -/
theorem hooks_replies (r : Registry) (fresh : r.initialized = false) (before : List Plugin) (renderer : Renderer)
    (rest : List Call) : (r.replies (before.map .register ++ .startUp renderer :: rest)).flatMap Reply.hooks =
      (r.after (before.map .register)).initOrder.map fun p =>
        ⟨p, (r.after (before.map .register)).connectAll renderer (r.after (before.map .register)).initOrder⟩ := by
  obtain ⟨same, none⟩ := initialized_registered r before
  have later := (initialized_after (initialized_startUp (r.after (before.map .register)) renderer) rest).2
  rw [replies_append, List.flatMap_append, none, replies, List.flatMap_cons]
  simp only [perform, later, hooks, same, fresh]
  simp

end Stencil.Registry
