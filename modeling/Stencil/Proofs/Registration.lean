import Mathlib.Data.List.Induction
import Stencil.Processor
import Stencil.Proofs.Tables

/-!
# Registration

A registry keeps its plugins in a row and their tags in a table. Whatever is done with it, the table is the one that the
tags of the registered plugins give when they are written one after the other, and a registration that is refused leaves
no trace.
-/

set_option autoImplicit false

namespace Stencil

def Tag.entry (t : Tag) : String × Tag := (t.name, t)

def broughtTags (plugins : List Plugin) : List Tag := plugins.flatMap Plugin.ownTags

theorem broughtTags_append (a b : List Plugin) : broughtTags (a ++ b) = broughtTags a ++ broughtTags b :=
  List.flatMap_append

namespace Table

/-! ## Tables of named tags -/

def ofTags (tags : List Tag) : Table String Tag := .ofList (tags.map Tag.entry)

theorem insert_ofTags (tags : List Tag) (t : Tag) : (ofTags tags).insert t.name t = ofTags (tags ++ [t]) := by
  simp [ofTags, ofList, insertAll, Tag.entry]

theorem findEntries?_tags (name : String) (tags : List Tag) :
    findEntries? name (tags.map Tag.entry) = tags.find? (·.name == name) := by
  induction tags with
  | nil => rfl
  | cons t tags ih =>
    rw [List.map_cons, Tag.entry, findEntries?, List.find?_cons, ih]
    cases t.name == name <;> rfl

theorem find?_ofTags (name : String) (tags : List Tag) :
    (ofTags tags).find? name = (tags.filter (·.name == name)).getLast? := by
  rw [ofTags, find?_ofList, ← List.map_reverse, findEntries?_tags, List.getLast?_filter]

theorem find?_ofTags_eq_none (name : String) (tags : List Tag) :
    (ofTags tags).find? name = none ↔ ∀ t ∈ tags, t.name ≠ name := by
  rw [find?_ofTags, List.getLast?_eq_none_iff, List.filter_eq_nil_iff]
  simp

theorem has_ofTags (name : String) (tags : List Tag) : (ofTags tags).has name = true ↔ name ∈ tags.map Tag.name := by
  rw [has, Option.isSome_iff_ne_none, ne_eq, find?_ofTags_eq_none, List.mem_map]
  push Not
  rfl

theorem mem_keys_iff_has {κ υ : Type} [BEq κ] [LawfulBEq κ] (t : Table κ υ) (key : κ) :
    key ∈ t.keys ↔ t.has key = true := by
  obtain ⟨es⟩ := t
  show key ∈ es.map Prod.fst ↔ (findEntries? key es).isSome = true
  induction es with
  | nil => simp [findEntries?]
  | cons e es ih =>
    by_cases same : e.1 = key
    · simp [findEntries?_cons_self es same, same]
    · rw [findEntries?_cons_of_ne es same, ← ih, List.map_cons, List.mem_cons]
      simp [Ne.symm same]

theorem nodup_keys_ofTags (tags : List Tag) : (ofTags tags).keys.Nodup :=
  nodup_keys_insertAll (t := .empty) List.nodup_nil _

theorem keyed_insert {t : Table String Tag} (keyed : ∀ e ∈ t.entries, e.1 = e.2.name) (tag : Tag) :
    ∀ e ∈ (t.insert tag.name tag).entries, e.1 = e.2.name := by
  obtain ⟨es⟩ := t
  show ∀ e ∈ insertEntries tag.name tag es, e.1 = e.2.name
  change ∀ e ∈ es, e.1 = e.2.name at keyed
  induction es with
  | nil => simp [insertEntries]
  | cons f es ih =>
    have behind := ih fun e he => keyed e (List.mem_cons_of_mem _ he)
    have first := keyed f List.mem_cons_self
    intro e he
    rw [insertEntries] at he
    split at he
    · next same =>
      rcases List.mem_cons.mp he with rfl | he
      · exact beq_iff_eq.mp same
      · exact keyed e (List.mem_cons_of_mem _ he)
    · rcases List.mem_cons.mp he with rfl | he
      · exact first
      · exact behind e he

theorem keyed_ofTags (tags : List Tag) : ∀ e ∈ (ofTags tags).entries, e.1 = e.2.name := by
  induction tags using List.reverseRecOn with
  | nil => simp [ofTags, ofList, insertAll, empty]
  | append_singleton tags t ih =>
    rw [← insert_ofTags]
    exact keyed_insert ih t

end Table

namespace Registry

/-! ## Tags that take the place of others -/

def overriding (earlier : List Tag) : List Tag → List Tag
  | [] => []
  | t :: rest => (if t.name ∈ earlier.map Tag.name then [t] else []) ++ overriding (earlier ++ [t]) rest

theorem overriding_append (earlier a b : List Tag) :
    overriding earlier (a ++ b) = overriding earlier a ++ overriding (earlier ++ a) b := by
  induction a generalizing earlier with
  | nil => simp [overriding]
  | cons t a ih => simp [overriding, ih]

/-- Tags are added to the table, and each that takes the place of another is reported once. -/
theorem addTags_ofTags (earlier tags : List Tag) :
    addTags (.ofTags earlier) tags = (.ofTags (earlier ++ tags), (overriding earlier tags).map overrideWarning) := by
  induction tags generalizing earlier with
  | nil => simp [addTags, overriding]
  | cons t rest ih =>
    have next := ih (earlier ++ [t])
    rw [addTags, Table.insert_ofTags, next, overriding, List.map_append, List.append_assoc, List.singleton_append]
    by_cases taken : t.name ∈ earlier.map Tag.name
    · simp [taken, (Table.has_ofTags t.name earlier).mpr taken]
    · have free : (Table.ofTags earlier).has t.name = false := by
        simpa using mt (Table.has_ofTags t.name earlier).mp taken
      simp [taken, free]

/-! ## Rows of calls -/

inductive Call where
  | register (plugin : Plugin)
  | startUp (renderer : Renderer)

def Call.plugin? : Call → Option Plugin
  | .register plugin => some plugin
  | .startUp _ => none

structure Reply where
  refused : Bool := false
  log : List LogLine := []
  hooks : List Hook := []

def Reply.warnings (a : Reply) : List LogLine := a.log.filter (·.level == .warning)

def perform (r : Registry) : Call → Reply × Registry
  | .register plugin =>
    match r.register? plugin with
    | some (registered, log) => ({ log }, registered)
    | none => ({ refused := true }, r)
  | .startUp renderer => ({ hooks := r.hooks renderer }, (r.startUp renderer).1)

def after (r : Registry) (calls : List Call) : Registry := calls.foldl (fun r c => (r.perform c).2) r

def replies (r : Registry) : List Call → List Reply
  | [] => []
  | c :: rest => (r.perform c).1 :: (r.perform c).2.replies rest

def accepted (r : Registry) (calls : List Call) : List Plugin :=
  (calls.zip (r.replies calls)).filterMap fun e => if e.2.refused then none else e.1.plugin?

theorem after_append (r : Registry) (a b : List Call) : r.after (a ++ b) = (r.after a).after b := List.foldl_append

def added (r : Registry) (c : Call) : List Plugin := if (r.perform c).1.refused then [] else c.plugin?.toList

theorem accepted_cons (r : Registry) (c : Call) (rest : List Call) :
    r.accepted (c :: rest) = r.added c ++ (r.perform c).2.accepted rest := by
  unfold accepted added
  rw [replies, List.zip_cons_cons, List.filterMap_cons]
  cases (r.perform c).1.refused
  · cases c.plugin? <;> rfl
  · rfl

theorem register?_eq_none (r : Registry) (plugin : Plugin) :
    r.register? plugin = none ↔ plugin.name ∈ r.listPlugins := by
  unfold register? listPlugins
  split
  · next taken => simpa [List.any_eq_true] using taken
  · next free => simpa [List.any_eq_true] using free

theorem refused_iff (r : Registry) (plugin : Plugin) :
    (r.perform (.register plugin)).1.refused = true ↔ plugin.name ∈ r.listPlugins := by
  rw [← register?_eq_none, perform]
  cases r.register? plugin <;> simp

theorem perform_refused {r : Registry} {c : Call} (h : (r.perform c).1.refused = true) :
    (r.perform c).2 = r ∧ (r.perform c).1.log = [] := by
  cases c with
  | register plugin =>
    rw [perform] at h ⊢
    cases found : r.register? plugin with
    | none => exact ⟨rfl, rfl⟩
    | some result =>
      rw [found] at h
      cases h
  | startUp renderer => cases h

structure Holds (r : Registry) (done : List Plugin) : Prop where
  plugins : r.plugins = done
  distinct : (done.map Plugin.name).Nodup
  tags : r.tags = .ofTags (broughtTags done)

theorem holds_empty : ({} : Registry).Holds [] := ⟨rfl, List.nodup_nil, rfl⟩

theorem Holds.startUp {r : Registry} {done : List Plugin} (h : r.Holds done) (renderer : Renderer) :
    (r.startUp renderer).1.Holds done := by
  unfold Registry.startUp
  split
  · exact h
  · exact ⟨by simpa using h.plugins, h.distinct, by simpa using h.tags⟩

/-- One call keeps them together, and reports the tags that it overrides. -/
theorem Holds.perform {r : Registry} {done : List Plugin} (h : r.Holds done) (c : Call) :
    (r.perform c).2.Holds (done ++ r.added c) ∧
      (r.perform c).1.warnings = (overriding (broughtTags done) (broughtTags (r.added c))).map overrideWarning := by
  cases c with
  | startUp renderer => exact ⟨by simpa [added, Call.plugin?, Registry.perform] using h.startUp renderer, rfl⟩
  | register plugin =>
    by_cases taken : plugin.name ∈ r.listPlugins
    · have refused := (refused_iff r plugin).mpr taken
      have kept := perform_refused refused
      have none : r.added (.register plugin) = [] := by simp [added, refused]
      rw [none, kept.1, Reply.warnings, kept.2, List.append_nil]
      exact ⟨h, rfl⟩
    · have free : r.plugins.any (·.name == plugin.name) = false := by
        simpa [listPlugins, List.any_eq_false] using taken
      have registered : r.register? plugin = some ({ r with
          plugins := r.plugins ++ [plugin], tags := .ofTags (broughtTags done ++ plugin.ownTags) },
          (overriding (broughtTags done) plugin.ownTags).map overrideWarning ++
            [⟨.debug, "Registered plugin '" ++ plugin.name ++ "'"⟩]) := by
        unfold register?
        rw [free, h.tags, addTags_ofTags]
        rfl
      have one : r.added (.register plugin) = [plugin] := by
        have accepts : (r.perform (.register plugin)).1.refused = false := by
          simpa using mt (refused_iff r plugin).mp taken
        simp [added, accepts, Call.plugin?]
      have own : broughtTags [plugin] = plugin.ownTags := List.flatMap_singleton ..
      have warns (ts : List Tag) : (ts.map overrideWarning).filter (·.level == .warning) = ts.map overrideWarning := by
        simp [List.filter_map, Function.comp_def, overrideWarning]
      rw [one, own, Registry.perform, registered]
      refine ⟨⟨?_, ?_, ?_⟩, ?_⟩
      · exact congrArg (· ++ [plugin]) h.plugins
      · have fresh : plugin.name ∉ done.map Plugin.name := by
          rw [← h.plugins]
          exact taken
        rw [List.map_append, List.nodup_append]
        refine ⟨h.distinct, by simp, ?_⟩
        rintro a ha b hb rfl
        rw [List.map_singleton, List.mem_singleton] at hb
        exact fresh (hb ▸ ha)
      · rw [broughtTags_append, own]
      · simp only [Reply.warnings, List.filter_append, warns]
        simp

/-- A whole row of calls keeps them together. -/
theorem Holds.after {r : Registry} {done : List Plugin} (h : r.Holds done) (calls : List Call) :
    (r.after calls).Holds (done ++ r.accepted calls) ∧
      (r.replies calls).flatMap Reply.warnings =
        (overriding (broughtTags done) (broughtTags (r.accepted calls))).map overrideWarning := by
  induction calls generalizing r done with
  | nil => exact ⟨by simpa [Registry.after, accepted, replies] using h, rfl⟩
  | cons c rest ih =>
    obtain ⟨holds, first⟩ := h.perform c
    obtain ⟨holds', others⟩ := ih holds
    rw [accepted_cons, ← List.append_assoc]
    refine ⟨holds', ?_⟩
    rw [replies, List.flatMap_cons, first, others, broughtTags_append, broughtTags_append, overriding_append,
      List.map_append]

/-! ## What a registry tells -/

structure Tells (r : Registry) (done : List Plugin) : Prop where
  listed : r.listPlugins = done.map Plugin.name
  distinct : r.listPlugins.Nodup
  keyed : ∀ e ∈ r.tags.entries, e.1 = e.2.name
  last : ∀ name, r.getTag? name = ((broughtTags done).filter (·.name == name)).getLast?
  absent : ∀ name, r.getTag? name = none ↔ ∀ t ∈ broughtTags done, t.name ≠ name
  increasing : r.listTags.Pairwise (· < ·)
  mem_listTags : ∀ name, name ∈ r.listTags ↔ ∃ t ∈ broughtTags done, t.name = name

theorem pairwise_listTags {r : Registry} (unique : r.tags.keys.Nodup) : r.listTags.Pairwise (· < ·) := by
  have ordered : r.listTags.Pairwise (fun a b => decide (a ≤ b) = true) := by
    refine List.pairwise_mergeSort ?_ ?_ _
    · intro a b c hab hbc
      simpa using String.le_trans (of_decide_eq_true hab) (of_decide_eq_true hbc)
    · intro a b
      simpa using String.le_total a b
  have different : r.listTags.Nodup := (List.mergeSort_perm _ _).nodup_iff.mpr unique
  refine (ordered.and different).imp fun {a b} both => ?_
  by_contra notLess
  exact both.2 (String.le_antisymm (of_decide_eq_true both.1) (String.not_lt.mp notLess))

theorem Holds.tells {r : Registry} {done : List Plugin} (h : r.Holds done) : r.Tells done where
  listed := by rw [listPlugins, h.plugins]
  distinct := by
    rw [listPlugins, h.plugins]
    exact h.distinct
  keyed := by
    rw [h.tags]
    exact Table.keyed_ofTags _
  last name := by
    rw [getTag?, h.tags]
    exact Table.find?_ofTags name _
  absent name := by
    rw [getTag?, h.tags]
    exact Table.find?_ofTags_eq_none name _
  increasing := by
    refine pairwise_listTags ?_
    rw [h.tags]
    exact Table.nodup_keys_ofTags _
  mem_listTags name := by
    rw [listTags, List.mem_mergeSort, h.tags, Table.mem_keys_iff_has, Table.has_ofTags, List.mem_map]

theorem listTags_subset_after {r : Registry} {done : List Plugin} (h : r.Holds done) (calls : List Call) :
    r.listTags ⊆ (r.after calls).listTags := by
  intro name listed
  obtain ⟨t, brought, named⟩ := (h.tells.mem_listTags name).mp listed
  refine ((h.after calls).1.tells.mem_listTags name).mpr ⟨t, ?_, named⟩
  rw [broughtTags_append]
  exact List.mem_append_left _ brought

end Registry

theorem Processor.register_eq_error (p : Processor) (plugin : Plugin) :
    p.register plugin = .error (.pluginTwice plugin.name) ↔ plugin.name ∈ p.world.registry.listPlugins := by
  rw [← Registry.register?_eq_none, register]
  cases p.world.registry.register? plugin <;> simp

theorem Processor.register_eq_ok (p : Processor) (plugin : Plugin) :
    (∃ q, p.register plugin = .ok q ∧ q.world.registry = (p.world.registry.perform (.register plugin)).2) ↔
      plugin.name ∉ p.world.registry.listPlugins := by
  rw [← Registry.register?_eq_none, register, Registry.perform]
  cases p.world.registry.register? plugin <;> simp

namespace Registry

/-- However plugins are registered and initialised, the registry tells what was registered: names in their order, for
each tag name the last tag that was brought, the names of tags without repetition. No tag is lost, a plugin is refused
exactly if its name is taken and then changes nothing, and each tag whose name was taken is reported once. -/
theorem tells_after (calls : List Call) :
    (({} : Registry).after calls).Tells (({} : Registry).accepted calls) ∧
      (∀ more, (({} : Registry).after calls).listTags ⊆ (({} : Registry).after (calls ++ more)).listTags) ∧
      (∀ plugin,
        ((({} : Registry).after calls).perform (.register plugin)).1.refused = true ↔
          plugin.name ∈ (({} : Registry).after calls).listPlugins) ∧
      (∀ plugin, plugin.name ∈ (({} : Registry).after calls).listPlugins →
        ((({} : Registry).after calls).perform (.register plugin)).2 = ({} : Registry).after calls) ∧
      (∀ (p : Processor) plugin, p.world.registry = ({} : Registry).after calls →
        (p.register plugin = .error (.pluginTwice plugin.name) ↔
          plugin.name ∈ (({} : Registry).after calls).listPlugins) ∧
        ((∃ q, p.register plugin = .ok q ∧
            q.world.registry = ((({} : Registry).after calls).perform (.register plugin)).2) ↔
          plugin.name ∉ (({} : Registry).after calls).listPlugins)) ∧
      (({} : Registry).replies calls).flatMap Reply.warnings =
        (overriding [] (broughtTags (({} : Registry).accepted calls))).map overrideWarning := by
  obtain ⟨holds, warnings⟩ := holds_empty.after calls
  rw [List.nil_append] at holds
  refine ⟨holds.tells, fun more => ?_, refused_iff _, fun plugin taken => ?_, fun p plugin same => ?_, warnings⟩
  · rw [after_append]
    exact listTags_subset_after holds more
  · exact (perform_refused ((refused_iff _ plugin).mpr taken)).1
  · rw [← same]
    exact ⟨p.register_eq_error plugin, p.register_eq_ok plugin⟩

end Registry

end Stencil
