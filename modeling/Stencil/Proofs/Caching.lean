import Stencil.Proofs.Invariant

/-!
# Processors that keep no texts

A processor keeps what it compiled, while plugins that are registered later bring more tags. Every entry of the cache
is what the text would be compiled to now, since a text that could be read under fewer tags is read alike. So a
processor goes along with one that keeps nothing and compiles every text when it is rendered, until that one has no room
to compile a text.
-/

set_option autoImplicit false

namespace Stencil.Engine

open Stencil.Template

/-! ## Worlds that keep no texts -/

def faithfulness : Invariant :=
  .everywhere World.Faithful (fun _ => True) (fun _ => True) (fun _ => trivial) fun change faithful => change.faithful faithful

instance : faithfulness.Complete := .of_all (fun _ => trivial) fun _ => trivial

def World.KeepsNone (w : World) : Prop := w.texts.kept = ⟨0, []⟩

theorem World.KeepsNone.missing {w : World} (h : w.KeepsNone) (name source : String) : w.texts.find? name source = none := by
  unfold TextCache.find?
  rw [show w.texts.kept = _ from h]
  rfl

theorem World.KeepsNone.insert {w : World} (h : w.KeepsNone) (name source : String) (c : Compiled) :
    (w.texts.insert name source c).kept = ⟨0, []⟩ := by
  show w.texts.kept.insert (w.texts.key name source) c = _
  rw [show w.texts.kept = _ from h]
  rfl

/-- A world that keeps no texts keeps none of those that are compiled. -/
theorem World.KeepsNone.compiled {w w' : World} {name source : String} {r : Except Fault Compiled} (h : w.KeepsNone)
    (run : outcome (compileText name source) w = (r, w')) : w'.KeepsNone ∧ w'.texts.digest = w.texts.digest := by
  cases r with
  | error x =>
    rw [(eq_of_compileText_error run).2]
    exact ⟨h, rfl⟩
  | ok c =>
    rcases World.cases_of_compiled (compiled_of_compileText run) with ⟨texts, found, rfl⟩ | ⟨-, -, rfl⟩
    · rw [h.missing] at found
      cases found
    · exact ⟨h.insert name source c, rfl⟩

def Afresh (w w' : World) : Prop := w.Faithful ∧ w'.KeepsNone ∧ ∃ texts log, w' = { w with texts, log }

def afresh : Parallel where
  rel := Afresh
  cut := true
  alike h := h.2.2
  newest_frame _ := trivial
  newest_context _ := trivial
  plain _ := trivial
  kept := by
    rintro w _ u change follows ⟨faithful, none, texts, log, rfl⟩
    obtain ⟨log', same⟩ := follows w texts log
    refine ⟨(change _).faithful faithful, ?_, texts, log', same⟩
    rw [same]
    exact none

/-- A text that is kept is what it is compiled to, if there is room for that. -/
theorem sim_afresh_compileText (name source : String) :
    afresh.coupling.quiet.Sim id (compileText name source) (compileText name source) := by
  refine ⟨fun _ => id, fun w w' h => .inr ?_, Coupling.level_of fun _ _ _ => depth_of_compileText⟩
  obtain ⟨faithful, none, texts, log, rfl⟩ := h
  have missing : texts.find? name source = Option.none := none.missing name source
  rw [outcome_compileText, outcome_compileText]
  unfold World.compiled
  rw [missing]
  cases found : w.texts.find? name source with
  | some had =>
    obtain ⟨c, texts'⟩ := had
    obtain ⟨compiled, faithful'⟩ := faithful.of_find? found
    dsimp only
    rw [compiled]
    dsimp only [Except.bind]
    by_cases room : { w with texts, log }.HasRoom
    · rw [if_pos room]
      exact ⟨rfl, faithful', none.insert name source c, _, _, rfl⟩
    · rw [if_neg room]
      rfl
  | none =>
    dsimp only
    cases compiled : compiledText w.settings w.registry.listTags Option.none Option.none source with
    | error f => exact .inl ⟨rfl, .inl ⟨trivial, faithful, none, texts, log, rfl⟩⟩
    | ok c =>
      dsimp only [Except.bind]
      by_cases room : w.HasRoom
      · have room' : { w with texts, log }.HasRoom := room
        rw [if_pos room, if_pos room']
        exact ⟨rfl, (faithful.insert compiled).of_fields rfl rfl rfl, none.insert name source c, _, _, rfl⟩
      · have room' : ¬ { w with texts, log }.HasRoom := room
        rw [if_neg room, if_neg room']
        exact .inr rfl

instance : afresh.agreement.Complete where
  found_tag _ _ := trivial
  unconnected _ _ _ := trivial
  uncompiled _ := trivial
  compile_text := sim_afresh_compileText

end Stencil.Engine

/-! ## Tags that are added -/

namespace Stencil.Table

variable {κ υ : Type} [BEq κ]

theorem keys_subset_insert (t : Table κ υ) (key : κ) (v : υ) : t.keys ⊆ (t.insert key v).keys := by
  have entries : ∀ es : List (κ × υ), es.map Prod.fst ⊆ (insertEntries key v es).map Prod.fst := by
    intro es
    induction es with
    | nil => exact List.nil_subset _
    | cons e es ih =>
      unfold insertEntries
      by_cases h : e.1 == key
      · simp [h]
      · simpa [h] using List.cons_subset_cons e.1 ih
  exact entries t.entries

end Stencil.Table

namespace Stencil.Registry

theorem keys_subset_addTags (tags : Table String Tag) (more : List Tag) : tags.keys ⊆ (addTags tags more).1.keys := by
  induction more generalizing tags with
  | nil => exact fun _ h => h
  | cons t rest ih => exact List.Subset.trans (tags.keys_subset_insert t.name t) (ih (tags.insert t.name t))

/-- A plugin that is registered may take the place of a tag, but no tag is lost. -/
theorem listTags_subset {r r' : Registry} {plugin : Plugin} {log : List LogLine}
    (h : r.register? plugin = some (r', log)) : r.listTags ⊆ r'.listTags := by
  unfold register? at h
  split at h
  · cases h
  · cases h
    intro tag ht
    rw [listTags, List.mem_mergeSort] at ht ⊢
    exact keys_subset_addTags r.tags plugin.ownTags ht

theorem listTags_startUp (r : Registry) (renderer : Renderer) : (r.startUp renderer).1.listTags = r.listTags := by
  unfold startUp
  split
  · rfl
  · rw [listTags, listTags]
    simp

end Stencil.Registry

namespace Stencil.Processor

open Engine

/-! ## Rows of uses -/

inductive Use where
  | text (name : String) (vars : List (Data × Data)) (source : String)
  | file (name : String) (vars : List (Data × Data))
  | register (plugin : Plugin)
  | startUp

def Use.isRender : Use → Bool
  | .text _ _ _ => true
  | .file _ _ => true
  | _ => false

def registered (p : Processor) (plugin : Plugin) : Processor :=
  match p.register plugin with
  | .ok q => q
  | .error _ => p

def use (p : Processor) : Use → Option (Except Failure String) × Processor
  | .text name vars source => (p.renderText name vars source).map some id
  | .file name vars => (p.renderFile name vars).map some id
  | .register plugin => (none, p.registered plugin)
  | .startUp => (none, p.startUp)

def answers (p : Processor) : List Use → List (Except Failure String)
  | [] => []
  | u :: rest => (p.use u).1.toList ++ (p.use u).2.answers rest

def after (p : Processor) (uses : List Use) : Processor := uses.foldl (fun p u => (p.use u).2) p

def keepingNone (p : Processor) : Processor := ⟨{ p.world with texts := .ofSize 0 }⟩

section Uses

variable {p q : Processor}

theorem outcome_exec (p : Processor) (wrap : Engine.Fault → Failure) (e : Eval String) :
    p.exec wrap e =
      ((outcome e { p.world with depth := 0 }).1.mapError wrap, ⟨(outcome e { p.world with depth := 0 }).2⟩) := by
  unfold exec
  rcases ends : (e.run).run { p.world with depth := 0 } with ⟨x | a, w⟩ <;>
    rw [show outcome e { p.world with depth := 0 } = _ from ends] <;> rfl

theorem holds_exec {J : Invariant} (wrap : Fault → Failure) {e : Eval String} (h : J.holds p.world) (he : J.agreement.Same e e) :
    J.holds (p.exec wrap e).2.world := by
  rw [outcome_exec]
  exact Invariant.after he.follows (J.kept (.depth p.world 0) h)

/-- What every change keeps holds behind a render. -/
theorem holds_use {J : Invariant} [J.Complete] (h : J.holds p.world) {u : Use} (isRender : u.isRender = true) :
    J.holds (p.use u).2.world := by
  cases u with
  | text name vars source => exact holds_exec _ h (Agreement.sim_sourceText name vars source)
  | file name vars =>
    show J.holds (p.renderFile name vars).2.world
    unfold renderFile
    cases p.world.settings.folder with
    | none => exact h
    | some folder => exact holds_exec _ h (Agreement.sim_fileText name vars)
  | register plugin => cases isRender
  | startUp => cases isRender

/-- Both runs end alike, unless the second is too deep. -/
theorem exec_afresh {e : Eval String} (wrap : Fault → Failure) (h : Afresh p.world q.world) (he : afresh.agreement.Same e e) :
    (p.exec wrap e).1 = (q.exec wrap e).1 ∧ Afresh (p.exec wrap e).2.world (q.exec wrap e).2.world ∨
      (q.exec wrap e).1 = .error (wrap (.mishap .tooDeep)) := by
  have start : Afresh { p.world with depth := 0 } { q.world with depth := 0 } := by
    obtain ⟨faithful, none, texts, log, hq⟩ := h
    exact ⟨faithful.of_fields rfl rfl rfl, none, texts, log, by rw [hq]⟩
  have ends := (he.ends _ _ start).resolve_left id
  revert ends
  rw [outcome_exec, outcome_exec]
  rcases outcome e { p.world with depth := 0 } with ⟨x | a, w⟩ <;>
    rcases outcome e { q.world with depth := 0 } with ⟨y | b, w'⟩ <;> intro ends
  · rcases ends with ⟨rfl, ⟨-, related⟩ | ⟨never, -⟩⟩ | cut
    · exact .inl ⟨rfl, related⟩
    · exact never.elim
    · rw [show y = .mishap .tooDeep from cut]
      exact .inr rfl
  · exact False.elim ends
  · rw [show y = .mishap .tooDeep from ends]
    exact .inr rfl
  · obtain ⟨rfl, related⟩ := ends
    exact .inl ⟨rfl, related⟩

theorem faithful_registered (plugin : Plugin) (h : p.world.Faithful) : (p.registered plugin).world.Faithful := by
  unfold registered register
  cases hr : p.world.registry.register? plugin with
  | none => exact h
  | some registered =>
    exact ⟨h.apart, fun e he source same => compiledText_of_subset (Registry.listTags_subset hr) (h.entries he same)⟩

theorem faithful_startUp (h : p.world.Faithful) : p.startUp.world.Faithful := by
  refine ⟨h.apart, fun e he source same => ?_⟩
  show compiledText p.world.settings (p.world.registry.startUp .own).1.listTags none none source = .ok e.2
  rw [Registry.listTags_startUp]
  exact h.entries he same

theorem faithful_use (h : p.world.Faithful) (u : Use) : (p.use u).2.world.Faithful := by
  cases u with
  | text name vars source => exact holds_use (J := faithfulness) h rfl
  | file name vars => exact holds_use (J := faithfulness) h rfl
  | register plugin => exact faithful_registered plugin h
  | startUp => exact faithful_startUp h

theorem faithful_after (h : p.world.Faithful) (uses : List Use) : (p.after uses).world.Faithful := by
  induction uses generalizing p with
  | nil => exact h
  | cons u rest ih => exact ih (faithful_use h u)

theorem afresh_keepingNone (h : p.world.Faithful) : Afresh p.world p.keepingNone.world :=
  ⟨h, rfl, .ofSize 0, p.world.log, rfl⟩

theorem renderFile_afresh (name : String) (vars : List (Data × Data)) (h : Afresh p.world q.world) :
    (p.renderFile name vars).1 = (q.renderFile name vars).1 ∧
        Afresh (p.renderFile name vars).2.world (q.renderFile name vars).2.world ∨
      (q.renderFile name vars).1 = .error (.template (.mishap .tooDeep)) := by
  have same : q.world.settings.folder = p.world.settings.folder := by
    obtain ⟨-, -, texts, log, hq⟩ := h
    rw [hq]
  unfold renderFile
  rw [same]
  cases p.world.settings.folder with
  | none => exact .inl ⟨rfl, h⟩
  | some folder => exact exec_afresh _ h (Agreement.sim_fileText name vars)

theorem texts_registered (p : Processor) (plugin : Plugin) : (p.registered plugin).world.texts = p.world.texts := by
  unfold registered register
  cases p.world.registry.register? plugin <;> rfl

theorem registered_afresh (plugin : Plugin) (h : Afresh p.world q.world) :
    Afresh (p.registered plugin).world (q.registered plugin).world := by
  refine ⟨faithful_registered plugin h.1, ?_, ?_⟩
  · rw [World.KeepsNone, texts_registered]
    exact h.2.1
  · obtain ⟨-, -, texts, log, hq⟩ := h
    unfold registered register
    rw [hq]
    cases p.world.registry.register? plugin with
    | none => exact ⟨texts, log, hq⟩
    | some registered => exact ⟨texts, _, rfl⟩

theorem startUp_afresh (h : Afresh p.world q.world) : Afresh p.startUp.world q.startUp.world := by
  refine ⟨faithful_startUp h.1, h.2.1, ?_⟩
  obtain ⟨-, -, texts, log, hq⟩ := h
  rw [startUp, startUp, hq]
  exact ⟨texts, log, rfl⟩

/-- One use gets the same answer and leaves the processors together, unless the second is too deep. -/
theorem use_afresh (u : Use) (h : Afresh p.world q.world) :
    (p.use u).1 = (q.use u).1 ∧ Afresh (p.use u).2.world (q.use u).2.world ∨
      (q.use u).1 = some (.error (.template (.mishap .tooDeep))) := by
  cases u with
  | text name vars source =>
    refine (exec_afresh (wrapFault name "Unexpected error during processing") h
      (Agreement.sim_sourceText name vars source)).imp (fun same => ⟨congrArg some same.1, same.2⟩) (congrArg some)
  | file name vars =>
    exact (renderFile_afresh name vars h).imp (fun same => ⟨congrArg some same.1, same.2⟩) (congrArg some)
  | register plugin => exact .inl ⟨rfl, registered_afresh plugin h⟩
  | startUp => exact .inl ⟨rfl, startUp_afresh h⟩

theorem answers_afresh (uses : List Use) (h : Afresh p.world q.world)
    (room : .error (.template (.mishap .tooDeep)) ∉ q.answers uses) : p.answers uses = q.answers uses := by
  induction uses generalizing p q with
  | nil => rfl
  | cons u rest ih =>
    rw [answers, List.mem_append, not_or] at room
    obtain ⟨now, later⟩ := room
    rcases use_afresh u h with ⟨answer, related⟩ | deep
    · rw [answers, answers, answer, ih related later]
    · rw [deep] at now
      exact absurd (List.mem_singleton.mpr rfl) now

end Uses

/-! ## Processors as they are set up -/

/-- Plugins that are registered change the registry and the log. -/
theorem world_registerAll (p : Processor) (references : List String) :
    ∃ registry log, (p.registerAll references).2.world = { p.world with registry, log } := by
  induction references generalizing p with
  | nil => exact ⟨_, _, rfl⟩
  | cons reference rest ih =>
    unfold registerAll
    cases hq : (loadPlugin reference).bind p.register with
    | error f => exact ⟨_, _, rfl⟩
    | ok q =>
      obtain ⟨registry, log, world⟩ := ih q
      refine ⟨registry, log, world.trans ?_⟩
      cases hl : loadPlugin reference with
      | error f =>
        rw [hl] at hq
        cases hq
      | ok plugin =>
        rw [hl] at hq
        change p.register plugin = .ok q at hq
        unfold register at hq
        split at hq
        · cases hq
        · cases hq
          rfl

/-- A processor without plugins has nothing in its world but its settings and files. -/
theorem world_bare {c : Config} {files : FileTree} {root : Option Path} {p : Processor}
    (h : bare c files root = .ok p) : ∃ folder, p.world =
      { settings := ⟨c.autoescape, c.strictUndefined, layoutOf c, folder⟩, files, texts := .ofSize c.cacheSize } := by
  unfold bare at h
  cases hf : folderFor files.cwd c root with
  | error f =>
    rw [hf] at h
    cases h
  | ok folder =>
    rw [hf] at h
    cases h
    exact ⟨folder, rfl⟩

theorem texts_bare {c : Config} {files : FileTree} {root : Option Path} {p : Processor}
    (h : bare c files root = .ok p) : p.world.texts = .ofSize c.cacheSize := by
  obtain ⟨folder, world⟩ := world_bare h
  rw [world]

/-- A processor that could be created has registered all plugins of its configuration. -/
theorem registerAll_of_create {c : Config} {files : FileTree} {root : Option Path} {p : Processor}
    (h : create c files root = .ok p) :
    ∃ b q, bare c files root = .ok b ∧ b.registerAll c.plugins = (.ok (), q) ∧ q.startUp = p := by
  unfold create setUp at h
  cases hb : bare c files root with
  | error f =>
    rw [hb] at h
    cases h
  | ok b =>
    rw [hb] at h
    simp only [bind, Except.bind] at h
    rcases hr : b.registerAll c.plugins with ⟨f | _, q⟩
    · rw [hr] at h
      cases h
    · rw [hr] at h
      exact ⟨b, q, rfl, hr, Except.ok.inj h⟩

/-- Nor has one that was created, apart from what plugins brought. -/
theorem world_create {c : Config} {files : FileTree} {root : Option Path} {p : Processor}
    (h : create c files root = .ok p) : ∃ folder registry log events, p.world =
      { settings := ⟨c.autoescape, c.strictUndefined, layoutOf c, folder⟩, files, registry, texts := .ofSize c.cacheSize,
        log, events } := by
  obtain ⟨b, q, hb, hr, rfl⟩ := registerAll_of_create h
  obtain ⟨folder, bare⟩ := world_bare hb
  obtain ⟨registry, log, world⟩ := world_registerAll b c.plugins
  rw [hr, bare] at world
  exact ⟨folder, _, log, _, by rw [startUp, world]⟩

theorem texts_create {c : Config} {files : FileTree} {root : Option Path} {p : Processor}
    (h : create c files root = .ok p) : p.world.texts = .ofSize c.cacheSize := by
  obtain ⟨_, _, _, _, world⟩ := world_create h
  rw [world]

theorem eq_ok_of_toOption {ε α : Type} {r : Except ε α} {a : α} (h : r.toOption = some a) : r = .ok a := by
  cases r with
  | error e => cases h
  | ok b => exact congrArg Except.ok (Option.some.inj h)

section Created

variable {α : Type} {c : Config} {files : FileTree} {root : Option Path} {p : Processor} {f : Processor → α} {a : α}

theorem eq_of_created (created : create c files root = .ok p) (shown : (create c files root).toOption.map f = some a) :
    f p = a := by
  rw [created] at shown
  exact Option.some.inj shown

/-- A configuration of which something can be computed can be set up. -/
theorem exists_created (shown : (create c files root).toOption.map f = some a) :
    ∃ p, create c files root = .ok p ∧ f p = a := by
  cases made : create c files root with
  | ok p => exact ⟨p, rfl, eq_of_created made shown⟩
  | error x =>
    rw [made] at shown
    cases shown

end Created

end Stencil.Processor
