import Stencil.Proofs.Invariant

/-!
# Cells that stand elsewhere

A run does not depend on the numbers of its cells. So it goes alike in a world that holds further cells, which the run
does not know of and leaves as they are: what it makes there stands further on, and what it gives is the same. That the
content of a world refers to nothing outside of it is shown in the same way.
-/

set_option autoImplicit false

namespace Stencil.Engine

open Stencil.Template

/-! ## Cells of one kind -/

section Row

variable {α : Type} [Renames α] {ρ : Renaming} {name : Ref → Ref} {start more : Nat} {others xs ys : Array α}

structure Row (ρ : Renaming) (name : Ref → Ref) (start more : Nat) (others xs ys : Array α) : Prop where
  cell : ∀ r, ys[name r]? = (xs[r]?).map ρ.on
  begun : start ≤ xs.size
  size : ys.size = xs.size + more
  other : ∀ i, i < start + more → (∀ r, name r ≠ i) → ys[i]? = others[i]?

theorem Row.push (h : Row ρ name start more others xs ys) (mono : StrictMono name)
    (next : name xs.size = xs.size + more) (a : α) : Row ρ name start more others (xs.push a) (ys.push (ρ.on a)) where
  cell r := by
    have last : name xs.size = ys.size := next.trans h.size.symm
    rw [Array.getElem?_push, Array.getElem?_push]
    by_cases new : r = xs.size
    · rw [if_pos new, if_pos (new ▸ last)]
      rfl
    · rw [if_neg new, if_neg fun same => new (mono.injective (same.trans last.symm)), h.cell]
  begun := by
    rw [Array.size_push]
    exact Nat.le_succ_of_le h.begun
  size := by
    rw [Array.size_push, Array.size_push, h.size]
    omega
  other i low apart := by
    have old : i ≠ ys.size := by
      have := h.begun
      have := h.size
      omega
    rw [Array.getElem?_push, if_neg old]
    exact h.other i low apart

theorem Row.modify (h : Row ρ name start more others xs ys) (mono : StrictMono name) (r : Ref) {u u' : α → α}
    (hu : ∀ a, u' (ρ.on a) = ρ.on (u a)) : Row ρ name start more others (xs.modify r u) (ys.modify (name r) u') where
  cell q := by
    rw [Array.getElem?_modify, Array.getElem?_modify]
    by_cases same : r = q
    · rw [if_pos same, if_pos (congrArg name same), h.cell]
      cases xs[q]? with
      | none => rfl
      | some a => exact congrArg some (hu a)
    · rw [if_neg same, if_neg fun h => same (mono.injective h), h.cell]
  begun := by
    rw [Array.size_modify]
    exact h.begun
  size := by
    rw [Array.size_modify, Array.size_modify, h.size]
  other i low apart := by
    rw [Array.getElem?_modify, if_neg (apart r)]
    exact h.other i low apart

theorem Row.write (h : Row ρ name start more others xs ys) (mono : StrictMono name) (r : Ref) (a : α) :
    Row ρ name start more others (xs.modify r fun _ => a) (ys.modify (name r) fun _ => ρ.on a) :=
  h.modify mono r fun _ => rfl

end Row

/-! ## Moved worlds -/

structure Extent where
  objects : Nat
  frames : Nat
  contexts : Nat
  escapes : Nat

def World.extent (w : World) : Extent := ⟨w.objects.size, w.frames.size, w.contexts.size, w.escapes.size⟩

structure Cuts where
  gap : Nat
  cuts : Fault → Prop
  cuts_cases : ∀ {f : Fault}, cuts f → f = .outOfFuel ∨ f = .mishap .tooDeep
  deep : gap = 0 ∨ cuts (.mishap .tooDeep)

def Cuts.fuel : Cuts := ⟨0, (· = .outOfFuel), .inl, .inl rfl⟩

theorem Cuts.level : 0 = 0 ∨ False := .inl rfl

theorem Cuts.never {f : Fault} (h : False) : f = .outOfFuel ∨ f = .mishap .tooDeep := h.elim

def Cuts.none : Cuts := ⟨0, fun _ => False, @Cuts.never, Cuts.level⟩

def Cuts.depth (gap : Nat) : Cuts := ⟨gap, (· = .mishap .tooDeep), .inr, .inr rfl⟩

structure Move extends Cuts where
  names : Renaming
  -- the cells there were when the runs began
  start : Extent
  -- the cells that only the second run has
  more : Extent
  -- where the second run began
  others : World

def Astray (name : Ref → Ref) (start more size : Nat) : Prop := ∃ r, start ≤ r ∧ r < size ∧ name r ≠ r + more

theorem Astray.mono {name : Ref → Ref} {start more size size' : Nat} (h : Astray name start more size) (le : size ≤ size') :
    Astray name start more size' := by
  obtain ⟨r, begun, small, wrong⟩ := h
  exact ⟨r, begun, Nat.lt_of_lt_of_le small le, wrong⟩

namespace Move

variable (m : Move)

structure Related (w w' : World) : Prop where
  objects : Row m.names m.names.object m.start.objects m.more.objects m.others.objects w.objects w'.objects
  frames : Row m.names m.names.frame m.start.frames m.more.frames m.others.frames w.frames w'.frames
  contexts : Row m.names m.names.context m.start.contexts m.more.contexts m.others.contexts w.contexts w'.contexts
  escapes : Row m.names m.names.escape m.start.escapes m.more.escapes m.others.escapes w.escapes w'.escapes
  settings : w'.settings = w.settings
  registry : w'.registry = w.registry
  files : w'.files = w.files
  templates : w'.templates = w.templates
  loaded : w'.loaded = w.loaded
  modules : w'.modules = w.modules.mapValues m.names.object
  mark : w'.mark = w.mark
  depth : w'.depth = w.depth + m.gap
  events : w'.events = w.events
  texts : w'.texts.kept = w.texts.kept
  digest : w'.texts.digest = w.texts.digest

theorem Related.linked {m : Move} {w w' : World} (h : m.Related w w') : Linked m.names m.gap w w' where
  settings := h.settings
  registry := h.registry
  files := h.files
  object := h.objects.cell
  frame := h.frames.cell
  context := h.contexts.cell
  escape := h.escapes.cell
  templates := h.templates
  loaded := h.loaded
  modules := h.modules
  mark := h.mark
  depth := h.depth
  events := h.events

def Out (w : World) : Prop :=
  Astray m.names.object m.start.objects m.more.objects w.objects.size ∨
    Astray m.names.frame m.start.frames m.more.frames w.frames.size ∨
    Astray m.names.context m.start.contexts m.more.contexts w.contexts.size ∨
    Astray m.names.escape m.start.escapes m.more.escapes w.escapes.size

theorem Out.grow {m : Move} {w w' : World} (h : m.Out w) (objects : w.objects.size ≤ w'.objects.size)
    (frames : w.frames.size ≤ w'.frames.size) (contexts : w.contexts.size ≤ w'.contexts.size)
    (escapes : w.escapes.size ≤ w'.escapes.size) : m.Out w' :=
  h.imp (·.mono objects) (·.imp (·.mono frames) (·.imp (·.mono contexts) (·.mono escapes)))

def coupling : Coupling where
  names := m.names
  rel := m.Related
  out := m.Out
  excused := m.cuts
  plain _ := trivial

theorem keeps {u u' : World → World} (extent : ∀ w, (u w).extent = w.extent)
    (h : ∀ w w', m.Related w w' → m.Related (u w) (u' w')) : m.coupling.Keeps u u' := by
  refine ⟨fun w out => ?_, fun w w' related => .inr (h w w' related)⟩
  have same := extent w
  simp only [World.extent, Extent.mk.injEq] at same
  obtain ⟨objects, frames, contexts, escapes⟩ := same
  exact out.grow objects.ge frames.ge contexts.ge escapes.ge

/-- Both sides make a cell, whose numbers correspond unless the coupling has been left. -/
theorem sim_push {name : Ref → Ref} {size : World → Nat} {start more : Nat} {u u' : World → World}
    (grows : ∀ w, m.Out w → m.Out (u w)) (leaves : ∀ w, start ≤ size w → name (size w) ≠ size w + more → m.Out (u w))
    (sizes : ∀ w w', m.Related w w' → start ≤ size w ∧ size w' = size w + more)
    (level : ∀ w, (u w).depth = w.depth)
    (related : ∀ w w', m.Related w w' → name (size w) = size w + more → m.Related (u w) (u' w')) :
    m.coupling.Sim name (modifyGet fun w => (size w, u w)) (modifyGet fun w => (size w, u' w)) := by
  refine ⟨grows, fun w w' h => ?_, Coupling.level_of fun w _ _ ends => ?_⟩
  swap
  · cases ends
    exact level w
  obtain ⟨begun, size'⟩ := sizes w w' h
  by_cases next : name (size w) = size w + more
  · exact .inr ⟨size'.trans next.symm, related w w' h next⟩
  · exact .inl (leaves w begun next)

variable (m : Move)

theorem sim_compileText (name source : String) :
    m.coupling.quiet.Sim id (compileText name source) (compileText name source) := by
  refine ⟨fun w out => ?_, fun w w' h => .inr ?_, Coupling.level_of fun _ _ _ => depth_of_compileText⟩
  · rcases run : outcome (compileText name source) w with ⟨x | c, w₁⟩
    · rw [(eq_of_compileText_error run).2]
      exact out
    · obtain ⟨_, _, rfl⟩ := World.eq_of_compiled (compiled_of_compileText run)
      exact out
  · have same : compiledText w'.settings w'.registry.listTags none none source =
        compiledText w.settings w.registry.listTags none none source := by
      rw [h.settings, h.registry]
    have key : w'.texts.key name source = w.texts.key name source := by
      rw [TextCache.key, TextCache.key, h.digest]
    rw [outcome_compileText, outcome_compileText]
    unfold World.compiled TextCache.find?
    rw [key, h.texts]
    cases w.texts.kept.find? (w.texts.key name source) with
    | some found => exact ⟨rfl, { h with texts := rfl, digest := h.digest }⟩
    | none =>
      rw [Option.map_none, Option.map_none, same]
      cases compiledText w.settings w.registry.listTags none none source with
      | error f => exact .inl ⟨rfl, .inl ⟨trivial, h⟩⟩
      | ok c =>
        dsimp only [Except.bind]
        by_cases room' : w'.HasRoom
        · have room : w.HasRoom := Nat.le_trans (Nat.add_le_add_right (h.depth ▸ Nat.le_add_right _ _) _) room'
          rw [if_pos room, if_pos room']
          refine ⟨rfl, { h with texts := ?_, digest := h.digest }⟩
          show w'.texts.kept.insert (w'.texts.key name source) c = w.texts.kept.insert (w.texts.key name source) c
          rw [key, h.texts]
        · rw [if_neg room']
          by_cases room : w.HasRoom
          · rw [if_pos room]
            refine m.deep.resolve_left fun none => room' ?_
            rw [World.HasRoom, h.depth, none]
            exact room
          · rw [if_neg room]
            exact .inl ⟨rfl, .inl ⟨trivial, h⟩⟩

def agreement : Agreement where
  toCoupling := m.coupling
  gap := m.gap
  frames _ := True
  contexts _ := True
  linked h := Related.linked h
  excused_cases := m.cuts_cases
  excused_deep := m.deep
  noted_apart := Coupling.apart_of_unnoted
  aside_depth := Coupling.never_aside
  newest_frame _ := trivial
  newest_context _ := trivial
  push_object o := by
    refine m.sim_push (fun w out => ?_) (fun w begun wrong => .inl ⟨_, begun, ?_, wrong⟩)
      (fun _ _ h => ⟨h.objects.begun, h.objects.size⟩) (fun _ => rfl)
      fun _ _ h next => { h with objects := h.objects.push m.names.object_mono next o }
    · exact out.grow (by simp) le_rfl le_rfl le_rfl
    · simp
  push_frame f := by
    refine m.sim_push (fun w out => ?_) (fun w begun wrong => .inr (.inl ⟨_, begun, ?_, wrong⟩))
      (fun _ _ h => ⟨h.frames.begun, h.frames.size⟩) (fun _ => rfl)
      fun _ _ h next => { h with frames := h.frames.push m.names.frame_mono next f }
    · exact out.grow le_rfl (by simp) le_rfl le_rfl
    · simp
  push_context c := by
    refine m.sim_push (fun w out => ?_) (fun w begun wrong => .inr (.inr (.inl ⟨_, begun, ?_, wrong⟩)))
      (fun _ _ h => ⟨h.contexts.begun, h.contexts.size⟩) (fun _ => rfl)
      fun _ _ h next => { h with contexts := h.contexts.push m.names.context_mono next c }
    · exact out.grow le_rfl le_rfl (by simp) le_rfl
    · simp
  push_escape v := by
    refine m.sim_push (fun w out => ?_) (fun w begun wrong => .inr (.inr (.inr ⟨_, begun, ?_, wrong⟩)))
      (fun _ _ h => ⟨h.escapes.begun, h.escapes.size⟩) (fun _ => rfl)
      fun _ _ h next => { h with escapes := h.escapes.push m.names.escape_mono next v }
    · exact out.grow le_rfl le_rfl le_rfl (by simp)
    · simp
  push_template c := by
    refine ⟨fun _ out => out, fun w w' h => .inr ⟨?_, ?_⟩, Coupling.level_of fun w _ _ ends => ?_⟩
    rotate_left 2
    · cases ends
      rfl
    · show w'.templates.size = w.templates.size
      rw [h.templates]
    · exact { h with templates := congrArg (·.push c) h.templates }
  write_object r u u' hu := .update (m.keeps (fun w => by simp [World.extent]) fun _ _ h =>
    { h with objects := h.objects.modify m.names.object_mono r hu }) fun _ => rfl
  write_frame r u u' _ hu := .update (m.keeps (fun w => by simp [World.extent]) fun _ _ h =>
    { h with frames := h.frames.modify m.names.frame_mono r hu }) fun _ => rfl
  write_context r u u' _ hu := .update (m.keeps (fun w => by simp [World.extent]) fun _ _ h =>
    { h with contexts := h.contexts.modify m.names.context_mono r hu }) fun _ => rfl
  write_escape r v := m.keeps (fun w => by simp [World.extent]) fun _ _ h =>
    { h with escapes := h.escapes.write m.names.escape_mono r v }
  write_loaded c := .update (m.keeps (fun _ => rfl) fun _ _ h => { h with loaded := rfl }) fun _ => rfl
  write_module t r := by
    refine .update (m.keeps (fun _ => rfl) fun w w' h => { h with modules := ?_ }) fun _ => rfl
    show w'.modules.insert t (m.names.object r) = (w.modules.insert t r).mapValues m.names.object
    rw [Table.mapValues_insert, h.modules]
  write_mark n := m.keeps (fun _ => rfl) fun _ _ h => { h with mark := rfl }
  write_depth n := m.keeps (fun _ => rfl) fun _ _ h => { h with depth := rfl }
  write_log line _ := .update (m.keeps (fun _ => rfl) fun _ _ h => { h with }) fun _ => rfl
  write_events u := m.keeps (fun _ => rfl) fun _ _ h => { h with events := congrArg u h.events }

instance : m.agreement.Complete where
  found_tag _ _ := trivial
  unconnected _ _ _ := trivial
  uncompiled _ := trivial
  compile_text := m.sim_compileText

end Move

/-! ## Less fuel -/

/-- What cuts the second run off may come at any time. -/
theorem Coupling.Sim.cut {C : Coupling} {α β γ : Type} {f : α → β} {g : α → γ} {e : Eval α} {e' : Eval γ} {y : Fault}
    (hy : C.excused y) (he : C.Sim g e e') : C.Sim f e (throw y) := by
  refine ⟨he.1, fun w w' _ => .inr ?_, Coupling.level_of_error fun w' => ⟨y, w', rfl⟩⟩
  rw [outcome_throw]
  rcases outcome e w with ⟨_ | _, _⟩
  · exact .inr hy
  · exact hy

namespace Agreement

variable {A : Agreement}

/-- The second run may have less fuel where that is excused. -/
theorem aligned_le [A.Complete] (fuel : A.excused .outOfFuel) {m n : Nat} (le : m ≤ n) :
    Aligned A (interp n) (interp m) := by
  induction m generalizing n A with
  | zero =>
    have same := aligned_interp (A := A) n
    exact
      { nodes := fun env nodes writes => (same.nodes env nodes writes).cut fuel
        call := fun env v args named => (same.call env v args named).cut fuel
        next := fun r => (same.next r).cut fuel
        drain := fun r => (same.drain r).cut fuel
        seek := fun r v => (same.seek r v).cut fuel
        turns := fun env counted source target body turns out writes =>
          (same.turns env counted source target body turns out writes).cut fuel
        body := fun m bound => (same.body m bound).cut fuel
        template := fun t r writes => (same.template t r writes).cut fuel
        block := fun fn r => (same.block fn r).cut fuel
        filter := fun env id args named => (same.filter env id args named).cut fuel
        tag := fun env tag markup body used => (same.tag env tag markup body used).cut fuel
        render := fun name vars source => (same.render name vars source).cut fuel
        sought := fun env e ignoring => (same.sought env e ignoring).cut fuel }
  | succ m ih =>
    obtain ⟨k, rfl⟩ : ∃ k, n = k + 1 := ⟨n - 1, by omega⟩
    have less := Nat.le_of_succ_le_succ le
    exact (aligned_stage (ih fuel less) fun env e _ => sim_soughtTemplate (ih (A := A.sparing _) fuel less) env e).deferred

end Agreement

/-! ## Closed worlds -/

instance : LE Extent :=
  ⟨fun a b => a.objects ≤ b.objects ∧ a.frames ≤ b.frames ∧ a.contexts ≤ b.contexts ∧ a.escapes ≤ b.escapes⟩

def growing (e : Extent) : Invariant :=
  .everywhere (e ≤ ·.extent) (fun _ => True) (fun _ => True) (fun _ => trivial) <| by
    rintro w w' change ⟨objects, frames, contexts, escapes⟩
    simp only [World.extent] at objects frames contexts escapes
    cases change <;> refine ⟨?_, ?_, ?_, ?_⟩ <;>
      simp only [World.extent, Array.size_push, Array.size_modify] <;> omega

instance (e : Extent) : (growing e).Complete := .of_all (fun _ => trivial) fun _ => trivial

structure Renaming.Fixes (σ : Renaming) (e : Extent) : Prop where
  object : ∀ r, r < e.objects → σ.object r = r
  frame : ∀ r, r < e.frames → σ.frame r = r
  context : ∀ r, r < e.contexts → σ.context r = r
  escape : ∀ r, r < e.escapes → σ.escape r = r

theorem Renaming.Fixes.mono {σ : Renaming} {d e : Extent} (h : σ.Fixes e) (le : d ≤ e) : σ.Fixes d where
  object r small := h.object r (Nat.lt_of_lt_of_le small le.1)
  frame r small := h.frame r (Nat.lt_of_lt_of_le small le.2.1)
  context r small := h.context r (Nat.lt_of_lt_of_le small le.2.2.1)
  escape r small := h.escape r (Nat.lt_of_lt_of_le small le.2.2.2)

def Rooted {α : Type} [Renames α] (w : World) (e : Eval α) : Prop :=
  ∀ (A : Agreement) [A.Complete], A.names.Fixes w.extent → (∀ r, A.frames r) → (∀ r, A.contexts r) → A.Same e e

theorem Rooted.grows {α : Type} [Renames α] {e : Eval α} {w : World} (h : Rooted w e) :
    w.extent ≤ (outcome e w).2.extent := by
  have same := h (growing w.extent).agreement ⟨fun _ _ => rfl, fun _ _ => rfl, fun _ _ => rfl, fun _ _ => rfl⟩
    (fun _ => trivial) fun _ => trivial
  exact Invariant.after (J := growing w.extent) same.follows ⟨le_rfl, le_rfl, le_rfl, le_rfl⟩

def World.Closed (w : World) : Prop := ∀ σ : Renaming, σ.Fixes w.extent → Linked σ 0 w w

theorem Linked.of_fields {ρ : Renaming} {w v : World} (h : Linked ρ 0 w w) (objects : v.objects = w.objects)
    (frames : v.frames = w.frames) (contexts : v.contexts = w.contexts) (escapes : v.escapes = w.escapes)
    (modules : v.modules = w.modules) : Linked ρ 0 v v where
  settings := rfl
  registry := rfl
  files := rfl
  object := objects ▸ h.object
  frame := frames ▸ h.frame
  context := contexts ▸ h.context
  escape := escapes ▸ h.escape
  templates := rfl
  loaded := rfl
  modules := modules ▸ h.modules
  mark := rfl
  depth := rfl
  events := rfl

theorem World.Closed.of_fields {w v : World} (h : w.Closed) (objects : v.objects = w.objects)
    (frames : v.frames = w.frames) (contexts : v.contexts = w.contexts) (escapes : v.escapes = w.escapes)
    (modules : v.modules = w.modules) : v.Closed := by
  intro σ fixes
  have same : v.extent = w.extent := by
    rw [World.extent, World.extent, objects, frames, contexts, escapes]
  exact (h σ (same ▸ fixes)).of_fields objects frames contexts escapes modules

def Move.closing (σ : Renaming) (w : World) : Move :=
  ⟨.none, σ, ⟨0, 0, 0, 0⟩, ⟨0, 0, 0, 0⟩, w⟩

theorem Row.self {α : Type} [Renames α] {ρ : Renaming} {name : Ref → Ref} {xs others : Array α}
    (h : ∀ r, xs[name r]? = (xs[r]?).map ρ.on) : Row ρ name 0 0 others xs xs :=
  ⟨h, Nat.zero_le _, rfl, fun _ low => absurd low (Nat.not_lt_zero _)⟩

theorem Linked.related {σ : Renaming} {w : World} (h : Linked σ 0 w w) (others : World) :
    (Move.closing σ others).Related w w where
  objects := .self h.object
  frames := .self h.frame
  contexts := .self h.context
  escapes := .self h.escape
  settings := rfl
  registry := rfl
  files := rfl
  templates := rfl
  loaded := rfl
  modules := h.modules
  mark := rfl
  depth := rfl
  events := rfl
  texts := rfl
  digest := rfl

theorem Renaming.Fixes.not_out {σ : Renaming} {w : World} (h : σ.Fixes w.extent) (others : World) :
    ¬ (Move.closing σ others).Out w := by
  rintro (⟨r, -, small, wrong⟩ | ⟨r, -, small, wrong⟩ | ⟨r, -, small, wrong⟩ | ⟨r, -, small, wrong⟩)
  · exact wrong (h.object r small)
  · exact wrong (h.frame r small)
  · exact wrong (h.context r small)
  · exact wrong (h.escape r small)

section Rooted

variable {α : Type} [Renames α] {e : Eval α} {w : World}

theorem Rooted.matches (h : Rooted w e) (closed : w.Closed) {σ : Renaming}
    (fixes : σ.Fixes (outcome e w).2.extent) :
    (Move.closing σ w).coupling.Match σ.on (outcome e w) (outcome e w) := by
  have old := fixes.mono h.grows
  have same := h (Move.closing σ w).agreement old (fun _ => trivial) fun _ => trivial
  exact (same.ends w w ((closed σ old).related w)).resolve_left (fixes.not_out w)

/-- A run leaves a closed world. -/
theorem Rooted.closed (h : Rooted w e) (closed : w.Closed) : (outcome e w).2.Closed := by
  intro σ fixes
  have ends := h.matches closed fixes
  revert ends
  rcases outcome e w with ⟨x | a, w₁⟩ <;> intro ends
  · rcases ends with ⟨-, ⟨-, related⟩ | ⟨never, -⟩⟩ | cut
    · exact related.linked
    · exact never.elim
    · exact cut.elim
  · exact ends.2.linked

/-- What a run gives refers to nothing outside of the world it leaves. -/
theorem Rooted.on_result (h : Rooted w e) (closed : w.Closed) {a : α} {w₁ : World}
    (run : outcome e w = (.ok a, w₁)) {σ : Renaming} (fixes : σ.Fixes w₁.extent) : σ.on a = a := by
  have fixes' : σ.Fixes (outcome e w).2.extent := by
    rw [run]
    exact fixes
  have ends := h.matches closed fixes'
  rw [run] at ends
  exact ends.1.symm

end Rooted

/-! ## Worlds with further cells -/

structure Grown (w w' : World) : Prop where
  objects : ∀ r, r < w.objects.size → w'.objects[r]? = w.objects[r]?
  frames : ∀ r, r < w.frames.size → w'.frames[r]? = w.frames[r]?
  contexts : ∀ r, r < w.contexts.size → w'.contexts[r]? = w.contexts[r]?
  escapes : ∀ r, r < w.escapes.size → w'.escapes[r]? = w.escapes[r]?
  extent : w.extent ≤ w'.extent
  settings : w'.settings = w.settings
  registry : w'.registry = w.registry
  files : w'.files = w.files
  templates : w'.templates = w.templates
  loaded : w'.loaded = w.loaded
  modules : w'.modules = w.modules
  mark : w'.mark = w.mark
  events : w'.events = w.events
  texts : w'.texts.kept = w.texts.kept
  digest : w'.texts.digest = w.texts.digest

def shifted (start more r : Nat) : Nat := if r < start then r else r + more

theorem shifted_of_lt {start r : Nat} (more : Nat) (h : r < start) : shifted start more r = r := if_pos h

theorem shifted_of_le {start r : Nat} (more : Nat) (h : start ≤ r) : shifted start more r = r + more :=
  if_neg (Nat.not_lt.mpr h)

theorem strictMono_shifted (start more : Nat) : StrictMono (shifted start more) := by
  intro r q h
  unfold shifted
  split <;> split <;> omega

def Renaming.shift (start more : Extent) : Renaming where
  object := shifted start.objects more.objects
  frame := shifted start.frames more.frames
  context := shifted start.contexts more.contexts
  escape := shifted start.escapes more.escapes
  object_mono := strictMono_shifted _ _
  frame_mono := strictMono_shifted _ _
  context_mono := strictMono_shifted _ _
  escape_mono := strictMono_shifted _ _

theorem Renaming.fixes_shift (start more : Extent) : (Renaming.shift start more).Fixes start :=
  ⟨fun _ => shifted_of_lt _, fun _ => shifted_of_lt _, fun _ => shifted_of_lt _, fun _ => shifted_of_lt _⟩

def Extent.minus (a b : Extent) : Extent :=
  ⟨a.objects - b.objects, a.frames - b.frames, a.contexts - b.contexts, a.escapes - b.escapes⟩

def Move.beyond (w w' : World) (c : Cuts) : Move :=
  ⟨c, .shift w.extent (w'.extent.minus w.extent), w.extent, w'.extent.minus w.extent, w'⟩

theorem Row.beyond {α : Type} [Renames α] {ρ : Renaming} {xs ys : Array α} (le : xs.size ≤ ys.size)
    (same : ∀ r, r < xs.size → ys[r]? = xs[r]?)
    (closed : ∀ r, xs[shifted xs.size (ys.size - xs.size) r]? = (xs[r]?).map ρ.on) :
    Row ρ (shifted xs.size (ys.size - xs.size)) xs.size (ys.size - xs.size) ys xs ys where
  cell r := by
    by_cases old : r < xs.size
    · have kept := closed r
      rw [shifted_of_lt _ old] at kept ⊢
      rw [same r old]
      exact kept
    · have new := Nat.not_lt.mp old
      rw [shifted_of_le _ new, Array.getElem?_eq_none new, Array.getElem?_eq_none (by omega)]
      rfl
  begun := le_rfl
  size := by omega
  other _ _ _ := rfl

/-- A cell that only the second run has keeps what it held. -/
theorem Row.spared {α : Type} [Renames α] {ρ : Renaming} {start size i : Nat} {others xs ys : Array α}
    (h : Row ρ (shifted start (size - start)) start (size - start) others xs ys) (new : start ≤ i) (low : i < size) :
    ys[i]? = others[i]? := by
  refine h.other i (by omega) fun (r : Nat) same => ?_
  rcases Nat.lt_or_ge r start with old | late
  · have : @Eq Nat r i := (shifted_of_lt _ old).symm.trans same
    omega
  · have : @Eq Nat (r + (size - start)) i := (shifted_of_le _ late).symm.trans same
    omega

section Beyond

variable {w w' : World} {c : Cuts}

theorem Grown.related (h : Grown w w') (closed : w.Closed)
    (depth : w'.depth = w.depth + c.gap) : (Move.beyond w w' c).Related w w' := by
  have fixed := closed _ (Renaming.fixes_shift w.extent (w'.extent.minus w.extent))
  exact
    { objects := .beyond h.extent.1 h.objects fixed.object
      frames := .beyond h.extent.2.1 h.frames fixed.frame
      contexts := .beyond h.extent.2.2.1 h.contexts fixed.context
      escapes := .beyond h.extent.2.2.2 h.escapes fixed.escape
      settings := h.settings
      registry := h.registry
      files := h.files
      templates := h.templates
      loaded := h.loaded
      modules := h.modules.trans fixed.modules
      mark := h.mark
      depth := depth
      events := h.events
      texts := h.texts
      digest := h.digest }

theorem Move.not_out_beyond (v : World) : ¬ (Move.beyond w w' c).Out v := by
  rintro (⟨r, begun, -, wrong⟩ | ⟨r, begun, -, wrong⟩ | ⟨r, begun, -, wrong⟩ | ⟨r, begun, -, wrong⟩) <;>
    exact wrong (shifted_of_le _ begun)

/-- What goes alike in worlds that agree goes alike in a world with further cells. -/
theorem Grown.matches {α β : Type} {f : α → β} {e : Eval α} {e' : Eval β} (h : Grown w w') (closed : w.Closed)
    (depth : w'.depth = w.depth + c.gap)
    (sim : (Move.beyond w w' c).agreement.Sim f e e') :
    (Move.beyond w w' c).coupling.Match f (outcome e w) (outcome e' w') :=
  (sim.ends w w' (h.related closed depth)).resolve_left (Move.not_out_beyond _)

end Beyond

end Stencil.Engine
