import Stencil.Proofs.Escaping
import Stencil.Proofs.Moving

/-!
# What a block leaves behind

The body of a block tag and the text of its second pass run in frames and contexts of their own, so no variable around
the block changes. What lasts longer than a frame can change: an iterator that is read inside the block has fewer items
left behind it, and the module of a template that is imported for the first time is kept. Where nothing of that kind
happens, whatever comes after the block goes on as if the text of the block had stood in its place.
-/

set_option autoImplicit false

namespace Stencil.Engine

open Stencil.Template

/-! ## Places -/

structure Stands (env : Env) (w : World) : Prop where
  closed : w.Closed
  faithful : w.Faithful
  fixed : ∀ σ : Renaming, σ.Fixes w.extent → σ.on env = env

section Rooted

variable {env : Env} {w : World}

theorem Stands.rooted_nodes (h : Stands env w) (n : Nat) (nodes : List Node) : Rooted w ((interp n).nodes env nodes) := by
  intro A _ fixes frames contexts
  have same := (Agreement.aligned_interp (A := A) n).nodes env nodes ⟨frames env.frame, fun _ => contexts env.context⟩
  rwa [h.fixed A.names fixes] at same

theorem Stands.rooted_run (h : Stands env w) (n : Nat) (node : Node) : Rooted w (run (interp n) env node) := by
  intro A _ fixes frames contexts
  have writes : A.Writes env := ⟨frames env.frame, fun _ => contexts env.context⟩
  have same := Agreement.sim_run (Agreement.aligned_interp (A := A) n) writes node
  rwa [h.fixed A.names fixes] at same

/-- The turns that are left of a loop around the place. -/
theorem Stands.rooted_turns (h : Stands env w) (n : Nat) (counted : Bool) {source : Ref} (there : source < w.objects.size)
    (target : Target) (body : List Node) (turns : Nat) (out : Output) :
    Rooted w ((interp n).turns env counted source target body turns out) := by
  intro A _ fixes frames contexts
  have same := (Agreement.aligned_interp (A := A) n).turns env counted source target body turns out
    ⟨frames env.frame, fun _ => contexts env.context⟩
  rwa [h.fixed A.names fixes, fixes.object source there] at same

theorem Rooted.bind {α β : Type} [Renames α] [Renames β] {e : Eval α} {k : α → Eval β} (he : Rooted w e)
    (inert : ∀ (σ : Renaming) (a : α), σ.on a = a) (hk : ∀ a, Rooted w (k a)) : Rooted w (e >>= k) := by
  intro A _ fixes frames contexts
  refine (he A fixes frames contexts).bind fun a => ?_
  rw [inert]
  exact hk a A fixes frames contexts

end Rooted

/-! ## What is spared -/

section Change

variable {frames contexts : Ref → Prop} {w w' : World}

theorem Change.anywhere (h : Change frames contexts w w') : Change (fun _ => True) (fun _ => True) w w' := by
  cases h with
  | object o => exact .object w o
  | frame f => exact .frame w f
  | context c => exact .context w c
  | escape v => exact .escape w v
  | template c => exact .template w c
  | writeObject r u => exact .writeObject w r u
  | writeFrame r u => exact .writeFrame w r u trivial
  | writeContext r u => exact .writeContext w r u trivial
  | writeEscape r v => exact .writeEscape w r v
  | loaded l => exact .loaded w l
  | module t r => exact .module w t r
  | mark n => exact .mark w n
  | depth n => exact .depth w n
  | log line other => exact .log w line other
  | events e => exact .events w e
  | compiled texts log name source c run => exact .compiled w texts log name source c run

/-- A frame that may not be written stays as it is. -/
theorem Change.frame_kept (h : Change frames contexts w w') {r : Ref} (there : r < w.frames.size) (spared : ¬ frames r) :
    w'.frames[r]? = w.frames[r]? := by
  cases h with
  | frame f => exact Array.getElem?_push_lt .. |>.trans (Array.getElem?_eq_getElem there).symm
  | writeFrame q u writes =>
    have apart : q ≠ r := fun same => spared (same ▸ writes)
    exact (Array.getElem?_modify ..).trans (if_neg apart)
  | _ => rfl

/-- So does a context. -/
theorem Change.context_kept (h : Change frames contexts w w') {r : Ref} (there : r < w.contexts.size) (spared : ¬ contexts r) :
    w'.contexts[r]? = w.contexts[r]? := by
  cases h with
  | context c => exact Array.getElem?_push_lt .. |>.trans (Array.getElem?_eq_getElem there).symm
  | writeContext q u writes =>
    have apart : q ≠ r := fun same => spared (same ▸ writes)
    exact (Array.getElem?_modify ..).trans (if_neg apart)
  | _ => rfl

end Change

structure Spared (w v : World) : Prop where
  frames : ∀ r, r < w.frames.size → v.frames[r]? = w.frames[r]?
  contexts : ∀ r, r < w.contexts.size → v.contexts[r]? = w.contexts[r]?
  extent : w.extent ≤ v.extent
  settings : v.settings = w.settings
  registry : v.registry = w.registry
  files : v.files = w.files
  faithful : w.Faithful → v.Faithful

theorem Spared.refl (w : World) : Spared w w :=
  ⟨fun _ _ => rfl, fun _ _ => rfl, ⟨le_rfl, le_rfl, le_rfl, le_rfl⟩, rfl, rfl, rfl, id⟩

theorem Spared.change {w v v' : World} (h : Spared w v)
    (change : Change (w.frames.size ≤ ·) (w.contexts.size ≤ ·) v v') : Spared w v' := by
  obtain ⟨settings, registry, files⟩ := change.fields
  refine
    { frames := fun r there => ?_
      contexts := fun r there => ?_
      extent := (growing w.extent).kept change.anywhere h.extent
      settings := settings.trans h.settings
      registry := registry.trans h.registry
      files := files.trans h.files
      faithful := fun faithful => change.faithful (h.faithful faithful) }
  · have old : r < v.frames.size := Nat.lt_of_lt_of_le there h.extent.2.1
    exact (change.frame_kept old (Nat.not_le.mpr there)).trans (h.frames r there)
  · have old : r < v.contexts.size := Nat.lt_of_lt_of_le there h.extent.2.2.1
    exact (change.context_kept old (Nat.not_le.mpr there)).trans (h.contexts r there)

def surrounding (w : World) : Invariant where
  holds := Spared w
  frames r := w.frames.size ≤ r
  contexts r := w.contexts.size ≤ r
  newest_frame h := h.extent.2.1
  newest_context h := h.extent.2.2.1
  plain _ := trivial
  kept change h := h.change change

instance (w : World) : (surrounding w).Complete := .of_all (fun _ => trivial) fun _ => trivial

/-! ## What a block writes -/

/-- Two passes give a text. -/
theorem text_of_renderTwice {I : Interp} {call : TagCall} {vars : Table String Value} {w w₁ : World} {v : Value}
    (run : outcome (call.renderTwice I vars) w = (.ok v, w₁)) : ∃ text, v = .text text := by
  have passes : ∃ w, outcome (call.bothPasses I vars) w = (.ok v, w₁) := by
    unfold TagCall.renderTwice at run
    split at run
    · obtain ⟨_, w₀, -, behind⟩ := Coupling.outcome_bind_eq_ok run
      exact ⟨w₀, behind⟩
    · exact ⟨w, run⟩
  obtain ⟨w₀, both⟩ := passes
  unfold TagCall.bothPasses at both
  obtain ⟨⟨text, vars⟩, _, -, sized⟩ := Coupling.outcome_bind_eq_ok both
  obtain ⟨_, _, -, noted⟩ := Coupling.outcome_bind_eq_ok sized
  obtain ⟨_, _, -, connected⟩ := Coupling.outcome_bind_eq_ok noted
  obtain ⟨_, _, -, again⟩ := Coupling.outcome_bind_eq_ok connected
  obtain ⟨given, _, -, ends⟩ := Coupling.outcome_bind_eq_ok again
  cases ends
  exact ⟨given, rfl⟩

theorem result_of_deeper {α : Type} {amount : Nat} {e : Eval α} {w w₁ : World} {a : α}
    (run : outcome (deeper amount e) w = (.ok a, w₁)) : ∃ v v₁, outcome e v = (.ok a, v₁) := by
  unfold deeper at run
  obtain ⟨outer, _, -, inside⟩ := Coupling.outcome_bind_eq_ok run
  by_cases deep : callLimit < outer + amount
  · rw [if_pos deep] at inside
    cases inside
  · rw [if_neg deep] at inside
    obtain ⟨_, v, -, lower⟩ := Coupling.outcome_bind_eq_ok inside
    obtain ⟨b, v₁, ran, back⟩ := Coupling.outcome_bind_eq_ok lower
    obtain ⟨_, _, -, given⟩ := Coupling.outcome_bind_eq_ok back
    cases given
    exact ⟨v, v₁, ran⟩

section Block

variable {n : Nat} {env : Env} {tag : Tag} {id markup : String} {body : List Node} {w w' : World} {out : Output}

theorem text_of_runTag {I : Interp} (twice : tag.action = .renderTwice)
    (gave : outcome (runTag I env tag markup body) w = (.ok out, w')) : ∃ text, out = .ofText text := by
  unfold runTag at gave
  obtain ⟨_, _, -, gave⟩ := Coupling.outcome_bind_eq_ok gave
  obtain ⟨vars, _, -, gave⟩ := Coupling.outcome_bind_eq_ok gave
  obtain ⟨_, _, -, gave⟩ := Coupling.outcome_bind_eq_ok gave
  obtain ⟨result, _, ran, gave⟩ := Coupling.outcome_bind_eq_ok gave
  obtain ⟨escapes, _, -, gave⟩ := Coupling.outcome_bind_eq_ok gave
  obtain ⟨_, _, passes⟩ := result_of_deeper ran
  unfold TagCall.run at passes
  rw [twice] at passes
  obtain ⟨text, rfl⟩ := text_of_renderTwice passes
  cases escapes with
  | true =>
    obtain ⟨shown, _, -, ends⟩ := Coupling.outcome_bind_eq_ok gave
    cases ends
    exact ⟨shown, rfl⟩
  | false =>
    cases gave
    exact ⟨text, rfl⟩

theorem tag_of_tagBlock (gave : outcome (run (interp n) env (.tagBlock id markup body)) w = (.ok out, w')) :
    ∃ tag, w.registry.getTag? id = some tag ∧ outcome ((interp n).tag env tag markup body) w = (.ok out, w') := by
  unfold run at gave
  rw [outcome_bind, show outcome currentRegistry w = (.ok w.registry, w) from rfl] at gave
  dsimp only at gave
  cases found : w.registry.getTag? id with
  | none =>
    rw [found] at gave
    cases gave
  | some tag =>
    rw [found] at gave
    exact ⟨tag, rfl, gave⟩

/-- No frame and no context around a block changes. -/
theorem spared_of_tag (gave : outcome ((interp n).tag env tag markup body) w = (.ok out, w')) : Spared w w' := by
  have same := (Agreement.aligned_interp (A := (surrounding w).agreement) n).tag env tag markup body trivial
  have ends := Invariant.after same.follows (Spared.refl w)
  rwa [gave] at ends

theorem depth_of_tag (gave : outcome ((interp n).tag env tag markup body) w = (.ok out, w')) : w'.depth = w.depth :=
  Invariant.depth_of_ok ((Agreement.aligned_interp (A := (surrounding w).agreement) n).tag env tag markup body trivial)
    (Spared.refl w) gave

/-- The place of a block is a place in the world that the block leaves. -/
theorem Stands.behind {node : Node} (h : Stands env w) (spared : Spared w w')
    (gave : outcome (run (interp n) env node) w = (.ok out, w')) : Stands env w' where
  closed := by
    have ends := (h.rooted_run n node).closed h.closed
    rwa [gave] at ends
  faithful := spared.faithful h.faithful
  fixed σ fixes := h.fixed σ (fixes.mono spared.extent)

end Block

/-! ## What comes after a block -/

structure Untouched (w w' : World) : Prop where
  objects : ∀ r, r < w.objects.size → w'.objects[r]? = w.objects[r]?
  escapes : ∀ r, r < w.escapes.size → w'.escapes[r]? = w.escapes[r]?
  modules : w'.modules = w.modules

def World.noting (w w' : World) : World :=
  { w with
    templates := w'.templates
    loaded := w'.loaded
    texts := w'.texts
    mark := w'.mark
    log := w'.log
    events := w'.events }

theorem grown_noting {w w' : World} (spared : Spared w w') (untouched : Untouched w w') : Grown (w.noting w') w' where
  objects := untouched.objects
  frames := spared.frames
  contexts := spared.contexts
  escapes := untouched.escapes
  extent := spared.extent
  settings := spared.settings
  registry := spared.registry
  files := spared.files
  templates := rfl
  loaded := rfl
  modules := untouched.modules
  mark := rfl
  events := rfl
  texts := rfl
  digest := rfl

/-- What goes on in a world with further cells ends as it would have ended without them. -/
theorem Rooted.ends_alike {α : Type} [Inert α] {w w' : World} {rest : Eval α} (rooted : Rooted w rest) (closed : w.Closed)
    (grown : Grown w w') (depth : w'.depth = w.depth) :
    (outcome rest w').1 = (outcome rest w).1 := by
  have same := rooted (Move.beyond w w' .none).agreement (Renaming.fixes_shift _ _) (fun _ => trivial) fun _ => trivial
  have ends := grown.matches (c := .none) closed depth same
  revert ends
  rcases outcome rest w with ⟨x | a, v⟩ <;> rcases outcome rest w' with ⟨y | b, v'⟩ <;> intro ends
  · rcases ends with ⟨rfl, -⟩ | never
    · rfl
    · exact never.elim
  · exact ends.elim
  · exact ends.elim
  · obtain ⟨rfl, -⟩ := ends
    exact congrArg Except.ok (Renaming.on_inert _ a)

/-- A block that renders twice writes a text. It changes no variable around it and lies as deep in its calls afterwards
as before. If it also leaves alone what lasts longer than variables, then whatever is left to do goes on as if the text
had been written in the world before the block. -/
theorem block_leaves_surroundings {n : Nat} {env : Env} {id markup : String} {body : List Node} {tag : Tag} {w w' : World}
    {out : Output} (stands : Stands env w) (found : w.registry.getTag? id = some tag) (twice : tag.action = .renderTwice)
    (gave : outcome (run (interp n) env (.tagBlock id markup body)) w = (.ok out, w')) :
    ∃ text, out = .ofText text ∧ Stands env w' ∧ w'.depth = w.depth ∧
      (∀ r, r < w.frames.size → w'.frames[r]? = w.frames[r]?) ∧
      (∀ r, r < w.contexts.size → w'.contexts[r]? = w.contexts[r]?) ∧
      (Untouched w w' → ∀ rest : Output → Eval Output, Rooted w (rest (.ofText text)) →
        (outcome (rest (.ofText text)) w').1 = (outcome (rest (.ofText text)) (w.noting w')).1) := by
  obtain ⟨used, found', gave'⟩ := tag_of_tagBlock gave
  obtain rfl : used = tag := Option.some.inj (found'.symm.trans found)
  have spared := spared_of_tag gave'
  have depth := depth_of_tag gave'
  obtain ⟨text, rfl⟩ : ∃ text, out = .ofText text := by
    cases n with
    | zero => cases gave'
    | succ n => exact text_of_runTag twice gave'
  refine ⟨text, rfl, stands.behind spared gave, depth, spared.frames, spared.contexts, fun untouched rest rooted => ?_⟩
  have closed : (w.noting w').Closed := stands.closed.of_fields rfl rfl rfl rfl rfl
  exact Rooted.ends_alike (w := w.noting w') rooted closed (grown_noting spared untouched) depth

def turnsLeft (n : Nat) (env : Env) (behind : List Node) (counted : Bool) (source : Ref) (target : Target) (body : List Node)
    (turns : Nat) (out : Output) : Eval Output := do
  let written ← (interp n).nodes env behind
  let ends ← (interp n).turns env counted source target body turns (out ++ written)
  return ends.1

/-- So the statements behind a block, and the turns that are left of a loop around it, find what they would have found
without the block. -/
theorem block_leaves_turns {n k : Nat} {env : Env} {id markup : String} {body : List Node} {tag : Tag} {w w' : World}
    {out : Output} (stands : Stands env w) (found : w.registry.getTag? id = some tag) (twice : tag.action = .renderTwice)
    (gave : outcome (run (interp n) env (.tagBlock id markup body)) w = (.ok out, w')) (untouched : Untouched w w')
    (behind : List Node) (counted : Bool) {source : Ref} (there : source < w.objects.size) (target : Target)
    (around : List Node) (turns : Nat) :
    (outcome (turnsLeft k env behind counted source target around turns out) w').1 =
      (outcome (turnsLeft k env behind counted source target around turns out) (w.noting w')).1 := by
  obtain ⟨text, rfl, -, -, -, -, goesOn⟩ := block_leaves_surroundings stands found twice gave
  refine goesOn untouched (turnsLeft k env behind counted source target around turns) ?_
  refine (stands.rooted_nodes k behind).bind (fun _ _ => rfl) fun written => ?_
  exact (stands.rooted_turns k counted there target around turns _).bind (fun _ _ => rfl) fun _ _ _ _ _ _ => .ret rfl

end Stencil.Engine

namespace Stencil.Processor

def rendersTo (source : String) : Option (Option String) :=
  (create {} {} none).toOption.map fun p => (p.renderText "" [(.text "xs", .list [.text "a", .text "b"])] source).1.toOption

/-- What a block takes from an iterator is missing behind it. -/
example : rendersTo
    "\x7b% set g = xs|map('upper') %\x7d\x7b% render %\x7d\x7b\x7b g|list \x7d\x7d\x7b% endrender %\x7d\x7b\x7b g|list \x7d\x7d" =
      some (some "['A', 'B'][]") := by
  decide +kernel

end Stencil.Processor
