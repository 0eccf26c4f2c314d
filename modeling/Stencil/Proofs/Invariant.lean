import Stencil.Proofs.Parallel

/-!
# Invariants of runs

What holds of a world and is kept by every single change holds of the world that any run leaves, whether the run ends
with a result or with a fault.
-/

set_option autoImplicit false

namespace Stencil.Engine

open Stencil.Template

structure Invariant where
  holds : World → Prop
  -- the frames and contexts that may be written
  frames : Ref → Prop := fun _ => True
  contexts : Ref → Prop := fun _ => True
  -- the tags that may be used
  tags : Tag → Prop := fun _ => True
  -- the faults that may occur
  raised : Fault → Prop := fun _ => True
  newest_frame : ∀ {w : World}, holds w → frames w.frames.size
  newest_context : ∀ {w : World}, holds w → contexts w.contexts.size
  plain : ∀ {x : Fault}, x.isPlain = true → raised x
  kept : ∀ {w w' : World}, Change frames contexts w w' → holds w → holds w'

class Invariant.Complete (J : Invariant) : Prop where
  found_tag : ∀ {w : World} {id : String} {tag : Tag}, J.holds w → w.registry.getTag? id = some tag → J.tags tag
  unconnected : ∀ {w : World} {tag : Tag}, J.holds w → J.tags tag → w.registry.connected.contains tag.owner = false →
    J.raised .unconnected
  uncompiled : ∀ {settings : Settings} {tags : List String} {name file : Option String} {source : String} {x : Fault},
    compiledText settings tags name file source = .error x → J.raised x

namespace Invariant

/-- Every tag and every fault may be allowed. -/
theorem Complete.of_all {J : Invariant} (tags : ∀ tag, J.tags tag) (raised : ∀ x, J.raised x) : J.Complete where
  found_tag _ _ := tags _
  unconnected _ _ _ := raised _
  uncompiled _ := raised _

def everywhere (holds : World → Prop) (tags : Tag → Prop) (raised : Fault → Prop)
    (plain : ∀ {x : Fault}, x.isPlain = true → raised x)
    (kept : ∀ {w w' : World}, Change (fun _ => True) (fun _ => True) w w' → holds w → holds w') : Invariant where
  holds
  tags
  raised
  newest_frame _ := trivial
  newest_context _ := trivial
  plain
  kept

variable (J : Invariant)

def parallel : Parallel where
  rel w w' := w' = w ∧ J.holds w
  frames := J.frames
  contexts := J.contexts
  tags := J.tags
  raised := J.raised
  alike := by
    rintro w w' ⟨rfl, -⟩
    exact ⟨w'.texts, w'.log, rfl⟩
  newest_frame h := J.newest_frame h.2
  newest_context h := J.newest_context h.2
  plain := J.plain
  kept := by
    rintro w w' u change - ⟨rfl, hw⟩
    exact ⟨rfl, J.kept (change w') hw⟩

def agreement : Agreement := J.parallel.agreement

theorem sim_compileText [J.Complete] (name source : String) :
    J.parallel.coupling.quiet.Sim id (compileText name source) (compileText name source) := by
  refine ⟨fun _ => id, fun w w' hr => .inr ?_, Coupling.level_of fun _ _ _ => depth_of_compileText⟩
  obtain ⟨rfl, hw⟩ := hr
  rcases run : outcome (compileText name source) w' with ⟨x | c, w₁⟩
  · obtain ⟨failed, rfl⟩ := eq_of_compileText_error run
    have raised : J.raised x := by
      rcases World.compiled_eq_error failed with uncompiled | rfl
      · exact Complete.uncompiled uncompiled
      · exact J.plain rfl
    exact .inl ⟨rfl, .inl ⟨raised, rfl, hw⟩⟩
  · obtain ⟨texts, log, rfl⟩ := World.eq_of_compiled (compiled_of_compileText run)
    exact ⟨rfl, rfl, J.kept (.compiled w' texts log name source c run) hw⟩

theorem holds_of_known {w : World} (known : J.agreement.out w ∨ ∃ w', J.agreement.rel w w') : J.holds w := by
  obtain ⟨_, _, hw⟩ := J.parallel.known known
  exact hw

instance [J.Complete] : J.agreement.Complete where
  found_tag known := Complete.found_tag (J.holds_of_known known)
  unconnected known := Complete.unconnected (J.holds_of_known known)
  uncompiled := Complete.uncompiled (J := J)
  compile_text := J.sim_compileText

variable {J}

/-- A run that every agreement describes leaves a world of which the invariant holds. -/
theorem after {α β : Type} {f : α → β} {e : Eval α} {e' : Eval β} (he : J.agreement.Follows f e e') {w : World}
    (hw : J.holds w) :
    J.holds (outcome e w).2 := by
  have ends := (he.ends w w ⟨rfl, hw⟩).resolve_left id
  revert ends
  rcases outcome e w with ⟨x | a, w₁⟩ <;> rcases outcome e' w with ⟨y | b, w₂⟩ <;> intro ends
  · obtain ⟨-, ⟨-, -, hw₁⟩ | ⟨never, -⟩⟩ := Or.resolve_right ends id
    · exact hw₁
    · exact never.elim
  · exact False.elim ends
  · exact False.elim ends
  · exact ends.2.2

/-- A run that has a result has left the calls that it began. -/
theorem depth_of_ok {α β : Type} {f : α → β} {e : Eval α} {e' : Eval β} (he : J.agreement.Sim f e e') {w w₁ : World} {a : α}
    (hw : J.holds w) (run : outcome e w = (.ok a, w₁)) : w₁.depth = w.depth := by
  have ends := (he.ends w w ⟨rfl, hw⟩).resolve_left id
  rw [run] at ends
  revert ends
  rcases run' : outcome e' w with ⟨y | b, w₂⟩ <;> intro ends
  · exact False.elim ends
  · exact (he.level w w ⟨rfl, hw⟩ a w₁ b w₂ run run').resolve_left id

/-- The fault that a run ends with is one that may occur. -/
theorem raised_of_error {α β : Type} {f : α → β} {e : Eval α} {e' : Eval β} (he : J.agreement.Sim f e e') {w : World}
    (hw : J.holds w) {x : Fault} (failed : (outcome e w).1 = .error x) : J.raised x := by
  have ends := (he.ends w w ⟨rfl, hw⟩).resolve_left id
  revert ends failed
  rcases outcome e w with ⟨y | a, w₁⟩ <;> rcases outcome e' w with ⟨z | b, w₂⟩ <;> intro failed ends
  · cases failed
    obtain ⟨-, ⟨raised, -⟩ | ⟨never, -⟩⟩ := Or.resolve_right ends id
    · exact raised
    · exact never.elim
  · exact False.elim ends
  · cases failed
  · cases failed

end Invariant

end Stencil.Engine
