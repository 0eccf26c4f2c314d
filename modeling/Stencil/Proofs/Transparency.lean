import Stencil.Proofs.Literal

/-!
# What is kept and what is compiled

A processor answers every use as it would if every text were compiled when it is rendered. The one thing that keeping a
text spares is the room to compile it: a text that lies too deep for that can still be found.
-/

set_option autoImplicit false

namespace Stencil.Processor

open Engine Template Catalogue

/-- Whatever is done with a processor, plugins that are added on the way included: as long as a processor that compiles every
text when it is rendered is not too deep to do so, both give the same answers, and each single use after any others is
answered as it would be by one that keeps nothing from there on, unless that one is too deep. -/
theorem answers_eq_keepingNone {c : Config} {files : FileTree} {root : Option Path} {p : Processor}
    (made : create c files root = .ok p ∨ bare c files root = .ok p) :
    (∀ uses, .error (.template (.mishap .tooDeep)) ∉ p.keepingNone.answers uses →
      p.answers uses = p.keepingNone.answers uses) ∧
    ∀ before u, ((p.after before).use u).1 = ((p.after before).keepingNone.use u).1 ∨
      ((p.after before).keepingNone.use u).1 = some (.error (.template (.mishap .tooDeep))) := by
  have faithful : p.world.Faithful := by
    rcases made with created | bare
    · exact .of_empty (texts_create created)
    · exact .of_empty (texts_bare bare)
  refine ⟨fun uses room => answers_afresh uses (afresh_keepingNone faithful) room, fun before u => ?_⟩
  exact (use_afresh u (afresh_keepingNone (faithful_after faithful before))).imp_left And.left

def keptUses : List Use :=
  [.text "" [] "a", .startUp, .text "" [] "\x7b% render %\x7da\x7b% endrender %\x7d", .text "" [] "a"]

/-- The text of the block is kept from the first use on, and the last use finds it again. -/
theorem answers_eq_keepingNone_letter : ∃ p, create {} {} none = .ok p ∧
    .error (.template (.mishap .tooDeep)) ∉ p.keepingNone.answers keptUses ∧
    p.answers keptUses = p.keepingNone.answers keptUses := by
  obtain ⟨p, created, shown⟩ := exists_created (f := fun p => (p.keepingNone.answers keptUses).map Except.toOption)
    (show (create {} {} none).toOption.map _ = some [some "a", some "a", some "a"] by decide +kernel)
  have room : .error (.template (.mishap .tooDeep)) ∉ p.keepingNone.answers keptUses := by
    intro deep
    have none_shown := List.mem_map_of_mem (f := Except.toOption) deep
    rw [shown] at none_shown
    exact absurd none_shown (by decide)
  exact ⟨p, created, room, (answers_eq_keepingNone (.inl created)).1 keptUses room⟩

section Letter

variable {p : Processor}

/-- Once it is rendered, a letter is the one text that was asked for, also where it is not kept. -/
theorem letter_asked (created : create {} {} none = .ok p) :
    (p.renderText "" [] "a").1 = .ok "a" ∧ (p.renderText "" [] "a").2.world.texts.asked = [("", "a")] ∧
      (p.keepingNone.renderText "" [] "a").1 = .ok "a" := by
  have shown : ((create {} {} none).toOption.map fun p => ((p.renderText "" [] "a").1.toOption,
      (p.renderText "" [] "a").2.world.texts.asked, (p.keepingNone.renderText "" [] "a").1.toOption)) =
      some (some "a", [("", "a")], some "a") := by decide +kernel
  have shown := eq_of_created created shown
  obtain ⟨first, rest⟩ := Prod.mk.inj shown
  obtain ⟨asked, second⟩ := Prod.mk.inj rest
  exact ⟨eq_ok_of_toOption first, asked, eq_ok_of_toOption second⟩

/-- Then a text is found that lies too deep to be compiled. -/
theorem deepLiteral_kept (created : create {} {} none = .ok p) :
    ((p.renderText "" [] "a").2.renderText "" [] deepLiteral).1 = .ok "aok" := by
  have ready := ready_of_create created installs_default
  obtain ⟨-, asked, -⟩ := letter_asked created
  have runs : p.Runs (p.renderText "" [] "a").2.world := runs_use (u := .text "" [] "a") ⟨rfl, rfl, ready.faithful⟩ rfl
  have recent : Recent 400 numbering (p.renderText "" [] "a").2.world :=
    recent_use (q := p) (digesting_create created ▸ recent_create created numbering) (.text "" [] "a")
  generalize (p.renderText "" [] "a").2 = q at asked runs recent
  have start : Recent 400 numbering { q.world with depth := 0 } := recent.of_fields rfl rfl
  refine renderText_deepLiteral_kept created runs fun w' compiles => ?_
  rw [(start.compiled compiles).kept_iff, asked_of_compileText compiles,
    show ({ q.world with depth := 0 } : World).texts.asked = _ from asked]
  decide +kernel

end Letter

/-- A text that was rendered before is found where there is no room to compile it. -/
theorem kept_text_needs_no_room : ∃ p, create {} {} none = .ok p ∧
    p.answers [.text "" [] "a", .text "" [] deepLiteral] = [.ok "a", .ok "aok"] ∧
    p.keepingNone.answers [.text "" [] "a", .text "" [] deepLiteral] =
      [.ok "a", .error (.template (.mishap .tooDeep))] := by
  obtain ⟨p, created⟩ := exists_default
  have ready := ready_of_create created installs_default
  obtain ⟨first, -, second⟩ := letter_asked created
  have begun : p.Runs p.keepingNone.world := ⟨rfl, rfl, .of_empty rfl⟩
  have runs : p.Runs (p.keepingNone.renderText "" [] "a").2.world := runs_use (u := .text "" [] "a") begun rfl
  have forgets : (p.keepingNone.renderText "" [] "a").2.world.KeepsNone := by
    rcases use_afresh (.text "" [] "a") (afresh_keepingNone ready.faithful) with ⟨-, related⟩ | deep
    · exact related.2.1
    · cases (congrArg some second).symm.trans deep
  have afresh := renderText_deepLiteral_full created runs fun w' compiles =>
    (World.KeepsNone.compiled (w := { (p.keepingNone.renderText "" [] "a").2.world with depth := 0 }) forgets compiles).1.missing "" "a"
  refine ⟨p, created, ?_, ?_⟩
  · show (p.renderText "" [] "a").1 :: ((p.renderText "" [] "a").2.renderText "" [] deepLiteral).1 :: [] = _
    rw [first, deepLiteral_kept created]
  · show (p.keepingNone.renderText "" [] "a").1 ::
      ((p.keepingNone.renderText "" [] "a").2.renderText "" [] deepLiteral).1 :: [] = _
    rw [second, afresh.1]

end Stencil.Processor
