import Stencil.Proofs.Quoting
import Stencil.Proofs.Recency

/-!
# Texts that come out as they are

Where the first pass over a render block leaves a text without opening delimiters, the second pass changes nothing but
its line ends. Closing delimiters, quotes and single braces are text like any other, and neither the layout around tags
nor escaping has anything to work on.
-/

set_option autoImplicit false

namespace Stencil.Processor

open Engine Template Catalogue

def literal (c : Config) (s : String) : String :=
  let cs := Text.unifyLines s.toList
  String.ofList (if c.keepTrailingNewline then cs else Text.dropFinalNewline cs)

section Literal

variable {c : Config} {p : Processor} {k : Nat} {env : Env} {markup : String} {body : List Node} {w w₁ : World}
variable {text : Value} {vars : Table String Value} {source : String}

/-- A text without delimiters is rendered to itself, as the layout prepares it. -/
theorem yields_literal (ready : Ready c p) (clear : Clear source.toList) (w₂ : World) (name : String) (runs : p.Runs w₂)
    (room : w₂.HasRoom) : Yields w₂ ((interp (k + 2)).render name vars source) (· = literal c source) := by
  have prepared : String.ofList (w₂.settings.layout.prepare source.toList) = literal c source := by
    rw [runs.settings, ready.settings.2.2]
    rfl
  have can : w₂.CanHave name (String.ofList source.toList) := .inl room
  have rendered := yields_render_clear (k := k) runs.faithful can room.shallow (clear.prepare w₂.settings.layout) vars
  rwa [String.ofList_toList, prepared] at rendered

/-- Where the first pass over a render block gives a text without opening delimiters, the block writes this text with
line feeds for its line ends, less a last one unless those are kept. It then asks whether results are escaped, which has
an answer where that is settled by a truth value. -/
theorem render_literal {files : FileTree} {root : Option Path} (created : create c files root = .ok p) (installed : Installs c)
    (passed : Passed p k env markup body w w₁ text vars) (isText : textOf? text = some source)
    (plain : ∀ d ∈ openings, ¬ d <:+: source.toList) :
    ∃ w₂, Kept w₁ w₂ ∧
      outcome (run (interp (k + 3)) env (.tagBlock "render" markup body)) w =
        outcome (do
          let _ ← escapesNow (interp (k + 2)) env
          return .ofText (literal c source)) w₂ ∧
      ∀ b, Decided env w₁ b →
        outcome (run (interp (k + 3)) env (.tagBlock "render" markup body)) w = (.ok (.ofText (literal c source)), w₂) := by
  have ready := ready_of_create created installed
  obtain ⟨w₂, kept, ran⟩ := passed.outcome_run ready isText (yields_literal ready (clear_of_absent plain))
  exact ⟨w₂, kept, ran, fun b decided => ran.trans (outcome_bind_of (decided.kept kept).outcome_escapesNow)⟩

end Literal

theorem render_literal_braces : ∃ p w₁ w₂ vars, create { autoescape := true } {} none = .ok p ∧
    Passed p 3 topEnv "" ([.output [.fixed "\x7b\x7d%\x7d\r\n" none]] ++ [.collect]) (topWorld p.world "") w₁
      (.safe "\x7b\x7d%\x7d\r\n") vars ∧
    outcome (run (interp 6) topEnv (.tagBlock "render" "" ([.output [.fixed "\x7b\x7d%\x7d\r\n" none]] ++ [.collect])))
      (topWorld p.world "") = (.ok (.ofText "\x7b\x7d%\x7d\n"), w₂) := by
  obtain ⟨p, created⟩ := exists_escaping
  obtain ⟨vars, w₁, passed, decided⟩ := passed_fixed created "" "\x7b\x7d%\x7d\r\n"
  obtain ⟨w₂, -, -, written⟩ := render_literal created installs_escaping passed rfl (by decide)
  exact ⟨p, w₁, w₂, vars, created, passed, written true decided⟩

def deepLiteral : String :=
  "\x7b% macro m(n) %\x7d\x7b% if n %\x7d\x7b\x7b m(n - 1) \x7d\x7d\x7b% else %\x7d\x7b% render %\x7da\x7b% endrender %\x7d" ++
    "\x7b% endif %\x7d\x7b% endmacro %\x7d\x7b\x7b m(241) \x7d\x7dok"

section Deep

variable {p q : Processor} (created : create {} {} none = .ok p) (runs : p.Runs q.world)

include created runs

theorem outcome_deepLiteral : ∃ texts log, outcome (compileText "" deepLiteral) { q.world with depth := 0 } =
      (.ok (counterUnit true 241), { q.world with depth := 0, texts, log }) ∧
    { q.world with depth := 0, texts, log }.Faithful ∧ outcome (sourceText "" [] deepLiteral) { q.world with depth := 0 } =
      outcome (renderTemplate (interp plenty) (.text (counterUnit true 241)) .empty) { q.world with depth := 0, texts, log } := by
  have read : compiledText q.world.settings q.world.registry.listTags none none deepLiteral = .ok (counterUnit true 241) := by
    rw [runs.settings, runs.registry]
    exact compiledText_of_isCounter created (by decide +kernel)
  obtain ⟨texts, log, compiles, faithful, ran⟩ := outcome_sourceText (w := { q.world with depth := 0 })
    (runs.faithful.of_fields rfl rfl rfl) (room_of_level rfl) (show namedData? [] = some [] from rfl) (builds_nothing _) ""
    deepLiteral
  rw [read] at compiles ran
  exact ⟨texts, log, compiles, faithful, ran⟩

/-- A macro that calls itself so often leaves room for the first pass of the block only. -/
theorem renderText_deepLiteral_full
    (missing : ∀ w', outcome (compileText "" deepLiteral) { q.world with depth := 0 } = (.ok (counterUnit true 241), w') →
      w'.texts.find? "" "a" = none) :
    (q.renderText "" [] deepLiteral).1 = .error (.template (.mishap .tooDeep)) ∧
      firstPassed "render" "" "a" ∈ (q.renderText "" [] deepLiteral).2.log := by
  have ready := ready_of_create created installs_default
  obtain ⟨texts, log, compiles, -, ran⟩ := outcome_deepLiteral created runs
  obtain ⟨w', failed, logged⟩ := outcome_counterUnit_full (k := plenty - 730) (w := { q.world with depth := 0, texts, log }) rfl
    (runs.registry ▸ ready.found) (runs.registry ▸ ready.connected) (runs.settings ▸ ready.settings.1) 241 .empty
    (show 0 + 4 * (241 + 1) + 15 ≤ callLimit by decide) (show callLimit < 0 + 4 * (241 + 1) + 22 by decide)
    (missing _ compiles)
  unfold renderText
  rw [outcome_exec, ran.trans failed]
  exact ⟨rfl, logged⟩

/-- That is enough if the text of the block is kept. -/
theorem renderText_deepLiteral_kept
    (kept : ∀ w', outcome (compileText "" deepLiteral) { q.world with depth := 0 } = (.ok (counterUnit true 241), w') →
      (w'.texts.find? "" "a").isSome = true) : (q.renderText "" [] deepLiteral).1 = .ok "aok" := by
  have ready := ready_of_create created installs_default
  obtain ⟨texts, log, compiles, faithful, ran⟩ := outcome_deepLiteral created runs
  have counts := outcome_counterUnit_kept (k := plenty - 730) (w := { q.world with depth := 0, texts, log }) rfl
    (runs.registry ▸ ready.found) (runs.registry ▸ ready.connected) (runs.settings ▸ ready.settings.1) faithful 241 .empty
    (show 0 + 4 * (241 + 1) + 15 ≤ callLimit by decide) (kept _ compiles)
  have written : (outcome (sourceText "" [] deepLiteral) { q.world with depth := 0 }).1 = .ok "aok" := by
    rw [ran]
    exact counts
  unfold renderText
  rw [outcome_exec, written]
  rfl

end Deep

/-- Near the limit of calls there is room for the first pass only: it gives a text, and the block fails behind it. -/
theorem literal_without_room : ∃ p, create {} {} none = .ok p ∧
    (p.renderText "" [] deepLiteral).1 = .error (.template (.mishap .tooDeep)) ∧
    ⟨.debug, "First pass of 'render' in '<string>' produced 1 chars"⟩ ∈ (p.renderText "" [] deepLiteral).2.log := by
  obtain ⟨p, created⟩ := exists_default
  have ready := ready_of_create created installs_default
  have recent : Recent 400 numbering { p.world with depth := 0 } :=
    (recent_create created numbering).of_fields (by rw [digesting_create created]) rfl
  have blank : p.world.texts.asked = [] := by
    rw [texts_create created]
    rfl
  refine ⟨p, created, renderText_deepLiteral_full created ⟨rfl, rfl, ready.faithful⟩ fun w' compiles => ?_⟩
  rw [← Option.not_isSome_iff_eq_none, (recent.compiled compiles).kept_iff, asked_of_compileText compiles, blank]
  decide +kernel

end Stencil.Processor
