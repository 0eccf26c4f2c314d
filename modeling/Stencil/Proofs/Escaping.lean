import Stencil.Proofs.Bracket.Compiling
import Stencil.Proofs.Setup

/-!
# Values in render blocks are escaped once

Where results are escaped, a value that render blocks write is escaped when it is first written, and never again: the
passes over it find text that is not touched, and what a block gives counts as safe. Lines may only be indented so
deep, so that no more than 97 blocks can stand in each other, and every text with more of them fails.
-/

set_option autoImplicit false

namespace Stencil.Processor

open Engine Template Catalogue

section Nested

variable {c : Config} {p : Processor} {w : World}

theorem rendering_of_runs (ready : Ready c p) (escapes : c.autoescape = true) (keeps : c.keepTrailingNewline = true)
    (runs : p.Runs w) : Rendering renderTag w where
  twice := rfl
  faithful := runs.faithful
  escapes := by rw [runs.settings, ready.settings.1, escapes]
  keeps := by rw [runs.settings, ready.settings.2.2, layoutOf, keeps]
  found := by rw [runs.registry, ready.found]
  connected := by rw [runs.registry, ready.connected]

/-- The statements of a text that consists of blocks. -/
theorem shows_nested {vars : Table String Value} {v : String} (escapes : w.settings.escape = true)
    (known : (globals.update vars).find? "x" = some (.text v)) (n : Nat) (f : Frame) :
    Shows (textEnv w ⟨none, none, nestedTree (n + 1), [], false⟩)
      ((w.withText ⟨none, none, nestedTree (n + 1), [], false⟩ vars).withFrame f) v where
  escapes := by
    show EscapeMode.mk w.settings.escape false = _
    rw [escapes]
  fitting := by
    show Fitting (Scopes.unit ["self"] (nestedTree (n + 1)))
    rw [unit_nested]
    exact ⟨rfl, rfl⟩
  decided := by
    refine ⟨_, w.escapes.size, context_withText, rfl, ?_⟩
    show (w.escapes.push (.bool w.settings.escape))[w.escapes.size]? = _
    rw [Array.getElem?_push_size, escapes]
  known := ⟨_, context_withText, known⟩

theorem mem_listTags {r : Registry} {id : String} {tag : Tag} (h : r.getTag? id = some tag) : id ∈ r.listTags := by
  rw [Registry.listTags, List.mem_mergeSort]
  exact Table.mem_keys_of_find? h

theorem yields_sourceText_nested {named : List (String × Data)} {vars : List (Data × Data)} {v : String} {n : Nat}
    (rendering : Rendering renderTag w) (level : w.depth = 0) (few : n + 1 ≤ 97) (names : namedData? vars = some named)
    (bound : (Table.ofList named).find? "x" = some (.text v))
    (clear : Clear (Text.unifyLines (Text.htmlEscape v).toList)) (name : String) :
    Yields w (sourceText name vars (String.ofList (nestedText (n + 1))))
      (· = String.ofList (Text.unifyLines (Text.htmlEscape v).toList)) := by
  have limit : Parse.depthLimit = 980 := rfl
  have compiled := compiledText_nested w.settings (mem_listTags rendering.found) (Nat.succ_pos n) (by omega)
  rw [if_neg (Nat.not_lt.mpr few)] at compiled
  have room : w.HasRoom := by
    show w.depth + 17 ≤ 985
    omega
  refine (yields_compileText rendering.faithful (.inl room) compiled).bind fun code w₁ same kept level₁ => ?_
  rw [same]
  unfold renderWith
  rw [names]
  refine (Yields.ret (Q := (· = named)) rfl).bind fun _ w₂ same kept₂ level₂ => ?_
  rw [same]
  refine (builds_thawNamed w₂.objects named).yields.bind fun given w₃ alive kept₃ level₃ => ?_
  have now := rendering.kept (kept.trans (kept₂.trans kept₃))
  obtain ⟨k, enough⟩ : ∃ k, plenty = (3 * n + k + 3) + 1 :=
    ⟨plenty - (3 * n + 4), by
      have : plenty = 1000000000000 := rfl
      omega⟩
  have own : ∀ w, (textEnv w ⟨none, none, nestedTree (n + 1), [], false⟩).ownNames = [("loop", Origin.resolve)] := by
    intro w
    unfold Env.ownNames textEnv
    rw [unit_nested]
  rw [enough]
  have lower : w₃.depth + 8 * n + 22 ≤ callLimit := by
    have : callLimit = 985 := rfl
    omega
  exact yields_renderTemplate (some "loop") (isFree_self_nested _) (own w₃) (yields_single
    (yields_nested clear n (now.kept (kept_withText.trans (.frame _ _))) (shows_nested now.escapes (alive "x" v bound) n _)
      lower))

/-- With more than 97 blocks nothing is rendered. -/
theorem renderText_nested_beyond {p q : Processor} (ready : Ready c p) (runs : p.Runs q.world) {n : Nat} (many : 98 ≤ n)
    (name : String) (vars : List (Data × Data)) :
    ∃ m, (q.renderText name vars (String.ofList (nestedText n))).1 = .error (.template (.mishap m)) ∧
      m ∈ [Mishap.badIndentation, Mishap.tooDeep] ∧ (n ≤ 150 → m = .badIndentation) := by
  let v : World := { q.world with depth := 0 }
  have found : v.registry.getTag? "render" = some renderTag := by
    show q.world.registry.getTag? "render" = _
    rw [runs.registry, ready.found]
  have failed := compiledText_nested_beyond v.settings (mem_listTags found) many
  have faithful : v.Faithful := runs.faithful.of_fields rfl rfl rfl
  have refused : outcome (sourceText name vars (String.ofList (nestedText n))) v =
      (.error (.mishap (if 4 * n + 11 ≤ Parse.depthLimit then .badIndentation else .tooDeep)), v) := by
    unfold sourceText
    rw [outcome_bind, outcome_compileText_uncompiled faithful failed]
  refine ⟨if 4 * n + 11 ≤ Parse.depthLimit then .badIndentation else .tooDeep, ?_, ?_, fun few => if_pos ?_⟩
  · unfold renderText
    rw [outcome_exec, refused]
    rfl
  · split <;> decide
  · have limit : Parse.depthLimit = 980 := rfl
    omega

end Nested

/-! ## Escaping -/

structure Passed (p : Processor) (k : Nat) (env : Env) (markup : String) (body : List Node) (w w₁ : World) (text : Value)
    (vars : Table String Value) : Prop where
  runs : p.Runs w
  first : outcome (firstPass (interp (k + 2)) env renderTag markup body) w = (.ok (text, vars), w₁)
  shallow : w.depth + 22 ≤ callLimit

section Passed

variable {c : Config} {p : Processor} {k : Nat} {env : Env} {markup : String} {body : List Node} {w w₁ : World}
variable {text : Value} {vars : Table String Value} {source out v : String}

theorem runs_of_firstPass (runs : p.Runs w)
    (first : outcome (firstPass (interp k) env renderTag markup body) w = (.ok (text, vars), w₁)) : p.Runs w₁ := by
  have after := Invariant.after (J := p.steady) (follows_firstPass (Agreement.aligned_interp k) env renderTag markup body) runs
  rwa [first] at after

theorem seen_of_firstPass (first : outcome (firstPass (interp k) env renderTag markup body) w = (.ok (text, vars), w₁)) :
    ∃ vars₀, outcome (tagVariables env) w = (.ok vars₀, w) := by
  refine (tagVariables_cases env w).resolve_right fun ⟨f, unseen⟩ => ?_
  unfold firstPass at first
  rw [outcome_bind, show outcome (newMacro env none blockParams body) w = (.ok _, w) from rfl] at first
  dsimp only at first
  rw [outcome_bind, unseen] at first
  cases first

/-- The first pass of a block ends at the depth where the block's action runs. -/
theorem depth_of_firstPass (runs : p.Runs w)
    (first : outcome (firstPass (interp k) env renderTag markup body) w = (.ok (text, vars), w₁)) :
    w₁.depth = w.depth + 3 := by
  obtain ⟨vars₀, seen⟩ := seen_of_firstPass first
  rw [outcome_firstPass seen] at first
  have begun : p.Runs { w with depth := w.depth + 3, log := (blockCall env renderTag markup body w).noted w.log } :=
    ⟨runs.settings, runs.registry, runs.faithful.of_fields rfl rfl rfl⟩
  have same := Agreement.sim_renderBody (A := p.steady.agreement) (Agreement.aligned_interp k)
    (blockCall env renderTag markup body w) vars₀
  exact Invariant.depth_of_ok same begun first

/-- A block whose second pass gives a text goes on as if it had this text from the start. -/
theorem Passed.outcome_run (h : Passed p k env markup body w w₁ text vars) (ready : Ready c p)
    (isText : textOf? text = some source)
    (second : ∀ w₂ name, p.Runs w₂ → w₂.HasRoom → Yields w₂ ((interp (k + 2)).render name vars source) (· = out)) :
    ∃ w₂, Kept w₁ w₂ ∧ outcome (run (interp (k + 3)) env (.tagBlock "render" markup body)) w =
      outcome (do
        let _ ← escapesNow (interp (k + 2)) env
        return .ofText out) w₂ := by
  have after := runs_of_firstPass h.runs h.first
  have level := depth_of_firstPass h.runs h.first
  have shallow := h.shallow
  obtain ⟨w₂, kept, -, ran⟩ := runTag_of_passes rfl (by omega) h.first isText (by rw [after.registry, ready.connected])
    (by omega) fun w₂ name kept level' => second w₂ name
      ⟨kept.settings.trans after.settings, kept.registry.trans after.registry, kept.faithful after.faithful⟩ (by
        show w₂.depth + 17 ≤ callLimit
        omega)
  exact ⟨w₂, kept, (outcome_tagBlock (by rw [h.runs.registry, ready.found])).trans ran⟩

/-- A reference to a text is rendered to the text, escaped. -/
theorem yields_reference (ready : Ready c p) (escapes : c.autoescape = true)
    (known : (globals.update vars).find? "x" = some (.text v)) (w₂ : World) (name : String) (runs : p.Runs w₂)
    (room : w₂.HasRoom) :
    Yields w₂ ((interp (k + 2)).render name vars (String.ofList referenceText)) (· = Text.htmlEscape v) :=
  yields_render_reference runs.faithful room (by rw [runs.settings, ready.settings.1, escapes]) known name

end Passed

def plainText? : Value → Option String
  | .text s => some s
  | _ => none

def referenceBody : List Node := [.output [.fixed (String.ofList referenceText) none]]

theorem known_after_firstPass : ((create { autoescape := true } {} none).toOption.bind fun p =>
    (outcome (firstPass (interp 5) topEnv renderTag "" (referenceBody ++ [.collect])) (topWorld p.world "<\x7b\x7b")).1.toOption.bind
      fun r => ((globals.update r.2).find? "x").bind plainText?) = some "<\x7b\x7b" := by decide +kernel

/-- The first pass over a block around a text, at the top. -/
theorem passed_fixed {p : Processor} (created : create { autoescape := true } {} none = .ok p) (v text : String) :
    ∃ vars w₁, Passed p 3 topEnv "" ([.output [.fixed text none]] ++ [.collect]) (topWorld p.world v) w₁ (.safe text) vars ∧
      Decided topEnv w₁ true := by
  obtain ⟨vars, w₁, first, decided⟩ := outcome_firstPass_top p.world v text
  have faithful : (topWorld p.world v).Faithful := .of_empty (show p.world.texts = _ from texts_create created)
  exact ⟨vars, w₁, ⟨⟨rfl, rfl, faithful⟩, first, show 1 + 22 ≤ 985 by decide⟩, decided⟩

theorem passed_reference {p : Processor} (created : create { autoescape := true } {} none = .ok p) :
    ∃ vars w₁, Passed p 3 topEnv "" (referenceBody ++ [.collect]) (topWorld p.world "<\x7b\x7b") w₁
        (.safe (String.ofList referenceText)) vars ∧ Decided topEnv w₁ true ∧
      (globals.update vars).find? "x" = some (.text "<\x7b\x7b") := by
  obtain ⟨vars, w₁, passed, decided⟩ := passed_fixed created "<\x7b\x7b" (String.ofList referenceText)
  have known := known_after_firstPass
  rw [created, show (Except.ok p : Except Failure Processor).toOption = some p from rfl, Option.bind_some,
    show outcome (firstPass (interp 5) topEnv renderTag "" (referenceBody ++ [.collect])) (topWorld p.world "<\x7b\x7b") = _ from
      passed.first] at known
  refine ⟨vars, w₁, passed, decided, ?_⟩
  change ((globals.update vars).find? "x").bind plainText? = _ at known
  obtain ⟨v, found, text⟩ := Option.bind_eq_some_iff.mp known
  rw [found]
  cases v <;> cases text
  rfl

theorem exists_escaping : ∃ p : Processor, create { autoescape := true } {} none = .ok p := by
  obtain ⟨p, created, -⟩ := exists_created
    (show (create { autoescape := true } {} none).toOption.map (fun _ => ()) = some () by decide +kernel)
  exact ⟨p, created⟩

theorem installs_escaping : Installs { autoescape := true } := by
  have loads : (loadPlugin "render_block").toOption = some renderBlock := by decide +kernel
  exact ⟨"render_block", List.mem_singleton.mpr rfl, eq_ok_of_toOption loads⟩

end Stencil.Processor
