import Stencil.Plugin.Catalogue
import Stencil.Plugin.Registry
import Stencil.Proofs.Block.Preparing
import Stencil.Proofs.Bracket.Reading

/-!
# Compiling tags that stand in each other

A text with markers is compiled to the tree of its tags just if the markers are nested and no tag stands too deep in
others. The lines of a body are indented once more than those around it, which is borne only so far; it is noted on the
way and reported at the end.
-/

set_option autoImplicit false

namespace Stencil.Template.Forest

def fixedNodes (layout : Layout) : Forest → List Node
  | last text => Engine.fixedTree text
  | block text tag arguments inner rest => Engine.fixedTree text ++
      .tagBlock tag (markup layout tag arguments) (inner.fixedNodes layout ++ [.collect]) :: rest.fixedNodes layout

def indentation : Forest → Nat
  | last _ => 0
  | block _ _ _ inner rest => max 2 (max (inner.indentation + 1) rest.indentation)

theorem indentation_eq (f : Forest) : f.depth = 0 ∧ f.indentation = 0 ∨ 0 < f.depth ∧ f.indentation = f.depth + 1 := by
  induction f with
  | last text => exact .inl ⟨rfl, rfl⟩
  | block text tag arguments inner rest ihInner ihRest =>
    rw [depth, indentation]
    omega

variable {layout : Layout} {f : Forest}

theorem blocksOf_clearTree (text : List Char) : blocksOf (clearTree text) = [] := by
  cases text <;> rfl

theorem blocksOf_nodes : blocksOf (f.nodes layout) = [] := by
  induction f with
  | last text => exact blocksOf_clearTree text
  | block text tag arguments inner rest ihInner ihRest =>
    rw [nodes, blocksOf_append, blocksOf_clearTree, blocksOf, Node.blocks, blocksOf_append, ihInner, ihRest]
    rfl

theorem anyExtends_clearTree (text : List Char) : anyExtends (clearTree text) = false := by
  cases text <;> rfl

theorem anyExtends_nodes : anyExtends (f.nodes layout) = false := by
  induction f with
  | last text => exact anyExtends_clearTree text
  | block text tag arguments inner rest ihInner ihRest =>
    rw [nodes, anyExtends_append, anyExtends_clearTree, anyExtends, Node.hasExtends, anyExtends_append, ihInner, ihRest]
    rfl

end Stencil.Template.Forest

namespace Stencil.Engine

open Stencil.Template

/-! ## Notes about lines -/

section Preparation

variable (I : Interp) (s : Subject) {p : Position}

/-- The tags of a forest are prepared with all they hold. -/
theorem notes_forest (layout : Layout) (f : Forest) (written : p.dropsOutput = false) (sure : p.mode.unsure = false)
    {tail : List Node} (h : Notes (prepareBody I s p tail) tail (decide (indentLimit < p.indent))) :
    Notes (prepareBody I s p (f.nodes layout ++ tail)) (f.fixedNodes layout ++ tail)
      (decide (indentLimit < p.indent + f.indentation)) := by
  induction f generalizing p tail with
  | last text => exact notes_clearTree I s text written sure h decide_eq_true
  | block text tag arguments inner rest ihInner ihRest =>
    let q := p.function (Scopes.functionBody p.scopes blockParams (inner.nodes layout ++ [.collect]))
    have block := notes_tagBlock I s tag (Forest.markup layout tag arguments) 
      (ihInner (show q.dropsOutput = false from rfl) (show q.mode.unsure = false from sure) (notes_collect I s))
    have whole := notes_prepareBody_cons I s block (ihRest written sure h)
    have deepest : (decide (indentLimit < p.indent) || ((decide (indentLimit < p.indent + 2) ||
        decide (indentLimit < q.indent + inner.indentation)) || decide (indentLimit < p.indent + rest.indentation))) =
        decide (indentLimit < p.indent + (Forest.block text tag arguments inner rest).indentation) := by
      have indent : q.indent = p.indent + 1 := rfl
      rw [indent, Forest.indentation, Bool.eq_iff_iff]
      simp only [Bool.or_eq_true, decide_eq_true_eq]
      omega
    rw [deepest] at whole
    rw [Forest.nodes, Forest.fixedNodes, List.append_assoc, List.append_assoc]
    exact notes_clearTree I s text written sure whole fun beyond => decide_eq_true (Nat.lt_add_right _ beyond)

end Preparation

/-! ## Compiled texts -/

theorem compiledText_forest {settings : Settings} {f : Forest} {tags : List String} {source : String}
    (read : parse settings.layout tags source = .ok (f.nodes settings.layout)) (name file : Option String) :
    compiledText settings tags name file source = if 97 < f.depth then .error (.mishap .badIndentation)
      else .ok ⟨name, file, f.fixedNodes settings.layout, [], false⟩ := by
  have prepared (I : Interp) (s : Subject) : Notes (prepareBody I s (topPlace settings (f.nodes settings.layout))
      (f.nodes settings.layout)) (f.fixedNodes settings.layout) (decide (97 < f.depth)) := by
    have whole := notes_forest I s settings.layout f (p := topPlace settings (f.nodes settings.layout)) rfl rfl
      (notes_prepareBody_nil I s)
    have same : decide (indentLimit < (topPlace settings (f.nodes settings.layout)).indent + f.indentation) =
        decide (97 < f.depth) := by
      have limit : indentLimit = 99 := rfl
      have top : (topPlace settings (f.nodes settings.layout)).indent = 1 := rfl
      have deeper := f.indentation_eq
      rw [limit, top, decide_eq_decide]
      omega
    rwa [same, List.append_nil, List.append_nil] at whole
  rw [compiledText_of_notes read Forest.blocksOf_nodes Forest.anyExtends_nodes prepared]
  by_cases deep : 97 < f.depth <;> simp [deep]

/-- Too many blocks in each other are indented too deep, if they can be read at all. -/
theorem compiledText_nested_beyond (settings : Settings) {tags : List String} (known : "render" ∈ tags) {n : Nat} (many : 97 < n) :
    compiledText settings tags none none (String.ofList (nestedText n)) =
      .error (.mishap (if 4 * n + 11 ≤ Parse.depthLimit then .badIndentation else .tooDeep)) := by
  by_cases borne : 4 * n + 11 ≤ Parse.depthLimit
  · rw [compiledText_nested settings known (by omega) borne, if_pos many, if_pos borne]
  · obtain ⟨line, failed⟩ := parse_nested_beyond settings.layout known (Nat.lt_of_not_le borne)
    unfold compiledText
    rw [failed, if_neg borne]
    rfl

section Sequences

variable {settings : Settings} {s : Sequence} {tags : List String}

/-- A forest that is read from a sequence has its markers. -/
theorem nested_of_sequence {f : Forest} (same : f.sequence = s.prepared settings.layout) (known : f.tags ⊆ tags) :
    s.isNested tags [] = true ∧ s.peak tags [] = f.depth := by
  constructor
  · rw [← Sequence.isNested_prepared settings.layout, ← same]
    exact Sequence.isNested_before known fun _ => rfl
  · rw [← Sequence.peak_prepared settings.layout, ← same]
    have whole : f.sequence.peak tags [] = max (0 + f.depth) 0 := Sequence.peak_before known (fun _ => rfl) (Nat.le_refl 0)
    rwa [Nat.zero_add, Nat.max_zero] at whole

variable (untrimmed : settings.layout.trimBlocks = false) (unstripped : settings.layout.lstripBlocks = false)
  (proper : s.Proper settings.layout) (name file : Option String)
include untrimmed unstripped proper

/-- Nested markers make a tree, which can be compiled unless tags stand too deep in each other. -/
theorem compiledText_of_nested (nested : s.isNested tags [] = true) (borne : 4 * s.peak tags [] ≤ Parse.depthLimit) :
    ∃ f : Forest, f.sequence = s.prepared settings.layout ∧ compiledText settings tags name file (String.ofList s.text) =
      if 97 < s.peak tags [] then .error (.mishap .badIndentation)
      else .ok ⟨name, file, f.fixedNodes settings.layout, [], false⟩ := by
  rcases parse_sequence untrimmed unstripped proper tags with ⟨f, same, known, read⟩ | ⟨wrong, -⟩ | ⟨deep, -⟩
  · rw [(nested_of_sequence same known).2]
    exact ⟨f, same, compiledText_forest read name file⟩
  · exact absurd nested (Bool.eq_false_iff.mp wrong)
  · exact absurd borne (Nat.not_le.mpr deep)

theorem compiledText_of_not_nested (wrong : s.isNested tags [] = false) (borne : 4 * s.peak tags [] ≤ Parse.depthLimit) :
    ∃ flaw, compiledText settings tags name file (String.ofList s.text) = .error (.flawed flaw name file) ∧
      flaw.problem.isNesting = true := by
  rcases parse_sequence untrimmed unstripped proper tags with ⟨f, same, known, -⟩ | ⟨-, flaw, read, kind⟩ | ⟨deep, -⟩
  · exact absurd (nested_of_sequence same known).1 (Bool.eq_false_iff.mp wrong)
  · refine ⟨flaw, ?_, kind⟩
    unfold compiledText
    rw [read]
    obtain ⟨problem, line⟩ := flaw
    cases problem <;> first | rfl | cases kind
  · exact absurd borne (Nat.not_le.mpr deep)

theorem nested_of_compiledText {c : Compiled} (compiled : compiledText settings tags name file (String.ofList s.text) = .ok c) :
    s.isNested tags [] = true ∧ s.peak tags [] ≤ 97 ∧
      ∃ f : Forest, f.sequence = s.prepared settings.layout ∧ c = ⟨name, file, f.fixedNodes settings.layout, [], false⟩ := by
  rcases parse_sequence untrimmed unstripped proper tags with ⟨f, same, known, read⟩ | ⟨-, flaw, read, -⟩ | ⟨-, flaw, read⟩
  · obtain ⟨nested, peak⟩ := nested_of_sequence same known
    rw [compiledText_forest read] at compiled
    split at compiled
    · cases compiled
    · next shallow =>
      cases compiled
      exact ⟨nested, by omega, f, same, rfl⟩
  · unfold compiledText at compiled
    rw [read] at compiled
    cases compiled
  · unfold compiledText at compiled
    rw [read] at compiled
    cases compiled

end Sequences

/-- A text of pieces and markers is compiled just if all tags are known, each closing marker belongs to the tag that was
opened last, none is left open, and no more than 97 tags stand in each other; it is then compiled to the tree that has
these pieces and markers. Markers that are not nested are refused as such, as long as nesting is borne. -/
theorem compiles_iff_nested {settings : Settings} (untrimmed : settings.layout.trimBlocks = false)
    (unstripped : settings.layout.lstripBlocks = false) {s : Sequence} (proper : s.Proper settings.layout) (r : Registry)
    (name file : Option String) :
    (∀ c, compiledText settings r.listTags name file (String.ofList s.text) = .ok c ↔
      s.isNested r.listTags [] = true ∧ s.peak r.listTags [] ≤ 97 ∧
        ∃ f : Forest, f.sequence = s.prepared settings.layout ∧
          c = ⟨name, file, f.fixedNodes settings.layout, [], false⟩) ∧
    (s.isNested r.listTags [] = false → s.peak r.listTags [] ≤ 245 →
      ∃ flaw, compiledText settings r.listTags name file (String.ofList s.text) = .error (.flawed flaw name file) ∧
        flaw.problem.isNesting = true) := by
  refine ⟨fun c => ⟨nested_of_compiledText untrimmed unstripped proper name file, ?_⟩, fun wrong shallow => ?_⟩
  · rintro ⟨nested, shallow, f, same, rfl⟩
    obtain ⟨f', same', compiled⟩ := compiledText_of_nested untrimmed unstripped proper name file nested
      (Nat.le_trans (Nat.mul_le_mul_left 4 shallow) (by decide))
    rw [compiled, if_neg (Nat.not_lt.mpr shallow), Forest.sequence_injective (same'.trans same.symm)]
  · exact compiledText_of_not_nested untrimmed unstripped proper name file wrong (Nat.mul_le_mul_left 4 shallow)

def twoTags : Registry :=
  { plugins := [Catalogue.renderBlock, Catalogue.upperCase]
    tags := .ofList [("render", ⟨"render", "render_block", .renderTwice⟩), ("upper", ⟨"upper", "upper", .upper⟩)] }

def plainSettings : Settings := ⟨false, false, ⟨false, false, false⟩, none⟩

theorem mem_listTags_twoTags {tag : String} (h : tag ∈ ["render", "upper"]) : tag ∈ twoTags.listTags := by
  rw [Registry.listTags, List.mem_mergeSort]
  exact h

theorem tagName_render : TagName "render" := ⟨⟨by decide, by decide⟩, by decide, by decide, by decide⟩

theorem tagName_upper : TagName "upper" := ⟨⟨by decide, by decide⟩, by decide, by decide, by decide⟩

def nestedSequence : Sequence :=
  .marked ['a'] (.opening "upper" ['(', '1', ',', '\r', '\n', 'x', ')'])
    (.marked ['b', '\r', '\n'] (.opening "render" [])
      (.marked ['\x7b', '\r'] (.closing "render")
        (.marked [] (.closing "upper")
          (.last ['\x7d', '\r', '\n']))))

def nestedForest : Forest :=
  .block ['a'] "upper" ['(', '1', ',', '\n', 'x', ')']
    (.block ['b', '\n'] "render" [] (.last ['\x7b', '\n']) (.last [])) (.last ['\x7d'])

theorem argumentKinds_upper : (Marker.opening "upper" ['(', '1', ',', '\n', 'x', ')']).argumentKinds? plainSettings.layout =
    some [.symbol .lparen, .int 1, .symbol .comma, .name "x", .symbol .rparen] := by
  rfl

theorem proper_nestedSequence : nestedSequence.Proper plainSettings.layout := by
  have plain (cs : List Char) (absent : ∀ d ∈ openings, ¬ d <:+: cs) (last : cs.getLast? ≠ some '\x7b') : Sequence.IsPlain cs :=
    ⟨clear_of_absent absent, last⟩
  refine ⟨plain _ (by decide) (by decide), ⟨tagName_upper, _, argumentKinds_upper, by decide⟩,
    plain _ (by decide) (by decide), ⟨tagName_render, [], rfl, by decide⟩, plain _ (by decide) (by decide), tagName_render,
    plain _ (by decide) (by decide), tagName_upper, clear_of_absent (by decide)⟩

theorem compiles_iff_nested_two : nestedSequence.Proper plainSettings.layout ∧
    compiledText plainSettings twoTags.listTags none none (String.ofList nestedSequence.text) =
      .ok ⟨none, none, [.output [.fixed "a" none], .tagBlock "upper" "( 1 , x )" [.output [.fixed "b\n" none],
        .tagBlock "render" "" [.output [.fixed "\x7b\n" none], .collect], .collect], .output [.fixed "\x7d" none]], [], false⟩ := by
  refine ⟨proper_nestedSequence, ((compiles_iff_nested rfl rfl proper_nestedSequence twoTags none none).1 _).mpr ?_⟩
  have render : "render" ∈ twoTags.listTags := mem_listTags_twoTags (by decide)
  have upper : "upper" ∈ twoTags.listTags := mem_listTags_twoTags (by decide)
  refine ⟨?_, ?_, nestedForest, rfl, ?_⟩
  · simp [nestedSequence, Sequence.isNested, render, upper]
  · simp [nestedSequence, Sequence.peak, render, upper]
  · have markup : Forest.markup plainSettings.layout "upper" ['(', '1', ',', '\n', 'x', ')'] = "( 1 , x )" := by
      rw [Forest.markup, Marker.argumentKinds, argumentKinds_upper]
      decide +kernel
    simp only [nestedForest, Forest.fixedNodes, markup]
    rfl

def renderBlocks : Nat → Forest
  | 0 => .last []
  | n + 1 => .block [] "render" [] (renderBlocks n) (.last [])

theorem depth_renderBlocks (n : Nat) : (renderBlocks n).depth = n := by
  induction n with
  | zero => rfl
  | succ n ih => rw [renderBlocks, Forest.depth, ih, Forest.depth, Nat.max_zero]

theorem tags_renderBlocks (n : Nat) : (renderBlocks n).tags ⊆ ["render"] := by
  induction n with
  | zero => exact List.nil_subset _
  | succ n ih =>
    rw [renderBlocks, Forest.tags, Forest.tags, List.append_nil]
    exact List.cons_subset.mpr ⟨List.mem_singleton.mpr rfl, ih⟩

theorem proper_renderBlocks {layout : Layout} (n : Nat) {more : List Char → Sequence} (h : (more []).Proper layout) :
    ((renderBlocks n).before more).Proper layout := by
  have none : Sequence.IsPlain [] := ⟨List.isChain_nil, by simp⟩
  induction n generalizing more with
  | zero => exact h
  | succ n ih => exact ⟨none, ⟨tagName_render, [], rfl, by simp⟩, ih ⟨none, tagName_render, h⟩⟩

theorem nested_renderBlocks {tags : List String} (known : "render" ∈ tags) (n : Nat) :
    (renderBlocks n).sequence.isNested tags [] = true ∧ (renderBlocks n).sequence.peak tags [] = n := by
  have all : (renderBlocks n).tags ⊆ tags := fun tag named => by
    rw [List.mem_singleton.mp (tags_renderBlocks n named)]
    exact known
  have peak : (renderBlocks n).sequence.peak tags [] = max (0 + (renderBlocks n).depth) 0 :=
    Sequence.peak_before all (fun _ => rfl) (Nat.le_refl 0)
  rw [depth_renderBlocks, Nat.zero_add, Nat.max_zero] at peak
  exact ⟨Sequence.isNested_before all fun _ => rfl, peak⟩

/-- One block more than can be indented. -/
theorem nested_beyond_indentation : (renderBlocks 98).sequence.Proper plainSettings.layout ∧
    (renderBlocks 98).sequence.isNested twoTags.listTags [] = true ∧
    compiledText plainSettings twoTags.listTags none none (String.ofList (renderBlocks 98).sequence.text) =
      .error (.mishap .badIndentation) := by
  have proper : (renderBlocks 98).sequence.Proper plainSettings.layout := proper_renderBlocks 98 List.isChain_nil
  obtain ⟨nested, peak⟩ := nested_renderBlocks (mem_listTags_twoTags (by decide)) 98
  obtain ⟨f, -, compiled⟩ := compiledText_of_nested rfl rfl proper none none nested (by rw [peak]; decide)
  rw [peak] at compiled
  exact ⟨proper, nested, compiled⟩

end Stencil.Engine
