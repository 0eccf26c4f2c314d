import Stencil.Proofs.Block.Preparing

/-!
# Raw sections in render blocks

A raw section ends at the first tag that says so, and what stands before is literal text. So a render block around a raw
section, whatever text is in it, is read as a block around that text.
-/

set_option autoImplicit false

namespace Stencil.Template

/-! ## The tag that ends a raw section -/

def marks : List (List Char) := [[], ['-'], ['+']]

def IsEndraw (tag : List Char) : Prop :=
  ∃ opening ∈ marks, ∃ closing ∈ marks, ∃ before after : List Char,
    before.all Text.isBlank = true ∧ after.all Text.isBlank = true ∧
    tag = ['\x7b', '%'] ++ (opening ++ (before ++ ("endraw".toList ++ (after ++ (closing ++ ['%', '\x7d'])))))

theorem takeMark_cases (cs : List Char) : ∃ mark ∈ marks, cs = mark ++ (takeMark cs).2 := by
  unfold takeMark
  split
  · exact ⟨['-'], by decide, rfl⟩
  · exact ⟨['+'], by decide, rfl⟩
  · exact ⟨[], by decide, rfl⟩

theorem dropBlanks_cases (cs : List Char) : ∃ blanks : List Char, blanks.all Text.isBlank = true ∧ cs = blanks ++ dropBlanks cs :=
  ⟨cs.takeWhile Text.isBlank, List.all_takeWhile, List.takeWhile_append_dropWhile.symm⟩

theorem eq_of_dropWord? {word : String} {cs rest : List Char} (h : dropWord? word cs = some rest) :
    cs = word.toList ++ rest := by
  unfold dropWord? at h
  split at h
  · next starts =>
    obtain ⟨more, rfl⟩ := List.isPrefixOf_iff_prefix.mp starts
    cases h
    rw [← String.length_toList, List.drop_left]
  · cases h

theorem eq_of_closing? {layout : Layout} {word : String} {cs rest : List Char} (h : closing? layout word cs = some rest) :
    ∃ mark ∈ marks, ∃ more, cs = mark ++ (word.toList ++ more) := by
  unfold closing? at h
  split at h
  · exact ⟨['+'], by decide, _, congrArg ('+' :: ·) (eq_of_dropWord? h)⟩
  · obtain ⟨more, found, -⟩ := Option.map_eq_some_iff.mp h
    exact ⟨['-'], by decide, more, congrArg ('-' :: ·) (eq_of_dropWord? found)⟩
  · obtain ⟨more, found, -⟩ := Option.map_eq_some_iff.mp h
    exact ⟨[], by decide, more, eq_of_dropWord? found⟩

/-- What ends a raw section is such a tag. -/
theorem isEndraw_of_rawClosing? {layout : Layout} {cs : List Char} {found : Mark × List Char}
    (h : rawClosing? layout cs = some found) : ∃ tag, IsEndraw tag ∧ tag <+: cs := by
  unfold rawClosing? at h
  split at h
  · next behind =>
    dsimp only at h
    obtain ⟨opening, hopening, first⟩ := takeMark_cases behind
    obtain ⟨before, hbefore, second⟩ := dropBlanks_cases (takeMark behind).2
    split at h
    · cases h
    · next afterWord word =>
      obtain ⟨after, hafter, third⟩ := dropBlanks_cases afterWord
      obtain ⟨rest, closes, -⟩ := Option.map_eq_some_iff.mp h
      obtain ⟨closing, hclosing, more, last⟩ := eq_of_closing? closes
      refine ⟨_, ⟨opening, hopening, closing, hclosing, before, after, hbefore, hafter, rfl⟩, more, ?_⟩
      rw [first, second, eq_of_dropWord? word, third, last]
      simp only [List.append_assoc]
      rfl
  · cases h

theorem not_mem_of_blank {cs : List Char} {c : Char} (blank : cs.all Text.isBlank = true) (solid : Text.isBlank c = false) :
    c ∉ cs := by
  intro mem
  rw [List.all_eq_true.mp blank c mem] at solid
  cases solid

/-- Such a tag opens once. -/
theorem IsEndraw.opens {tag : List Char} (h : IsEndraw tag) : ∃ more, tag = '\x7b' :: more ∧ '\x7b' ∉ more := by
  obtain ⟨opening, hopening, closing, hclosing, before, after, hbefore, hafter, rfl⟩ := h
  have plain : ∀ mark ∈ marks, '\x7b' ∉ mark := by decide
  refine ⟨'%' :: (opening ++ (before ++ ("endraw".toList ++ (after ++ (closing ++ ['%', '\x7d']))))), rfl, ?_⟩
  simp only [List.mem_cons, List.mem_append, not_or]
  exact ⟨by decide, plain _ hopening, not_mem_of_blank hbefore (by decide), by decide, not_mem_of_blank hafter (by decide),
    plain _ hclosing, by decide, by decide, by decide⟩

def Unended (cs : List Char) : Prop := ∀ tag, IsEndraw tag → ¬ tag <:+: cs

/-- A raw section ends behind such a text. -/
theorem splitAt?_endraw {layout : Layout} {cs : List Char} (unended : Unended cs) {rest : List Char}
    (plain : dropTrimmed layout rest = rest) :
    splitAt? (rawClosing? layout) (cs ++ (tagText "endraw" ++ rest)) = some (cs, .none, rest) := by
  induction cs with
  | nil =>
    have closes : rawClosing? layout (tagText "endraw" ++ rest) = some (.none, dropTrimmed layout rest) := rfl
    rw [plain] at closes
    show splitAt? (rawClosing? layout) (tagText "endraw" ++ rest) = _
    rw [show tagText "endraw" ++ rest = '\x7b' :: (['%', ' '] ++ ("endraw %\x7d".toList ++ rest)) from rfl] at closes ⊢
    rw [splitAt?, closes]
  | cons c cs ih =>
    have goesOn : rawClosing? layout (c :: (cs ++ (tagText "endraw" ++ rest))) = none := by
      cases found : rawClosing? layout (c :: (cs ++ (tagText "endraw" ++ rest))) with
      | none => rfl
      | some r =>
        obtain ⟨tag, isEndraw, behind, whole⟩ := isEndraw_of_rawClosing? found
        obtain ⟨more, rfl, once⟩ := isEndraw.opens
        obtain ⟨rfl, tail⟩ := List.cons.inj whole
        rcases List.append_eq_append_iff.mp tail with ⟨inside, rfl, -⟩ | ⟨beyond, rfl, next⟩
        · exact absurd ⟨[], inside, rfl⟩ (unended _ isEndraw)
        · cases beyond with
          | nil =>
            rw [List.append_nil] at isEndraw
            exact absurd (List.infix_refl _) (unended _ isEndraw)
          | cons d beyond =>
            have brace : d = '\x7b' := (List.cons.inj next).1.symm
            exact absurd (List.mem_append_right cs (brace ▸ List.mem_cons_self)) once
    rw [List.cons_append, splitAt?, goesOn]
    dsimp only
    rw [ih fun tag isEndraw found => unended tag isEndraw (found.trans (List.suffix_cons c cs).isInfix)]
    rfl

/-! ## Line ends -/

/-- A cut through unified text is a cut through the text. -/
theorem unifyLines_eq_append {cs a b : List Char} (h : Text.unifyLines cs = a ++ b) :
    ∃ a' b', cs = a' ++ b' ∧ Text.unifyLines a' = a ∧ Text.unifyLines b' = b := by
  fun_induction Text.unifyLines cs generalizing a with
  | case1 =>
    obtain ⟨rfl, rfl⟩ := List.append_eq_nil_iff.mp h.symm
    exact ⟨[], [], rfl, rfl, rfl⟩
  | case2 cs ih =>
    cases a with
    | nil => exact ⟨[], '\r' :: '\n' :: cs, rfl, rfl, h⟩
    | cons c a =>
      obtain ⟨rfl, rest⟩ := List.cons.inj h
      obtain ⟨a', b', rfl, rfl, rfl⟩ := ih rest
      exact ⟨'\r' :: '\n' :: a', b', rfl, rfl, rfl⟩
  | case3 cs lone ih =>
    cases a with
    | nil =>
      refine ⟨[], '\r' :: cs, rfl, rfl, ?_⟩
      rw [Text.unifyLines.eq_3 cs lone]
      exact h
    | cons c a =>
      obtain ⟨rfl, rest⟩ := List.cons.inj h
      obtain ⟨a', b', rfl, rfl, rfl⟩ := ih rest
      refine ⟨'\r' :: a', b', rfl, Text.unifyLines.eq_3 a' fun more same => ?_, rfl⟩
      exact lone (more ++ b') (by rw [same]; rfl)
  | case4 c cs pair lone ih =>
    cases a with
    | nil =>
      refine ⟨[], c :: cs, rfl, rfl, ?_⟩
      rw [Text.unifyLines.eq_4 c cs pair lone]
      exact h
    | cons d a =>
      obtain ⟨rfl, rest⟩ := List.cons.inj h
      obtain ⟨a', b', rfl, rfl, rfl⟩ := ih rest
      exact ⟨c :: a', b', rfl, Text.unifyLines.eq_4 c a' (fun _ same => (lone same).elim) lone, rfl⟩

theorem mem_unifyLines {cs : List Char} (h : '\r' ∈ cs) : '\n' ∈ Text.unifyLines cs := by
  fun_induction Text.unifyLines cs with
  | case1 => cases h
  | case2 cs _ => exact List.mem_cons_self
  | case3 cs _ _ => exact List.mem_cons_self
  | case4 c cs _ lone ih => exact List.mem_cons_of_mem _ (ih ((List.mem_cons.mp h).resolve_left fun same => lone same.symm))

/-- Text that stays on its line was not changed. -/
theorem eq_of_unifyLines {cs line : List Char} (h : Text.unifyLines cs = line) (inline : '\n' ∉ line) : cs = line := by
  rw [← h] at inline
  rw [← h, Text.unifyLines_of_not_mem fun mem => inline (mem_unifyLines mem)]

theorem blank_of_unifyLines {cs : List Char} (h : (Text.unifyLines cs).all Text.isBlank = true) : cs.all Text.isBlank = true := by
  fun_induction Text.unifyLines cs with
  | case1 => rfl
  | case2 cs ih =>
    rw [List.all_cons, Bool.and_eq_true] at h
    rw [List.all_cons, List.all_cons, ih h.2]
    rfl
  | case3 cs _ ih =>
    rw [List.all_cons, Bool.and_eq_true] at h
    rw [List.all_cons, ih h.2]
    rfl
  | case4 c cs _ _ ih =>
    rw [List.all_cons, Bool.and_eq_true] at h
    rw [List.all_cons, ih h.2, h.1]
    rfl

theorem isEndraw_of_unifyLines {cs : List Char} (h : IsEndraw (Text.unifyLines cs)) : IsEndraw cs := by
  obtain ⟨opening, hopening, closing, hclosing, before, after, hbefore, hafter, whole⟩ := h
  have inline : ∀ mark ∈ marks, '\n' ∉ mark := by decide
  obtain ⟨first, rest₁, rfl, hfirst, whole₁⟩ := unifyLines_eq_append whole
  obtain ⟨second, rest₂, rfl, hsecond, whole₂⟩ := unifyLines_eq_append whole₁
  obtain ⟨before', rest₃, rfl, hbefore', whole₃⟩ := unifyLines_eq_append whole₂
  obtain ⟨word, rest₄, rfl, hword, whole₄⟩ := unifyLines_eq_append whole₃
  obtain ⟨after', rest₅, rfl, hafter', whole₅⟩ := unifyLines_eq_append whole₄
  obtain ⟨fourth, rest₆, rfl, hfourth, last⟩ := unifyLines_eq_append whole₅
  refine ⟨opening, hopening, closing, hclosing, before', after', blank_of_unifyLines (hbefore' ▸ hbefore),
    blank_of_unifyLines (hafter' ▸ hafter), ?_⟩
  rw [eq_of_unifyLines hfirst (by decide), eq_of_unifyLines hsecond (inline _ hopening), eq_of_unifyLines hword (by decide),
    eq_of_unifyLines hfourth (inline _ hclosing), eq_of_unifyLines last (by decide)]

theorem Unended.unifyLines {cs : List Char} (h : Unended cs) : Unended (Text.unifyLines cs) := by
  rintro tag isEndraw ⟨a, b, whole⟩
  obtain ⟨front, last, rfl, hfront, -⟩ := unifyLines_eq_append whole.symm
  obtain ⟨first, middle, rfl, -, hmiddle⟩ := unifyLines_eq_append hfront
  exact h middle (isEndraw_of_unifyLines (hmiddle ▸ isEndraw)) ⟨first, last, rfl⟩

/-! ## A text in a raw section in a render block -/

def quotedText (cs : List Char) : List Char :=
  tagText "render" ++ (tagText "raw" ++ (cs ++ (tagText "endraw" ++ tagText "endrender")))

theorem unifyLines_quotedText (cs : List Char) : Text.unifyLines (quotedText cs) = quotedText (Text.unifyLines cs) := by
  have ending : Text.unifyLines (tagText "endraw" ++ tagText "endrender") = tagText "endraw" ++ tagText "endrender" :=
    Text.unifyLines_of_not_mem (by decide)
  unfold quotedText
  rw [unifyLines_append_of_not_mem (by decide), unifyLines_append_of_not_mem (by decide),
    unifyLines_append cs (by decide), ending]

theorem prepare_quotedText (layout : Layout) (cs : List Char) :
    layout.prepare (quotedText cs) = quotedText (Text.unifyLines cs) := by
  have last : (quotedText (Text.unifyLines cs)).getLast? = some '\x7d' := by
    unfold quotedText
    rw [← List.append_assoc, ← List.append_assoc, ← List.append_assoc, List.getLast?_append]
    rfl
  simp [Layout.prepare, unifyLines_quotedText, Text.dropFinalNewline, last]

section Steps

variable {layout : Layout} (total fuel line : Nat) (lineStart : Bool)

theorem run_raw (rest : List Char) : run layout total (fuel + 1) .text lineStart line (tagText "raw" ++ rest) =
    run layout total fuel .raw false line rest := by
  have opens (offset : Nat) : step layout .text lineStart offset (tagText "raw" ++ rest) = .ok ⟨[], .raw, rest⟩ := by
    have starts : splitOpening (tagText "raw" ++ rest) = ([], tagText "raw" ++ rest) := rfl
    have found : rawOpening? (" raw %\x7d".toList ++ rest) = some rest := rfl
    rw [step, textStep, starts]
    dsimp only
    rw [show opening? (tagText "raw" ++ rest) = some .block from rfl]
    dsimp only
    rw [show takeMark ((tagText "raw" ++ rest).drop 2) = (.none, " raw %\x7d".toList ++ rest) from rfl, found]
    dsimp only
    rw [stripBefore_nil]
    rfl
  exact run_inline layout total fuel line lineStart (by decide) (by decide) opens

/-- A raw section gives its text as it is, where blanks before tags are kept. -/
theorem run_endraw (kept : layout.lstripBlocks = false) {cs rest : List Char} (unended : Unended cs)
    (plain : dropTrimmed layout rest = rest) :
    run layout total (fuel + 1) .raw lineStart line (cs ++ (tagText "endraw" ++ rest)) =
      (run layout total fuel .text false (line + Text.countNewlines cs) rest).behind
        ((dataTokens cs).map (Token.mk line)) := by
  have ends (offset : Nat) : step layout .raw lineStart offset ((cs ++ tagText "endraw") ++ rest) =
      .ok ⟨dataTokens cs, .text, rest⟩ := by
    have whole : stripBefore layout lineStart false .none cs = cs := by simp [stripBefore, kept]
    rw [step, rawStep, List.append_assoc, splitAt?_endraw unended plain]
    dsimp only
    rw [whole]
  have filled : cs ++ tagText "endraw" ≠ [] := fun none => by cases (List.append_eq_nil_iff.mp none).2
  have last : ((cs ++ tagText "endraw").getLast? == some '\n') = false := by
    rw [List.getLast?_append]
    rfl
  have lines : Text.countNewlines (cs ++ tagText "endraw") = Text.countNewlines cs := List.count_append
  have placed : placeTokens line ((cs ++ tagText "endraw") ++ rest) rest (dataTokens cs) =
      (dataTokens cs).map (Token.mk line) := by
    cases cs <;> rfl
  rw [← List.append_assoc, run_step layout total fuel line lineStart filled ends, last, lines, placed]

end Steps

def quotedTokens (cs : List Char) : List Token :=
  tagTokens "render" ++ ((dataTokens cs).map (Token.mk 1) ++
    [⟨1 + Text.countNewlines cs, .blockBegin⟩, ⟨1 + Text.countNewlines cs, .name "endrender"⟩,
      ⟨1 + Text.countNewlines cs, .blockEnd⟩])

theorem lex_quoted {layout : Layout} (kept : layout.lstripBlocks = false) {cs : List Char} (unended : Unended cs) :
    lex layout (quotedText cs) = ⟨quotedTokens (Text.unifyLines cs), none⟩ := by
  have plain : dropTrimmed layout (tagText "endrender") = tagText "endrender" := rfl
  have length : (quotedText (Text.unifyLines cs)).length + 1 = ((Text.unifyLines cs).length + 36) + 1 + 5 + 1 + 1 + 5 := by
    simp only [quotedText, List.length_append, show (tagText "render").length = 12 from rfl,
      show (tagText "raw").length = 9 from rfl, show (tagText "endraw").length = 12 from rfl,
      show (tagText "endrender").length = 15 from rfl]
    omega
  have ending := run_tag layout (quotedText (Text.unifyLines cs)).length ((Text.unifyLines cs).length + 36 + 1)
    (1 + Text.countNewlines (Text.unifyLines cs)) false (show "endrender" ∈ blockWords by decide)
    (show dropTrimmed layout [] = [] from rfl)
  rw [List.append_nil] at ending
  unfold lex
  rw [prepare_quotedText]
  dsimp only
  rw [length]
  unfold quotedText at ending ⊢
  rw [run_tag layout _ _ 1 true (by decide) rfl, run_raw, run_endraw _ _ _ _ kept unended.unifyLines plain,
    ending, run, Lexed.behind_behind, Lexed.behind_behind, Lexed.behind, List.append_nil, List.append_assoc]
  rfl

def quotedTree (cs : List Char) : List Node := [renderNode (clearTree cs)]

theorem parse_quoted {layout : Layout} (kept : layout.lstripBlocks = false) {cs : List Char} (unended : Unended cs) :
    parse layout renderOnly (String.ofList (quotedText cs)) = .ok (quotedTree (Text.unifyLines cs)) := by
  unfold parse
  rw [String.toList_ofList, lex_quoted kept unended]
  generalize Text.unifyLines cs = u
  have starts : Stream.start ⟨quotedTokens u, none⟩ = .ok ⟨quotedTokens u, none, 1, 0⟩ := rfl
  rw [starts]
  simp only [bind, Except.bind]
  have inner (n : Nat) (nesting : Nesting) : (parseNodes renderOnly (n + 2) nesting ["endrender"] [] []).run
      ⟨(dataTokens u).map (Token.mk 1) ++ [⟨1 + Text.countNewlines u, .blockBegin⟩,
        ⟨1 + Text.countNewlines u, .name "endrender"⟩, ⟨1 + Text.countNewlines u, .blockEnd⟩], none, 1, 0 + 4⟩ =
      .ok (clearTree u, ⟨[⟨1 + Text.countNewlines u, .name "endrender"⟩, ⟨1 + Text.countNewlines u, .blockEnd⟩], none,
        1 + Text.countNewlines u, 0 + 4⟩) := by
    cases u with
    | nil => exact run_parseNodes_ends renderOnly (n + 1) nesting ["endrender"] [] [] 1 (0 + 4) _ (by decide) 1 1
    | cons c u =>
      refine (run_parseNodes_data renderOnly (n + 1) nesting ["endrender"] [] [] 1 (0 + 4) _ _ 1).trans ?_
      exact run_parseNodes_ends renderOnly n nesting ["endrender"] _ _ 1 (0 + 4) _ (by decide) _ _
  obtain ⟨n, fuel⟩ : ∃ n, 2 * (quotedTokens u).length + 2 = (n + 2) + 1 := by
    refine ⟨2 * (quotedTokens u).length - 1, ?_⟩
    have : 0 < (quotedTokens u).length := Nat.succ_pos _
    omega
  have block : (parseNodes renderOnly (n + 2 + 1) {} [] [] []).run ⟨quotedTokens u, none, 1, 0⟩ =
      (parseNodes renderOnly (n + 2) {} [] [] (quotedTree u)).run ⟨[], none, 1 + Text.countNewlines u, 0⟩ :=
    run_parseNodes_render (n + 2) {} [] [] List.not_mem_nil (by decide) (inner n)
  rw [fuel, block]
  rfl

end Stencil.Template

namespace Stencil.Engine

open Stencil.Template

/-- What comes of the text before it runs: a block around a fixed text. -/
theorem compiledText_quoted (settings : Settings) (kept : settings.layout.lstripBlocks = false) {tags : List String}
    (known : "render" ∈ tags) {cs : List Char} (unended : Unended cs) :
    compiledText settings tags none none (String.ofList (quotedText cs)) =
      .ok ⟨none, none, [renderNode (fixedTree (Text.unifyLines cs))], [], false⟩ := by
  have read : parse settings.layout tags (String.ofList (quotedText cs)) = .ok (quotedTree (Text.unifyLines cs)) := by
    refine parse_of_subset (fun tag named => ?_) (parse_quoted kept unended)
    rw [List.mem_singleton.mp named]
    exact known
  generalize Text.unifyLines cs = u at read ⊢
  have blocks : blocksOf (quotedTree u) = [] := by cases u <;> rfl
  have alone : anyExtends (quotedTree u) = false := by cases u <;> rfl
  refine compiledText_of_notes (b := false) read blocks alone fun I s => ?_
  let top := topPlace settings (quotedTree u)
  have inner : Notes (prepareBody I s (top.function (Scopes.functionBody top.scopes blockParams (clearTree u ++ [.collect])))
      (clearTree u ++ [.collect])) (fixedTree u ++ [.collect]) (decide (indentLimit < 2)) :=
    notes_clearTree I s u rfl rfl (notes_collect I s) decide_eq_true
  exact notes_prepareBody_cons I s (notes_tagBlock I s (p := top) "render" "" inner) (notes_prepareBody_nil I s)

end Stencil.Engine
