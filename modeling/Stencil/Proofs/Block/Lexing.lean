import Mathlib.Data.List.Chain
import Stencil.Template.Lexer
import Stencil.Text.Html

/-!
# The tokens of render blocks

How the lexer goes through the opening and the closing tag of a render block, through a reference to a name, and through
text that holds no delimiter. Each lemma leaves the rest of the text open, so that they can be put one behind the other.
-/

set_option autoImplicit false

namespace Stencil.Template

def Lexed.behind (l : Lexed) (tokens : List Token) : Lexed := ⟨tokens ++ l.tokens, l.flaw⟩

theorem Lexed.behind_behind (l : Lexed) (first second : List Token) :
    (l.behind second).behind first = l.behind (first ++ second) := by
  simp only [behind, List.append_assoc]

theorem consumed_append (front rest : List Char) : consumed (front ++ rest) rest = front := by
  simp [consumed]

theorem stripBefore_nil (layout : Layout) (lineStart isVariable : Bool) (mark : Mark) :
    stripBefore layout lineStart isVariable mark [] = [] := by
  cases mark with
  | none => simp [stripBefore]
  | strip => rfl
  | keep => rfl

theorem placeTokens_inline (line : Nat) {whole rest : List Char} (inline : Text.countNewlines (consumed whole rest) = 0)
    (tokens : List TokenKind) : placeTokens line whole rest tokens = tokens.map (Token.mk line) := by
  unfold placeTokens
  rw [inline, Nat.add_zero]
  split <;> try rfl
  split <;> rfl

section Steps

variable (layout : Layout) (total fuel line : Nat) (lineStart : Bool)

theorem run_step {place after : Place} {front rest : List Char} {tokens : List TokenKind} (filled : front ≠ [])
    (h : ∀ offset, step layout place lineStart offset (front ++ rest) = .ok ⟨tokens, after, rest⟩) :
    run layout total (fuel + 1) place lineStart line (front ++ rest) =
      (run layout total fuel after (front.getLast? == some '\n') (line + Text.countNewlines front) rest).behind
        (placeTokens line (front ++ rest) rest tokens) := by
  rw [run, h]
  · dsimp only
    rw [endsLine, consumed_append]
    rfl
  · exact fun none => filled (List.append_eq_nil_iff.mp none).1

/-- A step that stays on its line. -/
theorem run_inline {place after : Place} {front rest : List Char} {tokens : List TokenKind} (filled : front ≠ [])
    (inline : '\n' ∉ front)
    (h : ∀ offset, step layout place lineStart offset (front ++ rest) = .ok ⟨tokens, after, rest⟩) :
    run layout total (fuel + 1) place lineStart line (front ++ rest) =
      (run layout total fuel after false line rest).behind (tokens.map (Token.mk line)) := by
  have none : Text.countNewlines front = 0 := List.count_eq_zero.mpr inline
  have last : (front.getLast? == some '\n') = false := by
    rw [beq_eq_false_iff_ne]
    exact fun h => inline (List.mem_of_getLast? h)
  rw [run_step layout total fuel line lineStart filled h, placeTokens_inline, none, last, Nat.add_zero]
  rw [consumed_append, none]

def blockWords : List String := ["render", "endrender"]

def tagText (word : String) : List Char :=
  ['\x7b', '%'] ++ ([' '] ++ (word.toList ++ ([' '] ++ ['%', '\x7d'])))

def referenceText : List Char := ['\x7b', '\x7b'] ++ ([' '] ++ (['x'] ++ ([' '] ++ ['\x7d', '\x7d'])))

section Openings

variable {afterMark : List Char} (plain : takeMark afterMark = (.none, afterMark)) (offset : Nat)
include plain

theorem step_block (h : rawOpening? afterMark = none) :
    step layout .text lineStart offset (['\x7b', '%'] ++ afterMark) =
      .ok ⟨[.blockBegin], .inside true [] false, afterMark⟩ := by
  have starts : splitOpening ('\x7b' :: '%' :: afterMark) = ([], '\x7b' :: '%' :: afterMark) := rfl
  simp [step, textStep, starts, opening?, plain, h, stripBefore_nil, dataTokens]

theorem step_variable :
    step layout .text lineStart offset (['\x7b', '\x7b'] ++ afterMark) =
      .ok ⟨[.variableBegin], .inside false [] false, afterMark⟩ := by
  have starts : splitOpening ('\x7b' :: '\x7b' :: afterMark) = ([], '\x7b' :: '\x7b' :: afterMark) := rfl
  simp [step, textStep, starts, opening?, plain, stripBefore_nil, dataTokens]

end Openings

/-- A tag of a render block; no line end follows it that could go with it. -/
theorem run_tag {word : String} (known : word ∈ blockWords) {rest : List Char} (plain : dropTrimmed layout rest = rest) :
    run layout total (fuel + 5) .text lineStart line (tagText word ++ rest) =
      (run layout total fuel .text false line rest).behind
        [⟨line, .blockBegin⟩, ⟨line, .name word⟩, ⟨line, .blockEnd⟩] := by
  have closes (offset : Nat) : step layout (.inside true [] false) false offset (['%', '\x7d'] ++ rest) =
      .ok ⟨[.blockEnd], .text, rest⟩ := by
    rw [← congrArg (Step.mk [.blockEnd] .text) plain]
    rfl
  simp only [tagText, List.append_assoc]
  simp only [blockWords, List.mem_cons, List.not_mem_nil, or_false] at known
  rcases known with rfl | rfl
  all_goals
    rw [run_inline layout total (fuel + 4) line lineStart (by simp) (by decide) fun offset =>
        step_block layout lineStart rfl offset rfl,
      run_inline layout total (fuel + 3) line false (by simp) (by decide) fun _ => rfl,
      run_inline layout total (fuel + 2) line false (by simp) (by decide) fun _ => rfl,
      run_inline layout total (fuel + 1) line false (by simp) (by decide) fun _ => rfl,
      run_inline layout total fuel line false (by simp) (by decide) closes]
    rfl

theorem run_reference (rest : List Char) :
    run layout total (fuel + 5) .text lineStart line (referenceText ++ rest) =
      (run layout total fuel .text false line rest).behind
        [⟨line, .variableBegin⟩, ⟨line, .name "x"⟩, ⟨line, .variableEnd⟩] := by
  simp only [referenceText, List.append_assoc]
  rw [run_inline layout total (fuel + 4) line lineStart (by simp) (by decide) fun offset =>
      step_variable layout lineStart rfl offset,
    run_inline layout total (fuel + 3) line false (by simp) (by decide) fun _ => rfl,
    run_inline layout total (fuel + 2) line false (by simp) (by decide) fun _ => rfl,
    run_inline layout total (fuel + 1) line false (by simp) (by decide) fun _ => rfl,
    run_inline layout total fuel line false (by simp) (by decide) fun _ => rfl]
  rfl

end Steps

/-! ## Text without delimiters -/

def openings : List (List Char) := [['\x7b', '\x7b'], ['\x7b', '%'], ['\x7b', '#']]

def Clear (cs : List Char) : Prop := cs.IsChain fun a b => opening? [a, b] = none

theorem opening?_pair (a b : Char) (cs : List Char) : opening? (a :: b :: cs) = opening? [a, b] := by
  unfold opening?
  split <;> simp_all

theorem opening?_eq_none {a b : Char} (h : [a, b] ∉ openings) : opening? [a, b] = none := by
  unfold opening?
  split <;> simp_all [openings]

theorem clear_of_absent {cs : List Char} (h : ∀ d ∈ openings, ¬ d <:+: cs) : Clear cs :=
  (List.isChain_isInfix cs).imp fun _ _ found => opening?_eq_none fun mem => h _ mem found

theorem Clear.splitOpening_eq {cs : List Char} (h : Clear cs) : splitOpening cs = (cs, []) := by
  induction cs with
  | nil => rfl
  | cons c cs ih =>
    have first : opening? (c :: cs) = none := by
      cases cs with
      | nil => simp [opening?]
      | cons d ds =>
        rw [opening?_pair]
        exact (List.isChain_cons_cons.mp h).1
    rw [splitOpening, first, ih h.tail]
    rfl

/-- Only an opening brace is the first character of a delimiter. -/
theorem opening?_of_ne {a b : Char} (h : a ≠ '\x7b') : opening? [a, b] = none := by
  unfold opening?
  split <;> simp_all

/-- A character that is put in the place of another does not open anything unless that one did. -/
theorem opening?_replaced {a b c : Char} (h : opening? [a, b] = none) (hc : c = b ∨ c ∉ ['\x7b', '%', '#']) :
    opening? [a, c] = none := by
  rcases hc with rfl | hc
  · exact h
  · unfold opening?
    split <;> simp_all

theorem clear_of_not_mem {cs : List Char} (h : '\x7b' ∉ cs) : Clear cs :=
  (List.isChain_isInfix cs).imp fun a b found => opening?_of_ne fun brace => h (brace ▸ found.subset (by simp))

theorem head?_unifyLines {cs : List Char} {c : Char} (h : c ∈ (Text.unifyLines cs).head?) :
    ∃ d ∈ cs.head?, c = d ∨ c ∉ ['\x7b', '%', '#'] := by
  unfold Text.unifyLines at h
  split at h
  · cases h
  · cases h
    exact ⟨'\r', rfl, .inr (by decide)⟩
  · cases h
    exact ⟨'\r', rfl, .inr (by decide)⟩
  · exact ⟨_, rfl, .inl (Option.mem_some.mp h).symm⟩

theorem Clear.unifyLines {cs : List Char} (h : Clear cs) : Clear (Text.unifyLines cs) := by
  fun_induction Text.unifyLines cs with
  | case1 => exact h
  | case2 cs ih => exact List.isChain_cons.mpr ⟨fun _ _ => opening?_of_ne (by decide), ih h.tail.tail⟩
  | case3 cs _ ih => exact List.isChain_cons.mpr ⟨fun _ _ => opening?_of_ne (by decide), ih h.tail⟩
  | case4 c cs _ _ ih =>
    refine List.isChain_cons.mpr ⟨fun b hb => ?_, ih h.tail⟩
    obtain ⟨d, hd, same⟩ := head?_unifyLines hb
    exact opening?_replaced ((List.isChain_cons.mp h).1 d hd) same

/-- An escaped character is the character itself, or begins with an ampersand. -/
theorem htmlChar_cases (c : Char) : Text.htmlChar c = [c] ∨ ∃ name, Text.htmlChar c = '&' :: name ∧ '\x7b' ∉ name := by
  unfold Text.htmlChar
  split
  · exact .inr ⟨_, rfl, by decide⟩
  · exact .inr ⟨_, rfl, by decide⟩
  · exact .inr ⟨_, rfl, by decide⟩
  · exact .inr ⟨_, rfl, by decide⟩
  · exact .inr ⟨_, rfl, by decide⟩
  · exact .inl rfl

theorem head?_htmlChars {cs : List Char} {c : Char} (h : c ∈ (cs.flatMap Text.htmlChar).head?) :
    ∃ d ∈ cs.head?, c = d ∨ c ∉ ['\x7b', '%', '#'] := by
  cases cs with
  | nil => cases h
  | cons d cs =>
    rw [List.flatMap_cons] at h
    rcases htmlChar_cases d with same | ⟨name, escaped, -⟩
    · rw [same] at h
      exact ⟨d, rfl, .inl (Option.mem_some.mp h).symm⟩
    · rw [escaped] at h
      cases h
      exact ⟨d, rfl, .inr (by decide)⟩

/-- Escaping makes no delimiter. -/
theorem Clear.htmlEscape {cs : List Char} (h : Clear cs) : Clear (cs.flatMap Text.htmlChar) := by
  induction cs with
  | nil => exact h
  | cons c cs ih =>
    rw [List.flatMap_cons]
    rcases htmlChar_cases c with same | ⟨name, escaped, free⟩
    · rw [same]
      refine List.isChain_cons.mpr ⟨fun b hb => ?_, ih h.tail⟩
      obtain ⟨d, hd, replaced⟩ := head?_htmlChars hb
      exact opening?_replaced ((List.isChain_cons.mp h).1 d hd) replaced
    · have none : '\x7b' ∉ '&' :: name := by simp [free]
      rw [escaped]
      refine List.isChain_append.mpr ⟨clear_of_not_mem none, ih h.tail, fun a ha b _ => opening?_of_ne ?_⟩
      exact fun brace => none (brace ▸ List.mem_of_getLast? ha)

theorem not_mem_unifyLines (cs : List Char) : '\r' ∉ Text.unifyLines cs := by
  fun_induction Text.unifyLines cs with
  | case1 => exact List.not_mem_nil
  | case2 cs ih => simpa using ih
  | case3 cs _ ih => simpa using ih
  | case4 c cs _ other ih => exact List.not_mem_cons_of_ne_of_not_mem (Ne.symm other) ih

theorem unifyLines_append_of_not_mem {a : List Char} (h : '\r' ∉ a) (b : List Char) :
    Text.unifyLines (a ++ b) = a ++ Text.unifyLines b := by
  induction a with
  | nil => rfl
  | cons c a ih =>
    rw [List.mem_cons, not_or] at h
    rw [List.cons_append, Text.unifyLines.eq_4 c _ (fun _ same => (h.1 same.symm).elim) fun same => h.1 same.symm, ih h.2]
    rfl

/-- Two texts that do not meet within a line end keep theirs. -/
theorem unifyLines_append (a : List Char) {b : List Char} (inline : b.head? ≠ some '\n') :
    Text.unifyLines (a ++ b) = Text.unifyLines a ++ Text.unifyLines b := by
  fun_induction Text.unifyLines a with
  | case1 => rfl
  | case2 a ih => exact congrArg ('\n' :: ·) ih
  | case3 a lone ih =>
    refine (Text.unifyLines.eq_3 (a ++ b) fun more same => ?_).trans (congrArg ('\n' :: ·) ih)
    cases a with
    | nil => exact inline (by rw [← List.nil_append b, same]; rfl)
    | cons c a => exact lone a (congrArg (· :: a) (List.cons.inj same).1)
  | case4 c a pair lone ih =>
    exact (Text.unifyLines.eq_4 c _ (fun _ same => (lone same).elim) lone).trans (congrArg (c :: ·) ih)

theorem unifyLines_unifyLines (cs : List Char) : Text.unifyLines (Text.unifyLines cs) = Text.unifyLines cs :=
  Text.unifyLines_of_not_mem (not_mem_unifyLines cs)

theorem Layout.prepare_of_keeps {layout : Layout} (keeps : layout.keepTrailingNewline = true) (cs : List Char) :
    layout.prepare cs = Text.unifyLines cs := by
  rw [Layout.prepare, keeps]
  rfl

theorem Clear.prepare {cs : List Char} (h : Clear cs) (layout : Layout) : Clear (layout.prepare cs) := by
  unfold Layout.prepare Text.dropFinalNewline
  dsimp only
  split
  · exact h.unifyLines
  · split
    · exact List.IsChain.prefix h.unifyLines (List.dropLast_prefix _)
    · exact h.unifyLines

/-- A text without delimiters is one piece. -/
theorem lex_clear (layout : Layout) {cs : List Char} (clear : Clear (layout.prepare cs)) :
    lex layout cs = ⟨(dataTokens (layout.prepare cs)).map (Token.mk 1), none⟩ := by
  unfold lex
  dsimp only
  cases hu : layout.prepare cs with
  | nil => rfl
  | cons c u =>
    rw [hu] at clear
    have piece (offset : Nat) : step layout .text true offset ((c :: u) ++ []) =
        .ok ⟨dataTokens (c :: u), .text, []⟩ := by
      rw [List.append_nil, step, textStep, clear.splitOpening_eq]
      rfl
    have whole := run_step layout (c :: u).length ((c :: u).length) 1 true (List.cons_ne_nil c u) piece
    rw [List.append_nil] at whole
    exact whole

/-! ## Blocks around a reference -/

def nestedText : Nat → List Char
  | 0 => referenceText
  | n + 1 => tagText "render" ++ (nestedText n ++ tagText "endrender")

def tagTokens (word : String) : List Token := [⟨1, .blockBegin⟩, ⟨1, .name word⟩, ⟨1, .blockEnd⟩]

def nestedTokens : Nat → List Token
  | 0 => [⟨1, .variableBegin⟩, ⟨1, .name "x"⟩, ⟨1, .variableEnd⟩]
  | n + 1 => tagTokens "render" ++ (nestedTokens n ++ tagTokens "endrender")

theorem dropTrimmed_nested (layout : Layout) (n : Nat) (rest : List Char) :
    dropTrimmed layout (nestedText n ++ rest) = nestedText n ++ rest := by
  cases n <;> rfl

theorem run_nested (layout : Layout) (total n fuel : Nat) (lineStart : Bool) {rest : List Char}
    (plain : dropTrimmed layout rest = rest) :
    run layout total (fuel + 10 * n + 5) .text lineStart 1 (nestedText n ++ rest) =
      (run layout total fuel .text false 1 rest).behind (nestedTokens n) := by
  induction n generalizing fuel lineStart rest with
  | zero => exact run_reference layout total fuel 1 lineStart rest
  | succ n ih =>
    have closing : dropTrimmed layout (tagText "endrender" ++ rest) = tagText "endrender" ++ rest := rfl
    rw [show fuel + 10 * (n + 1) + 5 = (fuel + 5 + 10 * n + 5) + 5 by omega, nestedText, List.append_assoc,
      List.append_assoc, run_tag layout total _ 1 lineStart (by decide) (dropTrimmed_nested layout n _), ih _ _ closing,
      run_tag layout total fuel 1 false (by decide) plain, Lexed.behind_behind, Lexed.behind_behind]
    rfl

theorem length_nestedText (n : Nat) : (nestedText n).length = 27 * n + 7 := by
  induction n with
  | zero => rfl
  | succ n ih =>
    have opening : (tagText "render").length = 12 := rfl
    have closing : (tagText "endrender").length = 15 := rfl
    rw [nestedText, List.length_append, List.length_append, ih, opening, closing]
    omega

theorem prepare_nestedText (layout : Layout) (n : Nat) : layout.prepare (nestedText n) = nestedText n := by
  have noReturn : '\r' ∉ nestedText n := by
    induction n with
    | zero => decide
    | succ n ih =>
      rw [nestedText, List.mem_append, List.mem_append]
      exact fun h => h.elim (by decide) fun h => h.elim ih (by decide)
  have last : (nestedText n).getLast? = some '\x7d' := by
    cases n with
    | zero => rfl
    | succ n =>
      rw [nestedText, ← List.append_assoc, List.getLast?_append]
      rfl
  simp [Layout.prepare, Text.unifyLines_of_not_mem noReturn, Text.dropFinalNewline, last]

theorem lex_nested (layout : Layout) (n : Nat) : lex layout (nestedText n) = ⟨nestedTokens n, none⟩ := by
  have steps := run_nested layout (nestedText n).length n (17 * n + 3) true (show dropTrimmed layout [] = [] from rfl)
  have fuel : (nestedText n).length + 1 = 17 * n + 3 + 10 * n + 5 := by
    rw [length_nestedText]
    omega
  rw [List.append_nil, ← fuel] at steps
  unfold lex
  rw [prepare_nestedText]
  dsimp only
  rw [steps, Lexed.behind, run, List.append_nil]

end Stencil.Template
