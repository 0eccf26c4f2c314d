import Stencil.Proofs.Bracket.Lexing
import Stencil.Template.Parser.Statement

/-!
# Texts with markers between their pieces

A text is cut at the markers that open and close block tags. The pieces between them hold no delimiter, and the arguments
of a tag are what the lexer can go through up to its closing delimiter. The lexer then gives the pieces and the markers
in their order.
-/

set_option autoImplicit false

namespace Stencil.Template

def statementWords : List String :=
  ["for", "if", "block", "extends", "print", "macro", "include", "from", "import", "set", "with", "autoescape", "call",
    "filter"]

structure TagName (tag : String) : Prop where
  name : IsName tag.toList
  opens : ¬ ['e', 'n', 'd'] <+: tag.toList
  unused : tag ∉ statementWords
  cooked : tag ≠ "raw"

inductive Marker where
  | opening (tag : String) (arguments : List Char)
  | closing (tag : String)

namespace Marker

def word : Marker → String
  | opening tag _ => tag
  | closing tag => endTag tag

def arguments : Marker → List Char
  | opening _ arguments => arguments
  | closing _ => []

def behindWord (m : Marker) : List Char :=
  (if m.arguments.isEmpty then [] else ' ' :: m.arguments) ++ [' ', '%', '\x7d']

def text (m : Marker) : List Char := '\x7b' :: '%' :: ' ' :: (m.word.toList ++ m.behindWord)

def argumentKinds? (layout : Layout) (m : Marker) : Option (List TokenKind) :=
  innerTokens? layout m.behindWord.length [] false m.behindWord

def argumentKinds (layout : Layout) (m : Marker) : List TokenKind := (m.argumentKinds? layout).getD []

def kinds (layout : Layout) (m : Marker) : List TokenKind :=
  .blockBegin :: .name m.word :: (m.argumentKinds layout ++ [.blockEnd])

def unified : Marker → Marker
  | opening tag arguments => opening tag (Text.unifyLines arguments)
  | closing tag => closing tag

def Proper (layout : Layout) : Marker → Prop
  | opening tag arguments => TagName tag ∧ ∃ kinds, (opening tag arguments).unified.argumentKinds? layout = some kinds ∧
      ∀ k ∈ kinds, k.isTooLong = false
  | closing tag => TagName tag

end Marker

inductive Sequence where
  | last (text : List Char)
  | marked (text : List Char) (marker : Marker) (rest : Sequence)

namespace Sequence

def text : Sequence → List Char
  | last text => text
  | marked text marker rest => text ++ (marker.text ++ rest.text)

def IsPlain (cs : List Char) : Prop := Clear cs ∧ cs.getLast? ≠ some '\x7b'

def Proper (layout : Layout) : Sequence → Prop
  | last text => Clear text
  | marked text marker rest => IsPlain text ∧ marker.Proper layout ∧ rest.Proper layout

def prepared (layout : Layout) : Sequence → Sequence
  | last text => last (layout.prepare text)
  | marked text marker rest => marked (Text.unifyLines text) marker.unified (rest.prepared layout)

def kinds (layout : Layout) : Sequence → List TokenKind
  | last text => dataTokens text
  | marked text marker rest => dataTokens text ++ (marker.kinds layout ++ rest.kinds layout)

end Sequence

/-! ## Words -/

theorem toList_endTag (tag : String) : (endTag tag).toList = 'e' :: 'n' :: 'd' :: tag.toList := by
  rw [endTag, String.toList_append]
  rfl

theorem IsName.endTag {tag : String} (h : IsName tag.toList) : IsName (endTag tag).toList := by
  have first (c : Char) (hc : Text.isIdStart c = true) : Text.isIdContinue c = true := by
    rw [Text.isIdContinue, hc]
    rfl
  have later : tag.toList.all Text.isIdContinue = true := by
    have identifier := h.identifier
    obtain ⟨c, cs, spelled, start, -⟩ := h.exists_cons
    rw [spelled] at identifier ⊢
    rw [List.all_cons, first c start]
    rw [Text.isIdentifier, start] at identifier
    exact identifier
  rw [toList_endTag]
  refine ⟨?_, ?_⟩
  · show (Text.isIdStart 'e' && (Text.isIdContinue 'n' && (Text.isIdContinue 'd' && tag.toList.all Text.isIdContinue))) = true
    rw [later]
    decide
  · show (Text.isWordChar 'e' && (Text.isWordChar 'n' && (Text.isWordChar 'd' && tag.toList.all Text.isWordChar))) = true
    rw [h.whole]
    decide

theorem not_return_mem {word : List Char} (h : IsName word) : '\r' ∉ word := by
  intro found
  have blank := (plain_of_word (List.all_eq_true.mp h.whole _ found)).1
  cases blank

namespace Marker

variable {layout : Layout} {m : Marker}

theorem Proper.tagName (h : m.Proper layout) : ∃ tag, TagName tag ∧ (m.word = tag ∨ m.word = endTag tag) := by
  cases m with
  | opening tag arguments => exact ⟨tag, h.1, .inl rfl⟩
  | closing tag => exact ⟨tag, h, .inr rfl⟩

theorem Proper.name (h : m.Proper layout) : IsName m.word.toList := by
  obtain ⟨tag, isTag, same | same⟩ := h.tagName
  · rw [same]
    exact isTag.name
  · rw [same]
    exact isTag.name.endTag

theorem Proper.cooked (h : m.Proper layout) : m.word.toList ≠ ['r', 'a', 'w'] := by
  obtain ⟨tag, isTag, same | same⟩ := h.tagName
  · rw [same]
    exact fun raw => isTag.cooked (String.toList_injective raw)
  · rw [same, toList_endTag]
    exact fun raw => by cases raw

theorem behindWord_eq (m : Marker) : ∃ rest, m.behindWord = ' ' :: rest := by
  unfold behindWord
  split
  · exact ⟨_, rfl⟩
  · exact ⟨_, rfl⟩

theorem braced_behindWord (m : Marker) : Braced m.behindWord := by
  unfold behindWord Braced
  rw [List.getLast?_append]
  rfl

theorem getLast?_text (m : Marker) : m.text.getLast? = some '\x7d' := by
  have shape : m.text = ('\x7b' :: '%' :: ' ' :: m.word.toList) ++ m.behindWord := rfl
  rw [shape, List.getLast?_append, m.braced_behindWord]
  rfl

@[simp] theorem unified_unified (m : Marker) : m.unified.unified = m.unified := by
  cases m with
  | opening tag arguments =>
    show opening tag _ = opening tag _
    rw [unifyLines_unifyLines]
  | closing tag => rfl

@[simp] theorem word_unified (m : Marker) : m.unified.word = m.word := by
  cases m <;> rfl

theorem Proper.unified (h : m.Proper layout) : m.unified.Proper layout := by
  cases m with
  | opening tag arguments =>
    refine ⟨h.1, ?_⟩
    have := h.2
    rwa [← unified_unified] at this
  | closing tag => exact h

/-- The arguments of a marker that the lexer sees. -/
theorem Proper.argumentKinds?_eq (h : m.Proper layout) (same : m.unified = m) :
    m.argumentKinds? layout = some (m.argumentKinds layout) := by
  cases m with
  | opening tag arguments =>
    obtain ⟨-, kinds, found, -⟩ := h
    rw [same] at found
    rw [argumentKinds, found]
    rfl
  | closing tag => rfl

end Marker

/-! ## One marker -/

theorem dropTrimmed_of_untrimmed {layout : Layout} (untrimmed : layout.trimBlocks = false) (cs : List Char) :
    dropTrimmed layout cs = cs := by
  unfold dropTrimmed
  split
  · rw [untrimmed]
    rfl
  · rfl

theorem splitOpening_before {cs : List Char} (plain : Sequence.IsPlain cs) (after : List Char) :
    splitOpening (cs ++ '\x7b' :: '%' :: after) = (cs, '\x7b' :: '%' :: after) := by
  obtain ⟨clear, free⟩ := plain
  induction cs with
  | nil => rfl
  | cons c cs ih =>
    have first : opening? (c :: (cs ++ '\x7b' :: '%' :: after)) = none := by
      cases cs with
      | nil =>
        rw [List.nil_append, opening?_pair]
        exact opening?_of_ne fun brace => free (by simp [brace])
      | cons d ds =>
        rw [List.cons_append, opening?_pair]
        exact (List.isChain_cons_cons.mp clear).1
    have others := ih clear.tail fun last => free (by
      cases cs with
      | nil => cases last
      | cons d ds => rw [List.getLast?_cons_cons, last])
    rw [List.cons_append, splitOpening, first, others]
    rfl

section Steps

variable {layout : Layout} {m : Marker} (rest : List Char)

theorem textStep_before (unstripped : layout.lstripBlocks = false) (lineStart : Bool) {cs : List Char}
    (plain : Sequence.IsPlain cs) (proper : m.Proper layout) :
    textStep layout lineStart (cs ++ (m.text ++ rest)) =
      ⟨dataTokens cs ++ [.blockBegin], .inside true [] false, ' ' :: (m.word.toList ++ (m.behindWord ++ rest))⟩ := by
  have shape : m.text ++ rest = '\x7b' :: '%' :: ' ' :: (m.word.toList ++ (m.behindWord ++ rest)) := by
    rw [Marker.text, List.cons_append, List.cons_append, List.cons_append, List.append_assoc]
  have cooked : rawOpening? (' ' :: (m.word.toList ++ (m.behindWord ++ rest))) = none := by
    obtain ⟨more, behind⟩ := m.behindWord_eq
    rw [behind]
    exact proper.name.rawOpening?_eq proper.cooked (more ++ rest)
  have whole : stripBefore layout lineStart false .none cs = cs := by
    simp only [stripBefore, unstripped, Bool.false_and, Bool.false_eq_true, if_false]
  have block : (Opening.block == Opening.variable) = false := rfl
  have unmarked (cs : List Char) : takeMark (' ' :: cs) = (.none, ' ' :: cs) := rfl
  unfold textStep
  rw [shape, splitOpening_before plain]
  simp only [opening?, List.drop_succ_cons, List.drop_zero, unmarked, cooked, block, whole]

theorem step_blank (lineStart : Bool) (offset : Nat) (name : IsName m.word.toList) :
    step layout (.inside true [] false) lineStart offset (' ' :: (m.word.toList ++ (m.behindWord ++ rest))) =
      .ok ⟨[], .inside true [] false, m.word.toList ++ (m.behindWord ++ rest)⟩ := by
  obtain ⟨c, cs, spelled, -, isWord⟩ := name.exists_cons
  have blank := (plain_of_word isWord).1
  have blanks : (' ' :: (m.word.toList ++ (m.behindWord ++ rest))).takeWhile Text.isBlank = [' '] := by
    rw [spelled, List.cons_append, List.takeWhile_cons_of_pos rfl, List.takeWhile_cons_of_neg (by simp [blank])]
  unfold step insideStep
  simp only [List.isEmpty_nil, if_true, closing?_of_plain (show ' ' ∉ ['+', '-', '%'] by decide), blanks]
  rfl

theorem step_word (lineStart : Bool) (offset : Nat) (name : IsName m.word.toList) :
    step layout (.inside true [] false) lineStart offset (m.word.toList ++ (m.behindWord ++ rest)) =
      .ok ⟨[.name m.word], .inside true [] false, m.behindWord ++ rest⟩ := by
  obtain ⟨more, behind⟩ := m.behindWord_eq
  have ends : ∀ c ∈ (m.behindWord ++ rest).head?, Text.isWordChar c = false := by
    rw [behind]
    rintro _ ⟨⟩
    rfl
  have found := name.insideStep_eq layout [] false offset ends
  rwa [String.ofList_toList] at found

/-- The lexer goes through a piece of text and the marker behind it. -/
theorem continues_marker (untrimmed : layout.trimBlocks = false) (unstripped : layout.lstripBlocks = false)
    {cs : List Char} (plain : Sequence.IsPlain cs) (proper : m.Proper layout) (same : m.unified = m) (total fuel line : Nat)
    (lineStart : Bool) (enough : (cs ++ m.text).length ≤ fuel) :
    Continues layout (dataTokens cs ++ m.kinds layout) .text (fuel - (cs ++ m.text).length) rest
      (run layout total fuel .text lineStart line (cs ++ (m.text ++ rest))) := by
  have length : (cs ++ m.text).length = cs.length + 3 + m.word.toList.length + m.behindWord.length := by
    simp [Marker.text]
    omega
  have filled : 0 < m.word.toList.length := by
    obtain ⟨c, cs, spelled, -, -⟩ := proper.name.exists_cons
    rw [spelled]
    exact Nat.succ_pos _
  obtain ⟨fuel, rfl⟩ : ∃ n, fuel = n + 3 := ⟨fuel - 3, by omega⟩
  have kinds : dataTokens cs ++ m.kinds layout =
      (dataTokens cs ++ [.blockBegin]) ++ ([] ++ ([.name m.word] ++ (m.argumentKinds layout ++ [.blockEnd]))) := by
    simp [Marker.kinds]
  rw [kinds]
  have start (offset : Nat) : step layout .text lineStart offset (cs ++ (m.text ++ rest)) = .ok _ :=
    congrArg Except.ok (textStep_before rest unstripped lineStart plain proper)
  refine (continues_step total (fuel + 2) line (by simp [Marker.text]) start).trans fun total fuel₁ lineStart line more => ?_
  obtain ⟨fuel₁, rfl⟩ : ∃ n, fuel₁ = n + 1 := ⟨fuel₁ - 1, by omega⟩
  refine (continues_step total fuel₁ line (List.cons_ne_nil _ _) fun offset => step_blank rest _ offset proper.name).trans
    fun total fuel₂ lineStart line more' => ?_
  obtain ⟨fuel₂, rfl⟩ : ∃ n, fuel₂ = n + 1 := ⟨fuel₂ - 1, by omega⟩
  refine (continues_step total fuel₂ line ?_ fun offset => step_word rest _ offset proper.name).trans fun total fuel₃ lineStart line more'' => ?_
  · exact fun none => by simp_all
  obtain ⟨total', fuel', lineStart', line', tokens, most, same', ran⟩ := continues_inner m.braced_behindWord
    (proper.argumentKinds?_eq same) (dropTrimmed_of_untrimmed untrimmed rest) total line lineStart
    (show m.behindWord.length ≤ fuel₃ by omega)
  exact ⟨total', fuel', lineStart', line', tokens, by omega, same', ran⟩

end Steps

/-! ## Whole sequences -/

theorem unifyLines_eq_nil {cs : List Char} (h : Text.unifyLines cs = []) : cs = [] := by
  unfold Text.unifyLines at h
  split at h <;> first | rfl | cases h

theorem getLast?_unifyLines (cs : List Char) :
    (Text.unifyLines cs).getLast? = cs.getLast?.map fun c => if c = '\r' then '\n' else c := by
  fun_induction Text.unifyLines cs with
  | case1 => rfl
  | case2 cs ih => cases last : cs.getLast? <;> simp [List.getLast?_cons, ih, last]
  | case3 cs _ ih => cases last : cs.getLast? <;> simp [List.getLast?_cons, ih, last]
  | case4 d cs _ other ih =>
    have differs : d ≠ '\r' := other
    cases last : cs.getLast? <;> simp [List.getLast?_cons, ih, last, differs]

theorem Sequence.IsPlain.unifyLines {cs : List Char} (h : IsPlain cs) : IsPlain (Text.unifyLines cs) := by
  refine ⟨h.1.unifyLines, fun brace => ?_⟩
  rw [getLast?_unifyLines, Option.map_eq_some_iff] at brace
  obtain ⟨c, last, same⟩ := brace
  split at same
  · cases same
  · exact h.2 (last.trans (congrArg some same))

theorem dropFinalNewline_append {front : List Char} (closed : front.getLast? = some '\x7d') (rest : List Char) :
    Text.dropFinalNewline (front ++ rest) = front ++ Text.dropFinalNewline rest := by
  cases rest with
  | nil => simp [Text.dropFinalNewline, closed]
  | cons c rest =>
    have last : (front ++ c :: rest).getLast? = (c :: rest).getLast? := by
      rw [List.getLast?_append, List.getLast?_cons]
      rfl
    rw [Text.dropFinalNewline, Text.dropFinalNewline, last]
    split
    · rw [List.dropLast_append_of_ne_nil (List.cons_ne_nil c rest)]
    · rfl

namespace Marker

theorem unifyLines_behindWord (m : Marker) (rest : List Char) :
    Text.unifyLines (m.behindWord ++ rest) = m.unified.behindWord ++ Text.unifyLines rest := by
  have arguments : m.unified.arguments = Text.unifyLines m.arguments := by cases m <;> rfl
  have ending : '\r' ∉ [' ', '%', '\x7d'] := by decide
  unfold behindWord
  rw [arguments]
  cases m.arguments with
  | nil => exact unifyLines_append_of_not_mem ending rest
  | cons c cs =>
    have filled : (Text.unifyLines (c :: cs)).isEmpty = false := by
      rw [List.isEmpty_eq_false_iff]
      exact fun none => List.cons_ne_nil c cs (unifyLines_eq_nil none)
    rw [filled, List.append_assoc]
    simp only [List.isEmpty_cons, Bool.false_eq_true, if_false]
    rw [unifyLines_append (' ' :: c :: cs) (by simp), unifyLines_append_of_not_mem ending, ← List.append_assoc]
    rfl

theorem Proper.unifyLines_text {layout : Layout} {m : Marker} (h : m.Proper layout) (rest : List Char) :
    Text.unifyLines (m.text ++ rest) = m.unified.text ++ Text.unifyLines rest := by
  have front : '\r' ∉ '\x7b' :: '%' :: ' ' :: m.word.toList := by
    simp [not_return_mem h.name]
  have shape (m : Marker) (rest : List Char) : m.text ++ rest =
      ('\x7b' :: '%' :: ' ' :: m.word.toList) ++ (m.behindWord ++ rest) := by
    simp [text]
  rw [shape, shape, unifyLines_append_of_not_mem front, unifyLines_behindWord, word_unified]

end Marker

namespace Sequence

variable {layout : Layout} {s : Sequence}

theorem text_prepared (h : s.Proper layout) : (s.prepared layout).text = layout.prepare s.text := by
  induction s with
  | last text => rfl
  | marked text marker rest ih =>
    obtain ⟨-, proper, others⟩ := h
    have unified : Text.unifyLines (text ++ (marker.text ++ rest.text)) =
        (Text.unifyLines text ++ marker.unified.text) ++ Text.unifyLines rest.text := by
      rw [unifyLines_append text (by simp [Marker.text]), proper.unifyLines_text, List.append_assoc]
    have closed : (Text.unifyLines text ++ marker.unified.text).getLast? = some '\x7d' := by
      rw [List.getLast?_append, marker.unified.getLast?_text]
      rfl
    rw [prepared, Sequence.text, ih others, Sequence.text, Layout.prepare, Layout.prepare, unified]
    split
    · rw [List.append_assoc]
    · rw [dropFinalNewline_append closed, List.append_assoc]

/-- The tokens of a sequence are those of its pieces and markers. -/
theorem run_prepared (untrimmed : layout.trimBlocks = false) (unstripped : layout.lstripBlocks = false) (h : s.Proper layout)
    (total : Nat) {fuel : Nat} (lineStart : Bool) (line : Nat) (enough : (s.prepared layout).text.length < fuel) :
    ∃ tokens, run layout total fuel .text lineStart line (s.prepared layout).text = ⟨tokens, none⟩ ∧
      tokens.map Token.kind = (s.prepared layout).kinds layout := by
  induction s generalizing total fuel lineStart line with
  | last text =>
    have clear : Clear (layout.prepare text) := h.prepare layout
    obtain ⟨fuel, rfl⟩ : ∃ n, fuel = n + 1 := ⟨fuel - 1, by omega⟩
    simp only [prepared, Sequence.text, kinds] at enough ⊢
    cases found : layout.prepare text with
    | nil => exact ⟨[], rfl, rfl⟩
    | cons c cs =>
      rw [found] at clear enough
      obtain ⟨fuel, rfl⟩ : ∃ n, fuel = n + 1 := ⟨fuel - 1, by simp at enough; omega⟩
      have piece (offset : Nat) : step layout .text lineStart offset (c :: cs) = .ok ⟨dataTokens (c :: cs), .text, []⟩ := by
        rw [step, textStep, clear.splitOpening_eq]
        rfl
      obtain ⟨total', fuel', lineStart', line', tokens, more, same, ran⟩ :=
        continues_step total (fuel + 1) line (List.cons_ne_nil c cs) piece
      obtain ⟨fuel', rfl⟩ : ∃ n, fuel' = n + 1 := ⟨fuel' - 1, by omega⟩
      refine ⟨tokens, ?_, same⟩
      rw [ran, run, Lexed.behind, List.append_nil]
  | marked text marker rest ih =>
    obtain ⟨plain, proper, others⟩ := h
    simp only [prepared, Sequence.text] at enough ⊢
    rw [← List.append_assoc, List.length_append] at enough
    obtain ⟨total', fuel', lineStart', line', tokens, more, same, ran⟩ := continues_marker (rest.prepared layout).text
      untrimmed unstripped plain.unifyLines proper.unified marker.unified_unified total fuel line lineStart (by omega)
    obtain ⟨tokens', ran', same'⟩ := ih others total' lineStart' line' (show _ < fuel' by omega)
    refine ⟨tokens ++ tokens', ?_, ?_⟩
    · rw [ran, ran']
      rfl
    · rw [List.map_append, same, same', kinds, List.append_assoc]

theorem lex_text (untrimmed : layout.trimBlocks = false) (unstripped : layout.lstripBlocks = false) (h : s.Proper layout) :
    ∃ tokens, lex layout s.text = ⟨tokens, none⟩ ∧ tokens.map Token.kind = (s.prepared layout).kinds layout := by
  unfold lex
  rw [← text_prepared h]
  exact run_prepared untrimmed unstripped h _ true 1 (Nat.lt_succ_self _)

end Sequence

end Stencil.Template
