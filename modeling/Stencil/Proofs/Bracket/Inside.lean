import Stencil.Proofs.Block.Lexing

/-!
# The inside of a tag

Between the delimiters of a tag the lexer looks no further than to the end of the token it is at. A tag that is closed at
its end is therefore cut in the same way whatever stands behind it.
-/

set_option autoImplicit false

namespace Stencil.Template

/-! ## Rows of characters -/

def Braced (cs : List Char) : Prop := cs.getLast? = some '\x7d'

section Braced

variable {cs : List Char}

theorem Braced.tail {c : Char} (h : Braced (c :: cs)) (other : c ≠ '\x7d') : Braced cs := by
  cases cs with
  | nil => exact absurd (Option.some.inj h) other
  | cons d ds => rwa [Braced, List.getLast?_cons_cons] at h

theorem Braced.drop (h : Braced cs) {n : Nat} (short : n < cs.length) : Braced (cs.drop n) := by
  rw [Braced, List.getLast?_drop, if_neg (Nat.not_le.mpr short)]
  exact h

theorem drop_append_braced {n : Nat} (short : n < cs.length) (more : List Char) :
    (cs ++ more).drop n = cs.drop n ++ more := List.drop_append_of_le_length (Nat.le_of_lt short)

end Braced

def Local (scan : List Char → List Char) : Prop :=
  ∀ cs more, Braced cs → scan (cs ++ more) = scan cs ∧ (scan cs).length < cs.length

theorem ne_brace {p : Char → Bool} (stops : p '\x7d' = false) {c : Char} (hc : p c = true) : c ≠ '\x7d' := by
  rintro rfl
  rw [stops] at hc
  cases hc

theorem local_takeWhile {p : Char → Bool} (stops : p '\x7d' = false) : Local (List.takeWhile p) := by
  intro cs more h
  induction cs with
  | nil => cases h
  | cons c cs ih =>
    by_cases hc : p c = true
    · obtain ⟨same, short⟩ := ih (h.tail (ne_brace stops hc))
      rw [List.cons_append, List.takeWhile_cons_of_pos hc, List.takeWhile_cons_of_pos hc, same]
      exact ⟨rfl, Nat.succ_lt_succ short⟩
    · rw [List.cons_append, List.takeWhile_cons_of_neg hc, List.takeWhile_cons_of_neg hc]
      exact ⟨rfl, Nat.succ_pos _⟩

section DigitRow

variable {p : Char → Bool} {c : Char}

theorem digitRow_go (hc : p c = true) (cs : List Char) : digitRow p (c :: cs) = c :: digitRow p cs := by
  rw [digitRow.eq_def]
  simp only [hc, if_true]

theorem digitRow_stop (hc : p c = false) (other : c ≠ '_') (cs : List Char) : digitRow p (c :: cs) = [] := by
  rw [digitRow.eq_def]
  simp only [hc, Bool.false_eq_true, if_false]
  split <;> simp_all

/-- An underscore belongs to a row of digits if a digit follows. -/
theorem digitRow_underscore (hc : p '_' = false) (d : Char) (rest : List Char) :
    digitRow p ('_' :: d :: rest) = if p d then '_' :: d :: digitRow p rest else [] := by
  rw [digitRow.eq_def]
  simp only [hc, Bool.false_eq_true, if_false]

end DigitRow

theorem local_digitRow {p : Char → Bool} (stops : p '\x7d' = false) : Local (digitRow p) := by
  intro cs more h
  induction hn : cs.length using Nat.strong_induction_on generalizing cs with
  | _ n ih =>
    subst hn
    match cs, h with
    | c :: cs, h =>
      by_cases hc : p c = true
      · obtain ⟨same, short⟩ := ih cs.length (Nat.lt_succ_self _) cs (h.tail (ne_brace stops hc)) rfl
        rw [List.cons_append, digitRow_go hc, digitRow_go hc, same]
        exact ⟨rfl, Nat.succ_lt_succ short⟩
      rw [Bool.not_eq_true] at hc
      by_cases underscore : c = '_'
      · subst underscore
        match cs, h.tail (by decide) with
        | d :: rest, h' =>
          rw [List.cons_append, List.cons_append, digitRow_underscore hc, digitRow_underscore hc]
          by_cases hd : p d = true
          · have shorter : rest.length < ('_' :: d :: rest).length := Nat.lt_succ_of_lt (Nat.lt_succ_self _)
            obtain ⟨same, short⟩ := ih rest.length shorter rest (h'.tail (ne_brace stops hd)) rfl
            rw [if_pos hd, if_pos hd, same]
            exact ⟨rfl, Nat.succ_lt_succ (Nat.succ_lt_succ short)⟩
          · rw [if_neg hd, if_neg hd]
            exact ⟨rfl, Nat.succ_pos _⟩
      · rw [List.cons_append, digitRow_stop hc underscore, digitRow_stop hc underscore]
        exact ⟨rfl, Nat.succ_pos _⟩

theorem local_leadingDigits : Local leadingDigits := by
  intro cs more h
  match cs, h with
  | c :: cs, h =>
    show (if isDigit c then digitRow isDigit (c :: cs ++ more) else []) = (if isDigit c then digitRow isDigit (c :: cs) else []) ∧
      (if isDigit c then digitRow isDigit (c :: cs) else []).length < _
    by_cases hc : isDigit c = true
    · rw [if_pos hc, if_pos hc]
      exact local_digitRow (by decide +kernel) _ more h
    · rw [if_neg hc, if_neg hc]
      exact ⟨rfl, Nat.succ_pos _⟩

theorem local_fractionRow : Local fractionRow := by
  intro cs more h
  match cs, h with
  | c :: cs, h =>
    by_cases point : c = '.'
    · subst point
      obtain ⟨same, short⟩ := local_leadingDigits cs more (h.tail (by decide))
      rw [List.cons_append, fractionRow, fractionRow, same]
      split
      · exact ⟨rfl, Nat.succ_pos _⟩
      · exact ⟨rfl, Nat.succ_lt_succ short⟩
    · have none (r : List Char) : fractionRow (c :: r) = [] := by
        unfold fractionRow
        split <;> simp_all
      rw [List.cons_append, none, none]
      exact ⟨rfl, Nat.succ_pos _⟩

theorem local_exponentRow : Local exponentRow := by
  intro cs more h
  match cs, h with
  | e :: cs, h =>
    by_cases letter : (e == 'e' || e == 'E') = true
    · have other : e ≠ '\x7d' := ne_brace (p := fun e => e == 'e' || e == 'E') (by decide) letter
      match cs, h.tail other with
      | s :: rest, h' =>
        simp only [List.cons_append, exponentRow, if_pos letter]
        by_cases sign : (s == '+' || s == '-') = true
        · have more' : s ≠ '\x7d' := ne_brace (p := fun s => s == '+' || s == '-') (by decide) sign
          obtain ⟨same, short⟩ := local_leadingDigits rest more (h'.tail more')
          rw [if_pos sign, if_pos sign, same]
          split
          · exact ⟨rfl, Nat.succ_pos _⟩
          · exact ⟨rfl, Nat.succ_lt_succ (Nat.succ_lt_succ short)⟩
        · obtain ⟨same, short⟩ := local_leadingDigits (s :: rest) more h'
          rw [List.cons_append] at same
          rw [if_neg sign, if_neg sign, same]
          split
          · exact ⟨rfl, Nat.succ_pos _⟩
          · exact ⟨rfl, Nat.succ_lt_succ short⟩
    · have none (r : List Char) : exponentRow (e :: r) = [] := by
        rw [exponentRow.eq_def]
        exact if_neg letter
      rw [List.cons_append, none, none]
      exact ⟨rfl, Nat.succ_pos _⟩

/-! ## Literals -/

theorem intLiteral?_based {cs : List Char} {base : Nat} (found : basePrefix? cs = some base)
    (filled : (digitRow (isDigitIn base) (cs.drop 2)).isEmpty = false) :
    intLiteral? cs = some (.ok (digitsValue base (digitRow (isDigitIn base) (cs.drop 2))),
      (digitRow (isDigitIn base) (cs.drop 2)).length + 2) := by
  unfold intLiteral?
  simp only [found, Option.bind_eq_bind, Option.bind_some, filled, Bool.false_eq_true, if_false]

theorem intLiteral?_plain {c : Char} {cs : List Char}
    (plain : ∀ base, basePrefix? (c :: cs) = some base → (digitRow (isDigitIn base) ((c :: cs).drop 2)).isEmpty = true) :
    intLiteral? (c :: cs) = if c = '0' then some (.ok 0, (digitRow (· == '0') (c :: cs)).length)
      else if c.isDigit then
        some (if Number.digitLimit < ((digitRow isDigit (c :: cs)).filter (· != '_')).length then .error .badValue
          else .ok (digitsValue 10 (digitRow isDigit (c :: cs))), (digitRow isDigit (c :: cs)).length)
      else none := by
  have none : (do
      let base ← basePrefix? (c :: cs)
      let row := digitRow (isDigitIn base) ((c :: cs).drop 2)
      if row.isEmpty then none else some ((.ok (digitsValue base row) : Except Mishap Nat), row.length + 2)) = none := by
    cases found : basePrefix? (c :: cs) with
    | none => rfl
    | some base => simp only [Option.bind_eq_bind, Option.bind_some, plain base found, if_true]
  unfold intLiteral?
  dsimp only
  rw [none]
  by_cases zero : c = '0'
  · subst zero
    rfl
  · rw [if_neg zero]
    dsimp only
    split <;> simp_all

section Literals

variable {cs : List Char} (h : Braced cs) (more : List Char)
include h

theorem floatLiteral?_append : floatLiteral? (cs ++ more) = floatLiteral? cs ∧
    ∀ r n, floatLiteral? cs = some (r, n) → n < cs.length := by
  obtain ⟨whole, short⟩ := local_leadingDigits cs more h
  have behind := h.drop short
  obtain ⟨fraction, short'⟩ := local_fractionRow _ more behind
  have behind' := behind.drop short'
  obtain ⟨exponent, short''⟩ := local_exponentRow _ more behind'
  rw [List.length_drop] at short'
  rw [List.length_drop, List.length_drop] at short''
  have length : (leadingDigits cs).length + (fractionRow (cs.drop (leadingDigits cs).length)).length +
      (exponentRow ((cs.drop (leadingDigits cs).length).drop
        (fractionRow (cs.drop (leadingDigits cs).length)).length)).length < cs.length := by omega
  have same : floatLiteral? (cs ++ more) = floatLiteral? cs := by
    have inner : (fractionRow (cs.drop (leadingDigits cs).length)).length < (cs.drop (leadingDigits cs).length).length := by
      rw [List.length_drop]
      exact short'
    unfold floatLiteral?
    dsimp only
    rw [whole, drop_append_braced short, fraction, drop_append_braced inner, exponent,
      List.take_append_of_le_length (Nat.le_of_lt length)]
  refine ⟨same, fun r n found => ?_⟩
  unfold floatLiteral? at found
  dsimp only at found
  split at found
  · cases found
  · split at found
    · cases found
    · split at found
      · cases found
        exact length
      · cases found
        exact length

theorem basePrefix?_append : basePrefix? (cs ++ more) = basePrefix? cs := by
  have pair (c d : Char) (r : List Char) : basePrefix? (c :: d :: r) = basePrefix? [c, d] := by
    unfold basePrefix?
    split <;> simp_all
  match cs, h with
  | [c], h =>
    cases h
    rfl
  | c :: d :: r, _ => exact (pair c d (r ++ more)).trans (pair c d r).symm

/-- The digits behind the prefix of a base. -/
theorem basedRow_append {base : Nat} (found : basePrefix? cs = some base) :
    digitRow (isDigitIn base) ((cs ++ more).drop 2) = digitRow (isDigitIn base) (cs.drop 2) ∧
      (digitRow (isDigitIn base) (cs.drop 2)).length + 2 < cs.length := by
  have stops : isDigitIn base '\x7d' = false := by
    rw [isDigitIn, show isDigit '\x7d' = false by decide +kernel, Bool.and_false]
    rfl
  unfold basePrefix? at found
  split at found
  · next c rest =>
    have other : c ≠ '\x7d' := by
      rintro rfl
      cases found
    obtain ⟨same, short⟩ := local_digitRow stops rest more ((h.tail (by decide)).tail other)
    exact ⟨same, Nat.succ_lt_succ (Nat.succ_lt_succ short)⟩
  · cases found

theorem intLiteral?_append : intLiteral? (cs ++ more) = intLiteral? cs ∧
    ∀ r n, intLiteral? cs = some (r, n) → n < cs.length := by
  by_cases based : ∃ base, basePrefix? cs = some base ∧ (digitRow (isDigitIn base) (cs.drop 2)).isEmpty = false
  · obtain ⟨base, found, filled⟩ := based
    obtain ⟨same, short⟩ := basedRow_append h more found
    have found' := (basePrefix?_append h more).trans found
    rw [intLiteral?_based found filled, intLiteral?_based found' (same ▸ filled), same]
    refine ⟨rfl, fun r n read => ?_⟩
    cases read
    exact short
  · have plain (base : Nat) (found : basePrefix? cs = some base) :
        (digitRow (isDigitIn base) (cs.drop 2)).isEmpty = true := by
      cases filled : (digitRow (isDigitIn base) (cs.drop 2)).isEmpty with
      | true => rfl
      | false => exact absurd ⟨base, found, filled⟩ based
    have plain' (base : Nat) (found : basePrefix? (cs ++ more) = some base) :
        (digitRow (isDigitIn base) ((cs ++ more).drop 2)).isEmpty = true := by
      rw [basePrefix?_append h more] at found
      rw [(basedRow_append h more found).1]
      exact plain base found
    obtain ⟨zeros, short⟩ := local_digitRow (p := (· == '0')) (by decide) cs more h
    obtain ⟨digits, short'⟩ := local_digitRow (p := isDigit) (by decide +kernel) cs more h
    match cs, h with
    | c :: r, h =>
      rw [List.cons_append] at plain' zeros digits ⊢
      rw [intLiteral?_plain plain, intLiteral?_plain plain', zeros, digits]
      refine ⟨rfl, fun value n read => ?_⟩
      split at read
      · cases read
        exact short
      · split at read
        · cases read
          exact short'
        · cases read

end Literals

theorem symbol?_append {cs : List Char} (h : Braced cs) {x : Symbol} {n : Nat} (found : symbol? cs = some (x, n))
    (more : List Char) : symbol? (cs ++ more) = some (x, n) ∧ n ≤ cs.length := by
  revert found
  -- a symbol that begins a longer one has another character behind it, for it is not the last brace
  fun_cases symbol? cs <;> rintro ⟨⟩
  case case9 t other | case10 t other | case19 t other | case20 t other | case21 t other =>
    match t, h.tail (by decide) with
    | d :: r, _ =>
      refine ⟨?_, Nat.le_add_left _ _⟩
      rw [List.cons_append, symbol?]
      rintro t ⟨⟩
      exact other r rfl
  all_goals exact ⟨rfl, Nat.le_add_left _ _⟩

theorem quotedRun_cons {quote c : Char} (plain : c ≠ '\\') (cs : List Char) :
    quotedRun quote (c :: cs) = if c == quote then some [] else (quotedRun quote cs).map (c :: ·) := by
  rw [quotedRun.eq_def]
  split
  · next same => cases same
  · next same => exact absurd (List.cons.inj same).1 plain
  · next c' cs' _ same =>
    obtain ⟨rfl, rfl⟩ := List.cons.inj same
    rw [if_neg (c := (c == '\\') = true) (by simpa using plain)]

theorem quotedRun_append {quote : Char} (other : quote ≠ '\\') {cs run : List Char}
    (found : quotedRun quote cs = some run) (more : List Char) :
    quotedRun quote (cs ++ more) = some run ∧ run.length < cs.length := by
  fun_induction quotedRun quote cs generalizing run with
  | case1 => cases found
  | case2 c cs ih =>
    obtain ⟨inner, hi, rfl⟩ := Option.map_eq_some_iff.mp found
    obtain ⟨same, short⟩ := ih hi
    refine ⟨?_, Nat.succ_lt_succ (Nat.succ_lt_succ short)⟩
    rw [List.cons_append, List.cons_append, quotedRun, same]
    rfl
  | case3 c cs _ closes =>
    cases found
    refine ⟨?_, Nat.succ_pos _⟩
    rw [List.cons_append, quotedRun_cons (eq_of_beq closes ▸ other), if_pos closes]
  | case4 => cases found
  | case5 c cs _ inside plain ih =>
    obtain ⟨inner, hi, rfl⟩ := Option.map_eq_some_iff.mp found
    obtain ⟨same, short⟩ := ih hi
    refine ⟨?_, Nat.succ_lt_succ short⟩
    rw [List.cons_append, quotedRun_cons (by simpa using plain), if_neg inside, same]
    rfl

/-! ## One step -/

section Step

variable {layout : Layout} {owed owed' : List Symbol} {afterDot afterDot' : Bool} {cs rest : List Char}
variable {kinds : List TokenKind}

theorem dropWord?_append_none (h : Braced cs) (absent : dropWord? "%\x7d" cs = none) (more : List Char) :
    dropWord? "%\x7d" (cs ++ more) = none := by
  have word : "%\x7d".toList = ['%', '\x7d'] := rfl
  unfold dropWord? at absent ⊢
  rw [word] at absent ⊢
  match cs, h with
  | [c], h =>
    cases h
    rfl
  | c :: d :: r, _ => simpa [List.isPrefixOf] using absent

theorem closing?_append_none (h : Braced cs) (absent : closing? layout "%\x7d" cs = none) (more : List Char) :
    closing? layout "%\x7d" (cs ++ more) = none := by
  match cs, h with
  | c :: r, h =>
    by_cases plus : c = '+'
    · subst plus
      exact dropWord?_append_none (h.tail (by decide)) absent more
    by_cases minus : c = '-'
    · subst minus
      have absent' : dropWord? "%\x7d" r = none := Option.map_eq_none_iff.mp absent
      exact Option.map_eq_none_iff.mpr (dropWord?_append_none (h.tail (by decide)) absent' more)
    · have plain (r : List Char) : closing? layout "%\x7d" (c :: r) = (dropWord? "%\x7d" (c :: r)).map (dropTrimmed layout) := by
        unfold closing?
        split <;> simp_all
      rw [plain] at absent
      rw [List.cons_append, plain]
      exact Option.map_eq_none_iff.mpr (dropWord?_append_none h (Option.map_eq_none_iff.mp absent) more)

/-- A step that stays inside a tag is the same whatever stands behind the tag. -/
theorem insideStep_append (h : Braced cs) {offset : Nat}
    (stays : insideStep layout true owed afterDot offset cs = .ok ⟨kinds, .inside true owed' afterDot', rest⟩)
    (more : List Char) (offset' : Nat) :
    insideStep layout true owed afterDot offset' (cs ++ more) = .ok ⟨kinds, .inside true owed' afterDot', rest ++ more⟩ ∧
      ∃ n, rest = cs.drop n := by
  have drops {n : Nat} (short : n ≤ cs.length) : (cs ++ more).drop n = cs.drop n ++ more :=
    List.drop_append_of_le_length short
  obtain ⟨blanks, blanksShort⟩ := local_takeWhile (p := Text.isBlank) (by decide +kernel) cs more h
  obtain ⟨float, floatShort⟩ := floatLiteral?_append h more
  obtain ⟨int, intShort⟩ := intLiteral?_append h more
  obtain ⟨word, wordShort⟩ := local_takeWhile (p := Text.isWordChar) (by decide +kernel) cs more h
  unfold insideStep at stays ⊢
  simp only [if_true] at stays ⊢
  -- the tag is not closed here, neither alone nor with more behind it
  have unclosed : (if owed.isEmpty = true then closing? layout "%\x7d" cs else none) = none := by
    cases closed : (if owed.isEmpty = true then closing? layout "%\x7d" cs else none) with
    | none => rfl
    | some r =>
      rw [closed] at stays
      cases stays
  have unclosed' : (if owed.isEmpty = true then closing? layout "%\x7d" (cs ++ more) else none) = none := by
    split at unclosed
    · next settled => rw [if_pos settled, closing?_append_none h unclosed more]
    · next settled => rw [if_neg settled]
  rw [unclosed] at stays
  rw [unclosed', blanks, float, int, word]
  dsimp only at stays ⊢
  split at stays
  · next blank =>
    cases stays
    rw [if_pos blank, drops (Nat.le_of_lt blanksShort)]
    exact ⟨rfl, _, rfl⟩
  next solid =>
  rw [if_neg solid]
  cases real : (if afterDot = true then none else floatLiteral? cs) with
  | some x =>
    have read : floatLiteral? cs = some x := by
      split at real
      · cases real
      · exact real
    rw [real] at stays
    obtain ⟨x | x, n⟩ := x
    · cases stays
    · cases stays
      dsimp only
      rw [drops (Nat.le_of_lt (floatShort _ _ read))]
      exact ⟨rfl, _, rfl⟩
  | none =>
    rw [real] at stays
    dsimp only at stays ⊢
    cases whole : intLiteral? cs with
    | some x =>
      rw [whole] at stays
      obtain ⟨x | x, n⟩ := x
      · cases stays
      · cases stays
        dsimp only
        rw [drops (Nat.le_of_lt (intShort _ _ whole))]
        exact ⟨rfl, _, rfl⟩
    | none =>
      rw [whole] at stays
      dsimp only at stays ⊢
      split at stays
      · next named =>
        rw [if_pos named]
        split at stays
        · next proper =>
          cases stays
          rw [if_pos proper, drops (Nat.le_of_lt wordShort)]
          exact ⟨rfl, _, rfl⟩
        · cases stays
      next unnamed =>
      rw [if_neg unnamed]
      match cs, h with
      | q :: r, h =>
        dsimp only [List.cons_append] at stays ⊢
        by_cases quote : (q == '"' || q == '\'') = true
        · rw [if_pos quote] at stays ⊢
          have quotes : q = '"' ∨ q = '\'' := by simpa using quote
          cases found : quotedRun q r with
          | none =>
            rw [found] at stays
            rcases quotes with rfl | rfl <;> cases stays
          | some run =>
            rw [found] at stays
            have plain : q ≠ '\\' := by rcases quotes with rfl | rfl <;> decide
            obtain ⟨same, short⟩ := quotedRun_append plain found more
            rw [same]
            dsimp only at stays ⊢
            cases text : unescape run with
            | error f =>
              rw [text] at stays
              cases stays
            | ok value =>
              rw [text] at stays
              cases stays
              dsimp only
              rw [← List.cons_append, drops (Nat.succ_le_succ short)]
              exact ⟨rfl, _, rfl⟩
        · rw [if_neg quote] at stays ⊢
          dsimp only at stays ⊢
          cases found : symbol? (q :: r) with
          | none =>
            rw [found] at stays
            cases stays
          | some x =>
            obtain ⟨x, n⟩ := x
            obtain ⟨same, short⟩ := symbol?_append h found more
            rw [List.cons_append] at same
            rw [found] at stays
            rw [same]
            cases balanced : balance owed x with
            | error f =>
              simp only [balanced] at stays
              cases stays
            | ok owed₁ =>
              simp only [balanced] at stays ⊢
              cases stays
              rw [← List.cons_append, drops short]
              exact ⟨rfl, _, rfl⟩

end Step

end Stencil.Template
