import Stencil.Proofs.Bracket.Inside

/-!
# Texts with tags between their pieces
-/

set_option autoImplicit false

namespace Stencil.Template

/-! ## Whole tags -/

def innerTokens? (layout : Layout) : Nat → List Symbol → Bool → List Char → Option (List TokenKind)
  | 0, _, _, _ => none
  | n + 1, owed, afterDot, cs =>
    if cs = ['%', '\x7d'] then if owed.isEmpty then some [] else none
    else match insideStep layout true owed afterDot 0 cs with
      | .ok ⟨kinds, .inside true owed afterDot, rest⟩ => (innerTokens? layout n owed afterDot rest).map (kinds ++ ·)
      | _ => none

theorem map_kind_placeTokens (line : Nat) (whole rest : List Char) (kinds : List TokenKind) :
    (placeTokens line whole rest kinds).map Token.kind = kinds := by
  have placed (l : Nat) (kinds : List TokenKind) : (kinds.map (Token.mk l)).map Token.kind = kinds := by
    rw [List.map_map]
    exact List.map_id kinds
  unfold placeTokens
  split
  · rfl
  · rfl
  · exact congrArg (_ :: ·) (placed _ _)
  · split <;> rfl
  · exact placed line kinds

section Run

variable {layout : Layout} {kinds : List TokenKind} {cs rest : List Char}

def Continues (layout : Layout) (kinds : List TokenKind) (after : Place) (fuel : Nat) (rest : List Char) (l : Lexed) : Prop :=
  ∃ total fuel' lineStart line tokens, fuel ≤ fuel' ∧ tokens.map Token.kind = kinds ∧
    l = (run layout total fuel' after lineStart line rest).behind tokens

theorem continues_step (total fuel line : Nat) {lineStart : Bool} {place after : Place} (filled : cs ≠ [])
    (h : ∀ offset, step layout place lineStart offset cs = .ok ⟨kinds, after, rest⟩) :
    Continues layout kinds after fuel rest (run layout total (fuel + 1) place lineStart line cs) := by
  refine ⟨total, fuel, endsLine cs rest, line + Text.countNewlines (consumed cs rest), placeTokens line cs rest kinds,
    Nat.le_refl _, map_kind_placeTokens line cs rest kinds, ?_⟩
  rw [run, h]
  · rfl
  · exact filled

theorem Continues.trans {kinds' : List TokenKind} {after after' : Place} {fuel fuel' : Nat} {rest' : List Char} {l : Lexed}
    (first : Continues layout kinds after fuel rest l)
    (second : ∀ total fuel₁ lineStart line, fuel ≤ fuel₁ →
      Continues layout kinds' after' fuel' rest' (run layout total fuel₁ after lineStart line rest)) :
    Continues layout (kinds ++ kinds') after' fuel' rest' l := by
  obtain ⟨total, fuel₁, lineStart, line, tokens, more, same, rfl⟩ := first
  obtain ⟨total', fuel₂, lineStart', line', tokens', more', same', ran⟩ := second total fuel₁ lineStart line more
  refine ⟨total', fuel₂, lineStart', line', tokens ++ tokens', more', ?_, ?_⟩
  · rw [List.map_append, same, same']
  · rw [ran, Lexed.behind_behind]

theorem innerTokens?_nil (n : Nat) (owed : List Symbol) (afterDot : Bool) :
    innerTokens? layout n owed afterDot [] = none := by
  cases n with
  | zero => rfl
  | succ n => cases owed <;> cases afterDot <;> rfl

/-- A tag that is closed at its end is cut as it is alone. -/
theorem continues_inner {n : Nat} {owed : List Symbol} {afterDot : Bool} (h : Braced cs)
    (cut : innerTokens? layout n owed afterDot cs = some kinds) {more : List Char}
    (plain : dropTrimmed layout more = more) (total : Nat) {fuel : Nat} (line : Nat) (lineStart : Bool)
    (enough : n ≤ fuel) :
    Continues layout (kinds ++ [.blockEnd]) .text (fuel - n) more
      (run layout total fuel (.inside true owed afterDot) lineStart line (cs ++ more)) := by
  induction n generalizing owed afterDot cs kinds total fuel line lineStart with
  | zero => cases cut
  | succ n ih =>
    obtain ⟨fuel, rfl⟩ : ∃ m, fuel = m + 1 := ⟨fuel - 1, by omega⟩
    have filled : cs ++ more ≠ [] := by
      intro none
      rw [(List.append_eq_nil_iff.mp none).1] at h
      cases h
    rw [innerTokens?] at cut
    split at cut
    · next closes =>
      subst closes
      split at cut
      · next settled =>
        cases cut
        have ends (offset : Nat) : step layout (.inside true owed afterDot) lineStart offset (['%', '\x7d'] ++ more) =
            .ok ⟨[.blockEnd], .text, more⟩ := by
          obtain rfl := List.isEmpty_iff.mp settled
          rw [← congrArg (Step.mk [.blockEnd] .text) plain]
          rfl
        obtain ⟨total', fuel', lineStart', line', tokens, more', same, ran⟩ :=
          continues_step total fuel line filled ends
        exact ⟨total', fuel', lineStart', line', tokens, by omega, same, ran⟩
      · cases cut
    · split at cut
      · next first owed' afterDot' rest stays =>
        obtain ⟨others, behind, rfl⟩ := Option.map_eq_some_iff.mp cut
        have braced : Braced rest := by
          obtain ⟨-, m, rfl⟩ := insideStep_append h stays more 0
          by_cases short : m < cs.length
          · exact h.drop short
          · rw [List.drop_eq_nil_of_le (Nat.not_lt.mp short), innerTokens?_nil] at behind
            cases behind
        rw [List.append_assoc]
        have go (offset : Nat) : step layout (.inside true owed afterDot) lineStart offset (cs ++ more) =
            .ok ⟨first, .inside true owed' afterDot', rest ++ more⟩ := (insideStep_append h stays more offset).1
        refine (continues_step total fuel line filled go).trans fun total' fuel₁ lineStart' line' more' => ?_
        obtain ⟨total'', fuel'', lineStart'', line'', tokens, most, same, ran⟩ :=
          ih braced behind total' line' lineStart' (Nat.le_trans (by omega) more')
        exact ⟨total'', fuel'', lineStart'', line'', tokens, by omega, same, ran⟩
      · cases cut

end Run

/-! ## Names -/

section Starts

open Text

/-- A number lies in the intervals of one table only, where those of another all lie apart from them. -/
theorem not_has_of_apart {rs qs : Ranges} (apart : rs.all (fun r => qs.all fun q => r.2 < q.1 || q.2 < r.1) = true)
    {n : Nat} (h : rs.has n = true) : qs.has n = false := by
  rw [Bool.eq_false_iff]
  intro h'
  obtain ⟨r, hr, inside⟩ := List.any_eq_true.mp h
  obtain ⟨q, hq, inside'⟩ := List.any_eq_true.mp h'
  have between := List.all_eq_true.mp (List.all_eq_true.mp apart r hr) q hq
  simp only [Bool.and_eq_true, Bool.or_eq_true, decide_eq_true_eq] at inside inside' between
  omega

theorem ascii_cases {P : Char → Prop} (h : ∀ n < 128, P (Char.ofNat n)) {c : Char} (small : c.toNat < 128) : P c := by
  have := h c.toNat small
  rwa [Char.ofNat_toNat] at this

def decimalRanges : Ranges := zeroPoints.map fun z => (z, z + 9)

theorem has_decimalRanges {c : Char} (h : isDigit c = true) : decimalRanges.has c.toNat = true := by
  rw [isDigit, decimal?, Option.isSome_map, List.find?_isSome] at h
  obtain ⟨z, hz, inside⟩ := h
  simp only [Bool.and_eq_true, decide_eq_true_eq] at inside
  refine List.any_eq_true.mpr ⟨(z, z + 9), List.mem_map.mpr ⟨z, hz, rfl⟩, ?_⟩
  simp only [Bool.and_eq_true, decide_eq_true_eq]
  omega

def blankRanges : Ranges :=
  [(0x85, 0x85), (0xA0, 0xA0), (0x1680, 0x1680), (0x2000, 0x200A), (0x2028, 0x2029), (0x202F, 0x202F), (0x205F, 0x205F),
    (0x3000, 0x3000)]

theorem has_blankRanges {c : Char} (large : ¬ c.toNat < 128) (h : isBlank c = true) : blankRanges.has c.toNat = true := by
  simp only [isBlank, Bool.and_eq_true, Bool.or_eq_true, decide_eq_true_eq, beq_iff_eq] at h
  simp only [blankRanges, Ranges.has_cons, Bool.and_eq_true, Bool.or_eq_true, decide_eq_true_eq]
  omega

/-- What starts an identifier is no digit. -/
theorem not_digit_of_start {c : Char} (h : isIdStart c = true) : isDigit c = false ∧ c.isDigit = false := by
  by_cases small : c.toNat < 128
  · revert h
    exact ascii_cases (P := fun c => isIdStart c = true → isDigit c = false ∧ c.isDigit = false) (by decide +kernel) small
  · rw [isIdStart, if_neg small] at h
    have decimal : decimalRanges.has c.toNat = false := not_has_of_apart (by decide +kernel) h
    constructor
    · rw [Bool.eq_false_iff]
      intro digit
      rw [has_decimalRanges digit] at decimal
      cases decimal
    · rw [Bool.eq_false_iff]
      intro digit
      have : c.toNat ≤ 57 := (Char.isDigit_iff_toNat.mp digit).2
      omega

/-- A character of a word is no blank, and no delimiter starts with it. -/
theorem plain_of_word {c : Char} (h : isWordChar c = true) : isBlank c = false ∧ c ∉ ['+', '-', '%'] := by
  by_cases small : c.toNat < 128
  · revert h
    exact ascii_cases (P := fun c => isWordChar c = true → isBlank c = false ∧ c ∉ ['+', '-', '%']) (by decide +kernel) small
  · have blankFree : blankRanges.has c.toNat = false := by
      simp only [isWordChar, isIdContinue, isIdStart, if_neg small, Bool.or_eq_true, Bool.and_eq_true] at h
      rcases h with ⟨h | h, -⟩ | h
      · exact not_has_of_apart (by decide +kernel) h
      · exact not_has_of_apart (by decide +kernel) h
      · exact not_has_of_apart (by decide +kernel) h
    constructor
    · rw [Bool.eq_false_iff]
      intro blank
      rw [has_blankRanges small blank] at blankFree
      cases blankFree
    · simp only [List.mem_cons, List.not_mem_nil, or_false]
      rintro (rfl | rfl | rfl) <;> exact small (by decide)

end Starts

structure IsName (word : List Char) : Prop where
  identifier : Text.isIdentifier word = true
  whole : word.all Text.isWordChar = true

section Plain

variable {c : Char} (plain : c ∉ ['+', '-', '%']) (cs : List Char)
include plain

theorem dropWord?_of_plain : dropWord? "%\x7d" (c :: cs) = none := by
  have differs : '%' ≠ c := fun same => plain (by simp [← same])
  exact if_neg (by simp [differs])

theorem closing?_of_plain (layout : Layout) : closing? layout "%\x7d" (c :: cs) = none := by
  unfold closing?
  split
  · simp_all
  · simp_all
  · rw [dropWord?_of_plain plain]
    rfl

end Plain

theorem intLiteral?_of_not_digit {c : Char} (ascii : c.isDigit = false) (cs : List Char) : intLiteral? (c :: cs) = none := by
  have other : c ≠ '0' := by
    rintro rfl
    cases ascii
  have based (base : Nat) (found : basePrefix? (c :: cs) = some base) : False := by
    unfold basePrefix? at found
    split at found
    · simp_all
    · cases found
  rw [intLiteral?_plain fun base found => (based base found).elim, if_neg other, ascii]
  rfl

namespace IsName

variable {word : List Char}

theorem exists_cons (h : IsName word) : ∃ c cs, word = c :: cs ∧ Text.isIdStart c = true ∧ Text.isWordChar c = true := by
  obtain ⟨identifier, whole⟩ := h
  cases word with
  | nil => cases identifier
  | cons c cs =>
    rw [Text.isIdentifier, Bool.and_eq_true] at identifier
    rw [List.all_cons, Bool.and_eq_true] at whole
    exact ⟨c, cs, rfl, identifier.1, whole.1⟩

theorem takeWhile_eq (h : IsName word) {rest : List Char} (ends : ∀ c ∈ rest.head?, Text.isWordChar c = false) :
    (word ++ rest).takeWhile Text.isWordChar = word := by
  rw [List.takeWhile_append_of_pos (List.all_eq_true.mp h.whole)]
  cases rest with
  | nil => exact List.append_nil word
  | cons c cs => rw [List.takeWhile_cons_of_neg (by simp [ends c rfl]), List.append_nil]

theorem insideStep_eq (h : IsName word) (layout : Layout) (owed : List Symbol) (afterDot : Bool) (offset : Nat)
    {rest : List Char} (ends : ∀ c ∈ rest.head?, Text.isWordChar c = false) :
    insideStep layout true owed afterDot offset (word ++ rest) =
      .ok ⟨[.name (String.ofList word)], .inside true owed false, rest⟩ := by
  have taken := h.takeWhile_eq ends
  have proper := h.identifier
  obtain ⟨c, cs, rfl, start, isWord⟩ := h.exists_cons
  obtain ⟨blank, others⟩ := plain_of_word isWord
  obtain ⟨digit, ascii⟩ := not_digit_of_start start
  have goesOn : closing? layout "%\x7d" (c :: cs ++ rest) = none := closing?_of_plain others (cs ++ rest) layout
  have noFloat : floatLiteral? (c :: cs ++ rest) = none := by
    simp [floatLiteral?, leadingDigits, digit]
  have noInt : intLiteral? (c :: cs ++ rest) = none := intLiteral?_of_not_digit ascii (cs ++ rest)
  unfold insideStep
  simp only [if_true, goesOn, ite_self, noFloat, noInt, taken]
  simp [blank, proper]

/-- A word that only starts as the one that opens a raw section does not open one. -/
theorem rawOpening?_eq (h : IsName word) (other : word ≠ ['r', 'a', 'w']) (rest : List Char) :
    rawOpening? (' ' :: (word ++ ' ' :: rest)) = none := by
  have start : dropBlanks (' ' :: (word ++ ' ' :: rest)) = word ++ ' ' :: rest := by
    obtain ⟨c, cs, rfl, -, isWord⟩ := h.exists_cons
    simp [dropBlanks, show Text.isBlank ' ' = true from rfl, (plain_of_word isWord).1]
  have goesOn (cs : List Char) (found : dropWord? "raw" (word ++ ' ' :: rest) = some cs) :
      ∃ c r, cs = c :: r ∧ Text.isWordChar c = true := by
    unfold dropWord? at found
    split at found
    · next starts =>
      cases found
      have whole := h.whole
      match word, other with
      | [], _ => simp at starts
      | [_], _ => simp at starts
      | [_, _], _ => simp at starts
      | [_, _, _], other =>
        obtain ⟨rfl, rfl, rfl⟩ : 'r' = _ ∧ 'a' = _ ∧ 'w' = _ := by simpa using starts
        exact absurd rfl other
      | a :: b :: c :: d :: r, _ =>
        simp only [List.all_cons, Bool.and_eq_true] at whole
        exact ⟨d, r ++ ' ' :: rest, rfl, whole.2.2.2.1⟩
    · cases found
  unfold rawOpening?
  rw [start]
  cases found : dropWord? "raw" (word ++ ' ' :: rest) with
  | none => rfl
  | some cs =>
    obtain ⟨c, r, rfl, isWord⟩ := goesOn cs found
    obtain ⟨blank, others⟩ := plain_of_word isWord
    simp only [Option.bind_eq_bind, Option.bind_some, dropBlanks, List.dropWhile_cons, blank, Bool.false_eq_true, if_false]
    split
    · simp_all
    · exact dropWord?_of_plain others r

end IsName

end Stencil.Template
