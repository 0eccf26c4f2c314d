import Mathlib
import Stencil.Proofs.Delivery
import Stencil.Proofs.Keys.Reading

/-!
# The grammar of JSON

Each part of the grammar is a relation between a text that begins with such a part and what stands behind it. The words
that stand for values are left open: the format has three of them, and the reader knows three more. A text that passes
the check of a run is one value with blanks around it. It is a text of the format itself unless one of the further words
occurs in it.
-/

set_option autoImplicit false

namespace Stencil.Json

namespace Grammar

inductive Blanks : List Char → List Char → Prop
  | none (cs : List Char) : Blanks cs cs
  | more {c : Char} {cs rest : List Char} : c ∈ [' ', '\t', '\n', '\r'] → Blanks cs rest → Blanks (c :: cs) rest

inductive Digits : List Char → List Char → Prop
  | last {c : Char} {cs : List Char} : c.isDigit = true → Digits (c :: cs) cs
  | more {c : Char} {cs rest : List Char} : c.isDigit = true → Digits cs rest → Digits (c :: cs) rest

inductive Minus : List Char → List Char → Prop
  | none (cs : List Char) : Minus cs cs
  | sign (cs : List Char) : Minus ('-' :: cs) cs

inductive Whole : List Char → List Char → Prop
  | zero (cs : List Char) : Whole ('0' :: cs) cs
  | digits {c : Char} {cs rest : List Char} : c ≠ '0' → Digits (c :: cs) rest → Whole (c :: cs) rest

inductive Fraction : List Char → List Char → Prop
  | none (cs : List Char) : Fraction cs cs
  | point {cs rest : List Char} : Digits cs rest → Fraction ('.' :: cs) rest

inductive Sign : List Char → List Char → Prop
  | none (cs : List Char) : Sign cs cs
  | minus (cs : List Char) : Sign ('-' :: cs) cs
  | plus (cs : List Char) : Sign ('+' :: cs) cs

inductive Exponent : List Char → List Char → Prop
  | none (cs : List Char) : Exponent cs cs
  | power {e : Char} {cs ds rest : List Char} :
    e ∈ ['e', 'E'] → Sign cs ds → Digits ds rest → Exponent (e :: cs) rest

inductive Numeral : List Char → List Char → Prop
  | parts {cs a b c rest : List Char} : Minus cs a → Whole a b → Fraction b c → Exponent c rest → Numeral cs rest

inductive Character : List Char → List Char → Prop
  | itself {c : Char} {cs : List Char} : 0x20 ≤ c.toNat → c ≠ '"' → c ≠ '\\' → Character (c :: cs) cs
  | escape {c : Char} {cs : List Char} :
    c ∈ ['"', '\\', '/', 'b', 'f', 'n', 'r', 't'] → Character ('\\' :: c :: cs) cs
  | code {ds cs : List Char} : ds.length = 4 → (∀ d ∈ ds, Number.isDigitOf 16 d = true) →
    Character ('\\' :: 'u' :: (ds ++ cs)) cs

inductive Characters : List Char → List Char → Prop
  | quote (cs : List Char) : Characters ('"' :: cs) cs
  | more {cs mid rest : List Char} : Character cs mid → Characters mid rest → Characters cs rest

mutual

inductive Value (words : List String) : List Char → List Char → Prop
  | word {w : String} (cs : List Char) : w ∈ words → Value words (w.toList ++ cs) cs
  | number {cs rest : List Char} : Numeral cs rest → Value words cs rest
  | string {cs rest : List Char} : Characters cs rest → Value words ('"' :: cs) rest
  | emptyObject {cs rest : List Char} : Blanks cs ('\x7d' :: rest) → Value words ('\x7b' :: cs) rest
  | object {cs mid rest : List Char} : Blanks cs mid → Members words mid rest → Value words ('\x7b' :: cs) rest
  | emptyArray {cs rest : List Char} : Blanks cs (']' :: rest) → Value words ('[' :: cs) rest
  | array {cs mid rest : List Char} : Blanks cs mid → Elements words mid rest → Value words ('[' :: cs) rest

inductive Members (words : List String) : List Char → List Char → Prop
  | last {cs a b c d rest : List Char} : Characters cs a → Blanks a (':' :: b) → Blanks b c → Value words c d →
    Blanks d ('\x7d' :: rest) → Members words ('"' :: cs) rest
  | more {cs a b c d e f rest : List Char} : Characters cs a → Blanks a (':' :: b) → Blanks b c → Value words c d →
    Blanks d (',' :: e) → Blanks e f → Members words f rest → Members words ('"' :: cs) rest

inductive Elements (words : List String) : List Char → List Char → Prop
  | last {cs a rest : List Char} : Value words cs a → Blanks a (']' :: rest) → Elements words cs rest
  | more {cs a b c rest : List Char} : Value words cs a → Blanks a (',' :: b) → Blanks b c →
    Elements words c rest → Elements words cs rest

end

def Document (words : List String) (cs : List Char) : Prop :=
  ∃ a b, Blanks cs a ∧ Value words a b ∧ Blanks b []

def standardWords : List String := ["null", "true", "false"]

def furtherWords : List String := ["NaN", "Infinity", "-Infinity"]

/-! ## Texts without further words -/

/-- Behind a part of a text stands an end of the text. -/
theorem Blanks.suffix {cs rest : List Char} (h : Blanks cs rest) : rest <:+ cs := by
  induction h with
  | none cs => exact List.suffix_refl cs
  | more _ _ ih => exact ih.trans (List.suffix_cons _ _)

theorem Digits.suffix {cs rest : List Char} (h : Digits cs rest) : rest <:+ cs := by
  induction h with
  | last _ => exact List.suffix_cons _ _
  | more _ _ ih => exact ih.trans (List.suffix_cons _ _)

theorem Minus.suffix {cs rest : List Char} (h : Minus cs rest) : rest <:+ cs := by
  cases h with
  | none => exact List.suffix_refl _
  | sign => exact List.suffix_cons _ _

theorem Whole.suffix {cs rest : List Char} (h : Whole cs rest) : rest <:+ cs := by
  cases h with
  | zero => exact List.suffix_cons _ _
  | digits _ ds => exact ds.suffix

theorem Fraction.suffix {cs rest : List Char} (h : Fraction cs rest) : rest <:+ cs := by
  cases h with
  | none => exact List.suffix_refl _
  | point ds => exact ds.suffix.trans (List.suffix_cons _ _)

theorem Sign.suffix {cs rest : List Char} (h : Sign cs rest) : rest <:+ cs := by
  cases h with
  | none => exact List.suffix_refl _
  | minus => exact List.suffix_cons _ _
  | plus => exact List.suffix_cons _ _

theorem Exponent.suffix {cs rest : List Char} (h : Exponent cs rest) : rest <:+ cs := by
  cases h with
  | none => exact List.suffix_refl _
  | power _ sign ds => exact ds.suffix.trans (sign.suffix.trans (List.suffix_cons _ _))

theorem Numeral.suffix {cs rest : List Char} (h : Numeral cs rest) : rest <:+ cs := by
  obtain ⟨minus, whole, fraction, exponent⟩ := h
  exact exponent.suffix.trans (fraction.suffix.trans (whole.suffix.trans minus.suffix))

theorem Character.suffix {cs rest : List Char} (h : Character cs rest) : rest <:+ cs := by
  cases h with
  | itself _ _ _ => exact List.suffix_cons _ _
  | escape _ => exact (List.suffix_cons _ _).trans (List.suffix_cons _ _)
  | @code ds _ _ _ =>
    exact (List.suffix_append ds _).trans ((List.suffix_cons _ _).trans (List.suffix_cons _ _))

theorem Characters.suffix {cs rest : List Char} (h : Characters cs rest) : rest <:+ cs := by
  induction h with
  | quote _ => exact List.suffix_cons _ _
  | more first _ ih => exact ih.trans first.suffix

section Further

variable {words : List String}

def Occurs (words : List String) (cs : List Char) : Prop := ∃ w ∈ words, w.toList <:+: cs

theorem Occurs.of_suffix {cs rest : List Char} (h : Occurs words rest) (behind : rest <:+ cs) : Occurs words cs :=
  let ⟨w, known, inside⟩ := h
  ⟨w, known, inside.trans behind.isInfix⟩

end Further

mutual

/-- What stands behind a value is an end of the text, and the value needs no further word unless one occurs. -/
theorem Value.without {words more : List String} {cs rest : List Char} :
    Value (words ++ more) cs rest → rest <:+ cs ∧ (Value words cs rest ∨ Occurs more cs)
  | .word (w := w) cs known => by
    refine ⟨List.suffix_append _ _, ?_⟩
    rcases List.mem_append.mp known with own | further
    · exact .inl (.word cs own)
    · exact .inr ⟨w, further, (List.prefix_append _ _).isInfix⟩
  | .number numeral => ⟨numeral.suffix, .inl (.number numeral)⟩
  | .string chars => ⟨chars.suffix.trans (List.suffix_cons _ _), .inl (.string chars)⟩
  | .emptyObject blanks =>
    ⟨(List.suffix_cons _ _).trans (blanks.suffix.trans (List.suffix_cons _ _)), .inl (.emptyObject blanks)⟩
  | .object blanks members => by
    obtain ⟨behind, split⟩ := members.without
    have inner := blanks.suffix.trans (List.suffix_cons '\x7b' _)
    exact ⟨behind.trans inner, split.imp (.object blanks) fun occurs => occurs.of_suffix inner⟩
  | .emptyArray blanks =>
    ⟨(List.suffix_cons _ _).trans (blanks.suffix.trans (List.suffix_cons _ _)), .inl (.emptyArray blanks)⟩
  | .array blanks elements => by
    obtain ⟨behind, split⟩ := elements.without
    have inner := blanks.suffix.trans (List.suffix_cons '[' _)
    exact ⟨behind.trans inner, split.imp (.array blanks) fun occurs => occurs.of_suffix inner⟩

theorem Members.without {words more : List String} {cs rest : List Char} :
    Members (words ++ more) cs rest → rest <:+ cs ∧ (Members words cs rest ∨ Occurs more cs)
  | .last key colon before value after => by
    obtain ⟨behind, split⟩ := value.without
    have inner := before.suffix.trans ((List.suffix_cons ':' _).trans (colon.suffix.trans
      (key.suffix.trans (List.suffix_cons '"' _))))
    exact ⟨(List.suffix_cons _ _).trans (after.suffix.trans (behind.trans inner)),
      split.imp (fun value => .last key colon before value after) fun occurs => occurs.of_suffix inner⟩
  | .more key colon before value comma blanks members => by
    obtain ⟨behind, split⟩ := value.without
    obtain ⟨behind', split'⟩ := members.without
    have inner := before.suffix.trans ((List.suffix_cons ':' _).trans (colon.suffix.trans
      (key.suffix.trans (List.suffix_cons '"' _))))
    have later := (blanks.suffix.trans ((List.suffix_cons ',' _).trans comma.suffix)).trans (behind.trans inner)
    refine ⟨behind'.trans later, ?_⟩
    rcases split with value | occurs
    · exact split'.imp (.more key colon before value comma blanks) fun occurs => occurs.of_suffix later
    · exact .inr (occurs.of_suffix inner)

theorem Elements.without {words more : List String} {cs rest : List Char} :
    Elements (words ++ more) cs rest → rest <:+ cs ∧ (Elements words cs rest ∨ Occurs more cs)
  | .last value after => by
    obtain ⟨behind, split⟩ := value.without
    exact ⟨(List.suffix_cons _ _).trans (after.suffix.trans behind), split.imp_left fun value => .last value after⟩
  | .more value comma blanks elements => by
    obtain ⟨behind, split⟩ := value.without
    obtain ⟨behind', split'⟩ := elements.without
    have later := (blanks.suffix.trans ((List.suffix_cons ',' _).trans comma.suffix)).trans behind
    refine ⟨behind'.trans later, ?_⟩
    rcases split with value | occurs
    · exact split'.imp (.more value comma blanks) fun occurs => occurs.of_suffix later
    · exact .inr occurs

end

theorem Document.without {words more : List String} {cs : List Char} (h : Document (words ++ more) cs) :
    Document words cs ∨ Occurs more cs := by
  obtain ⟨a, b, before, value, after⟩ := h
  exact value.without.2.imp (fun value => ⟨a, b, before, value, after⟩) fun occurs => occurs.of_suffix before.suffix

end Grammar

/-! ## What the reader goes through -/

open Grammar

theorem isSpace_iff (c : Char) : isSpace c = true ↔ c ∈ [' ', '\t', '\n', '\r'] := by
  simp [isSpace, or_assoc]

theorem blanks_dropWhile (cs : List Char) : Blanks cs (cs.drop (cs.takeWhile isSpace).length) := by
  induction cs with
  | nil => exact .none _
  | cons c cs ih =>
    by_cases space : isSpace c = true
    · rw [List.takeWhile_cons_of_pos space]
      exact .more ((isSpace_iff c).mp space) ih
    · rw [List.takeWhile_cons_of_neg space]
      exact .none _

theorem blanks_skipSpace (r : Rest) : Blanks r.chars r.skipSpace.chars := blanks_dropWhile r.chars

/-- Digits that are taken from the front, if there are any. -/
theorem digits_takeWhile {cs : List Char} (some : cs.takeWhile Char.isDigit ≠ []) :
    Digits cs (cs.drop (cs.takeWhile Char.isDigit).length) := by
  induction cs with
  | nil => exact absurd rfl some
  | cons c cs ih =>
    by_cases digit : c.isDigit = true
    · rw [List.takeWhile_cons_of_pos digit]
      by_cases more : cs.takeWhile Char.isDigit = []
      · rw [more]
        exact .last digit
      · exact .more digit (ih more)
    · rw [List.takeWhile_cons_of_neg digit] at some
      exact absurd rfl some

theorem whole_wholeDigits {cs : List Char} (some : wholeDigits cs ≠ []) : Whole cs (cs.drop (wholeDigits cs).length) := by
  unfold wholeDigits at some ⊢
  split at some
  · exact .zero _
  · next other =>
    cases cs with
    | nil => exact absurd rfl some
    | cons c cs => exact .digits (fun zero => other cs (by rw [zero])) (digits_takeWhile some)

theorem fraction_fractionDigits (cs : List Char) :
    Fraction cs (cs.drop (if (fractionDigits cs).isEmpty then 0 else (fractionDigits cs).length + 1)) := by
  unfold fractionDigits
  split
  · next cs =>
    by_cases some : cs.takeWhile Char.isDigit = []
    · rw [some]
      exact .none _
    · rw [if_neg (by simpa using some)]
      exact .point (digits_takeWhile some)
  · exact .none _

theorem sign_takeSign (cs : List Char) : Sign cs (Number.takeSign cs).2 := by
  unfold Number.takeSign
  split
  · exact .minus _
  · exact .plus _
  · exact .none _

theorem exponent_takeExponent? {cs after : List Char} {e : Int} (taken : Number.takeExponent? cs = some (e, after)) :
    Exponent cs after := by
  cases cs with
  | nil => cases taken
  | cons c cs =>
    have sign := sign_takeSign cs
    unfold Number.takeExponent? at taken
    rcases Number.takeSign cs with ⟨negative, rest⟩
    dsimp only at taken
    split_ifs at taken with letter noDigits <;> cases taken
    all_goals exact .power (by simpa using letter) sign (digits_takeWhile (by simpa using noDigits))

/-- A text is longer than one of its ends by what stands before it. -/
theorem drop_of_suffix {rest cs : List Char} (h : rest <:+ cs) : cs.drop (cs.length - rest.length) = rest := by
  obtain ⟨front, rfl⟩ := h
  simp

theorem minus_takeMinus (cs : List Char) : Minus cs (takeMinus cs).2 := by
  unfold takeMinus
  split
  · exact .sign _
  · exact .none _

theorem drop_takeMinus (cs : List Char) : cs.drop (if (takeMinus cs).1 then 1 else 0) = (takeMinus cs).2 := by
  unfold takeMinus
  split <;> rfl

theorem numeral_readNumber {r r' : Rest} {d : Data} (done : readNumber r = .ok (d, r')) : Numeral r.chars r'.chars := by
  have minus := minus_takeMinus r.chars
  have cut := drop_takeMinus r.chars
  unfold readNumber at done
  generalize takeMinus r.chars = signed at done minus cut
  obtain ⟨negative, afterSign⟩ := signed
  dsimp only at done minus cut
  by_cases noDigits : wholeDigits afterSign = []
  · rw [noDigits] at done
    cases done
  rw [if_neg (by simpa using noDigits)] at done
  have whole := whole_wholeDigits noDigits
  have fraction := fraction_fractionDigits (afterSign.drop (wholeDigits afterSign).length)
  -- what is dropped is the sign, the whole digits and what follows them
  have front (n : Nat) : (r.drop ((if negative then 1 else 0) + (wholeDigits afterSign).length + n)).chars =
      (afterSign.drop (wholeDigits afterSign).length).drop n := by
    rw [Rest.drop, ← cut, List.drop_drop, List.drop_drop, Nat.add_assoc]
  split at done
  · next e after taken =>
    cases done
    have exponent := exponent_takeExponent? taken
    refine .parts minus whole fraction ?_
    rw [Nat.add_assoc, front, ← List.drop_drop, drop_of_suffix exponent.suffix]
    exact exponent
  · generalize (if negative = true then 1 else 0) = signLength at done front
    generalize (if (fractionDigits (afterSign.drop (wholeDigits afterSign).length)).isEmpty = true then 0 else _) =
      fractionLength at done fraction
    split_ifs at done with noFraction long
    all_goals cases done
    all_goals exact .parts minus whole fraction (by rw [front]; exact .none _)

theorem escape_of_plainEscape? {e c : Char} (known : plainEscape? e = some c) :
    e ∈ ['"', '\\', '/', 'b', 'f', 'n', 'r', 't'] := by
  unfold plainEscape? at known
  split at known
  case h_9 => cases known
  all_goals decide

/-- Four digits and what follows them. -/
theorem split_of_fourHex? {cs : List Char} {code : Nat} (known : fourHex? cs = some code) :
    ∃ ds rest, cs = ds ++ rest ∧ ds.length = 4 ∧ (∀ d ∈ ds, Number.isDigitOf 16 d = true) ∧ rest = cs.drop 4 := by
  unfold fourHex? at known
  dsimp only at known
  split at known
  · next four =>
    obtain ⟨length, digits⟩ := Bool.and_eq_true_iff.mp four
    exact ⟨cs.take 4, cs.drop 4, (List.take_append_drop 4 cs).symm, by simpa using length, List.all_eq_true.mp digits, rfl⟩
  · cases known

theorem character_code {cs : List Char} {code : Nat} (known : fourHex? cs = some code) :
    Character ('\\' :: 'u' :: cs) (cs.drop 4) := by
  obtain ⟨ds, rest, split, length, digits, rfl⟩ := split_of_fourHex? known
  rw [split]
  have character : Character ('\\' :: 'u' :: (ds ++ cs.drop 4)) (cs.drop 4) := .code length digits
  simpa [← length] using character

theorem character_joinPair? {high : Nat} {cs : List Char} {c : Char} (joined : joinPair? high cs = some (some c)) :
    Character cs (cs.drop 6) := by
  unfold joinPair? at joined
  split at joined
  · next rest =>
    cases hex : fourHex? rest with
    | none =>
      rw [hex] at joined
      cases joined
    | some low => exact character_code hex
  · cases joined

theorem characters_readString {start n : Nat} {r r' : Rest} {read : List Char} {s : String}
    (done : readString start n r read = .ok (s, r')) : Characters r.chars r'.chars := by
  induction n generalizing r read with
  | zero => cases done
  | succ n ih =>
    rw [readString] at done
    split at done
    · cases done
    · next rest text =>
      cases done
      simp only [Rest.drop, text]
      exact .quote _
    · next rest text =>
      split at done
      · cases done
      · next digits =>
        split at done
        · cases done
        · cases hex : fourHex? digits with
          | none =>
            rw [hex] at done
            cases done
          | some code =>
            simp only [hex] at done
            have first : Character r.chars (r.drop 6).chars := by
              rw [Rest.drop, text]
              exact character_code hex
            split at done
            · split at done
              · cases done
              · next c joined =>
                exact .more first (.more (character_joinPair? joined) (ih done))
              · exact .more first (ih done)
            · exact .more first (ih done)
      · next e rest' _ =>
        split at done
        · next c known =>
          have first : Character r.chars (r.drop 2).chars := by
            rw [Rest.drop, text]
            exact .escape (escape_of_plainEscape? known)
          exact .more first (ih done)
        · cases done
    · next c rest notQuote notEscape text =>
      split at done
      · cases done
      · next high =>
        have first : Character r.chars (r.drop 1).chars := by
          rw [Rest.drop, text]
          exact .itself (by omega) notQuote notEscape
        exact .more first (ih done)

def allWords : List String := standardWords ++ furtherWords

theorem value_readWord? {r : Rest} {known : List (String × Data)} {found : Data × Rest}
    (listed : ∀ w ∈ known, w.1 ∈ allWords) (h : readWord? r known = some found) : Value allWords r.chars found.2.chars := by
  induction known with
  | nil => cases h
  | cons w known ih =>
    rw [readWord?] at h
    split at h
    · next start =>
      cases h
      obtain ⟨rest, same⟩ := List.isPrefixOf_iff_prefix.mp start
      have behind : (r.drop w.1.length).chars = rest := by
        rw [Rest.drop, ← same, ← String.length_toList, List.drop_left]
      dsimp only
      rw [behind, ← same]
      exact .word rest (listed w List.mem_cons_self)
    · exact ih (fun w hw => listed w (List.mem_cons_of_mem _ hw)) h

theorem listed_words : ∀ w ∈ words, w.1 ∈ allWords := by
  simp [words, allWords, standardWords, furtherWords]

open Yaml (exists_of_bind_eq_ok)

theorem drop_one {r : Rest} {c : Char} {rest : List Char} (text : r.chars = c :: rest) : (r.drop 1).chars = rest := by
  rw [Rest.drop, text]
  rfl

theorem blanks_behind {r : Rest} {c : Char} {rest : List Char} (text : r.chars = c :: rest) :
    Blanks rest (r.drop 1).skipSpace.chars := by
  have blanks := blanks_skipSpace (r.drop 1)
  rwa [drop_one text] at blanks

structure Sound (n : Nat) : Prop where
  value : ∀ {depth : Nat} {r r' : Rest} {d : Data}, readValue n depth r = .ok (d, r') → Value allWords r.chars r'.chars
  members : ∀ {depth : Nat} {r r' : Rest} {known : List (Data × Data)} {d : Data},
    readEntries n depth r known = .ok (d, r') → Members allWords r.chars r'.chars
  elements : ∀ {depth : Nat} {r r' : Rest} {items : List Data} {d : Data},
    readItems n depth r items = .ok (d, r') → Elements allWords r.chars r'.chars

section Step

variable {n depth : Nat} {r r' : Rest} {d : Data}

theorem Sound.value_succ (sound : Sound n) (done : readValue (n + 1) depth r = .ok (d, r')) :
    Value allWords r.chars r'.chars := by
  rw [readValue] at done
  split at done
  · next rest text =>
    obtain ⟨⟨s, behind⟩, read, done⟩ := exists_of_bind_eq_ok done
    cases done
    have chars := characters_readString read
    rw [drop_one text] at chars
    rw [text]
    exact .string chars
  · next rest text =>
    have blanks := blanks_behind text
    split at done
    · cases done
    · dsimp only at done
      rw [text]
      split at done
      · next after closing =>
        cases done
        rw [closing] at blanks
        rw [drop_one closing]
        exact .emptyObject blanks
      · exact .object blanks (sound.members done)
  · next rest text =>
    have blanks := blanks_behind text
    split at done
    · cases done
    · dsimp only at done
      rw [text]
      split at done
      · next after closing =>
        cases done
        rw [closing] at blanks
        rw [drop_one closing]
        exact .emptyArray blanks
      · exact .array blanks (sound.elements done)
  · split at done
    · next found word =>
      cases done
      exact value_readWord? listed_words word
    · exact .number (numeral_readNumber done)

theorem Sound.members_succ (sound : Sound n) {known : List (Data × Data)}
    (done : readEntries (n + 1) depth r known = .ok (d, r')) : Members allWords r.chars r'.chars := by
  rw [readEntries] at done
  split at done
  · next rest text =>
    obtain ⟨⟨key, afterKey⟩, read, done⟩ := exists_of_bind_eq_ok done
    have chars := characters_readString read
    rw [drop_one text] at chars
    dsimp only at done
    split at done
    · next atColon colon =>
      obtain ⟨⟨value, afterValue⟩, readValue, done⟩ := exists_of_bind_eq_ok done
      have beforeColon := blanks_skipSpace afterKey
      rw [colon] at beforeColon
      have beforeValue := blanks_behind colon
      have behindValue := blanks_skipSpace afterValue
      dsimp only at done
      rw [text]
      split at done
      · next after closing =>
        cases done
        rw [closing] at behindValue
        rw [drop_one closing]
        exact .last chars beforeColon beforeValue (sound.value readValue) behindValue
      · next after comma =>
        rw [comma] at behindValue
        exact .more chars beforeColon beforeValue (sound.value readValue) behindValue (blanks_behind comma)
          (sound.members done)
      · cases done
    · cases done
  · cases done

theorem Sound.elements_succ (sound : Sound n) {items : List Data}
    (done : readItems (n + 1) depth r items = .ok (d, r')) : Elements allWords r.chars r'.chars := by
  rw [readItems] at done
  obtain ⟨⟨value, afterValue⟩, readValue, done⟩ := exists_of_bind_eq_ok done
  have behindValue := blanks_skipSpace afterValue
  dsimp only at done
  split at done
  · next after closing =>
    cases done
    rw [closing] at behindValue
    rw [drop_one closing]
    exact .last (sound.value readValue) behindValue
  · next after comma =>
    rw [comma] at behindValue
    exact .more (sound.value readValue) behindValue (blanks_behind comma) (sound.elements done)
  · cases done

end Step

theorem sound (n : Nat) : Sound n := by
  induction n with
  | zero =>
    refine ⟨?_, ?_, ?_⟩
    · intro _ _ _ _ done
      cases done
    · intro _ _ _ _ _ done
      cases done
    · intro _ _ _ _ _ done
      cases done
  | succ n ih => exact ⟨ih.value_succ, ih.members_succ, ih.elements_succ⟩

theorem document_read {text : List Char} {d : Data} (done : read text = .ok d) : Document allWords text := by
  unfold read at done
  split at done
  · cases done
  · obtain ⟨⟨value, rest⟩, read, done⟩ := exists_of_bind_eq_ok done
    dsimp only at done
    split at done
    · next ended =>
      have behind := blanks_skipSpace rest
      rw [List.isEmpty_iff.mp ended] at behind
      exact ⟨_, _, blanks_skipSpace ⟨text, 0⟩, (sound _).value read, behind⟩
    · cases done

end Stencil.Json

namespace Stencil.Run

open Json.Grammar

theorem document_checkJson {target text : String} (passed : checkJson target text = .ok ()) :
    Document Json.allWords text.toList := by
  unfold checkJson at passed
  split at passed
  · next d done => exact Json.document_read done
  · cases passed
  · cases passed

/-- The check is the last thing that is done with a text. -/
theorem yields_checked (target text : String) :
    Task.Yields (fun content => checkJson target content = .ok ())
      (do Task.ofExcept (checkJson target text); return text) := by
  intro log content made
  have whole : (do Task.ofExcept (checkJson target text); return text : Task String) log =
      ((checkJson target text).map fun _ => text, log) := by
    cases checkJson target text <;> rfl
  rw [whole] at made
  cases passed : checkJson target text with
  | error f =>
    rw [passed] at made
    cases made
  | ok _ =>
    rw [passed] at made
    cases made
    exact passed

theorem checked_of_render {files : FileTree} {input : List UInt8} {root : Path} {target text : String} {o : Options}
    (checks : o.checkJson = true) (made : (render files input root target o).perform.1 = .ok text) :
    checkJson target text = .ok () := by
  have yields : (render files input root target o).Yields fun content => checkJson target content = .ok () := by
    refine .bind fun config => .bind fun p => .bind fun vars => ?_
    simp only [checks, if_true]
    split
    · exact .bind fun _ => .bind fun _ => .bind fun _ => yields_checked target _
    · exact .bind fun _ => .bind fun _ => yields_checked target _
  exact yields [] text made

/-- A text that passes the check, by itself or at the end of a run, is one value with blanks around it, where further words
stand for values. It is a text of the format unless one of these words occurs in it. -/
theorem checked_text_is_json (target text : String)
    (passes : checkJson target text = .ok () ∨ ∃ (files : FileTree) (input : List UInt8) (root : Path) (o : Options),
      o.checkJson = true ∧ (render files input root target o).perform.1 = .ok text) :
    Document (standardWords ++ furtherWords) text.toList ∧
      (Document standardWords text.toList ∨ ∃ w ∈ furtherWords, w.toList <:+: text.toList) := by
  have passed : checkJson target text = .ok () := by
    rcases passes with passed | ⟨files, input, root, o, checks, made⟩
    · exact passed
    · exact checked_of_render checks made
  have document := document_checkJson passed
  exact ⟨document, document.without⟩

theorem checkJson_of_isOk {target text : String} (h : (checkJson target text).isOk = true) : checkJson target text = .ok () := by
  cases passed : checkJson target text with
  | ok _ => rfl
  | error f =>
    rw [passed] at h
    cases h

/-- An escape keeps a further word out of a text. -/
theorem checked_text_is_json_escaped :
    Document (standardWords ++ furtherWords) "[1.5e3, \"\\u004eaN\"]".toList ∧
      Document standardWords "[1.5e3, \"\\u004eaN\"]".toList := by
  have absent : ∀ w ∈ furtherWords, ¬ w.toList <:+: "[1.5e3, \"\\u004eaN\"]".toList := by decide +kernel
  obtain ⟨document, standard⟩ := checked_text_is_json "t" "[1.5e3, \"\\u004eaN\"]" (.inl (checkJson_of_isOk (by decide +kernel)))
  refine ⟨document, standard.resolve_right ?_⟩
  rintro ⟨w, further, occurs⟩
  exact absent w further occurs

/-- A further word passes by itself, and is no text of the format. -/
theorem further_word_passes : checkJson "t" "NaN" = .ok () ∧ ¬ Document standardWords "NaN".toList := by
  refine ⟨checkJson_of_isOk (by decide +kernel), ?_⟩
  rw [show "NaN".toList = ['N', 'a', 'N'] by decide]
  rintro ⟨a, b, blanks, value, -⟩
  have here : a = ['N', 'a', 'N'] := by
    cases blanks with
    | none => rfl
    | more blank _ => simp at blank
  subst here
  generalize text : ['N', 'a', 'N'] = cs at value
  cases value with
  | word rest known =>
    simp only [standardWords, List.mem_cons, List.not_mem_nil, or_false] at known
    rcases known with rfl | rfl | rfl <;> simp at text
  | number numeral =>
    subst text
    obtain ⟨minus, whole, -, -⟩ := numeral
    cases minus
    cases whole with
    | digits _ ds => cases ds <;> contradiction
  | _ => simp at text

end Stencil.Run
