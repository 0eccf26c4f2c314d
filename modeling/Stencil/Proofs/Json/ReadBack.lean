import Mathlib
import Stencil.Json.Writer
import Stencil.Proofs.Digits
import Stencil.Proofs.Keys.Reading

/-!
# Reading what was written

Data of the kinds that the format has is written as a text that the reader takes for the same data, with its entries in
their order. Texts are escaped so that no quote stands in them, and numbers end where their digits end. Lists and maps
are read back when their parts are, as long as they do not open too deep.
-/

set_option autoImplicit false

namespace Stencil.Json

def entry (m : String × Data) : Data × Data := (.text m.1, m.2)

inductive Storable : Data → Prop
  | null : Storable .null
  | bool (b : Bool) : Storable (.bool b)
  | int (n : Int) : Storable (.int n)
  | text (s : String) : Storable (.text s)
  | list {items : List Data} : (∀ d ∈ items, Storable d) → Storable (.list items)
  | map (members : List (String × Data)) : (members.map Prod.fst).Nodup → (∀ m ∈ members, Storable m.2) →
    Storable (.map (members.map entry))

mutual

def levels : Data → Nat
  | .list items => itemsLevels items
  | .map entries => entriesLevels entries
  | _ => 0

def itemsLevels : List Data → Nat
  | [] => 0
  | d :: rest => max (levels d + 1) (itemsLevels rest)

def entriesLevels : List (Data × Data) → Nat
  | [] => 0
  | (_, d) :: rest => max (levels d + 1) (entriesLevels rest)

end

mutual

def Long : Data → Prop
  | .int n => Data.isTooLong n = true
  | .list items => ItemsLong items
  | .map entries => EntriesLong entries
  | _ => False

def ItemsLong : List Data → Prop
  | [] => False
  | d :: rest => Long d ∨ ItemsLong rest

def EntriesLong : List (Data × Data) → Prop
  | [] => False
  | (_, d) :: rest => Long d ∨ EntriesLong rest

end

def compact : Style := ⟨false, false, none⟩

/-! ## Reading what was written -/

def Ends (rest : List Char) : Prop := ∀ c ∈ rest.head?, c ∈ [',', ']', '\x7d']

structure ReadsBack (depth : Nat) (d : Data) (cs : List Char) : Prop where
  front : ∃ c tail, cs = c :: tail ∧ isSpace c = false ∧ c ≠ ']' ∧ c ≠ '\ufeff'
  read : ∀ {rest : List Char} {n : Nat} {r : Rest}, Ends rest → r.chars = cs ++ rest → 2 * r.chars.length < n →
    ∃ r', readValue n depth r = .ok (d, r') ∧ r'.chars = rest

section Space

variable {r : Rest} {c : Char} {tail : List Char}

theorem skipSpace_of_not_space (text : r.chars = c :: tail) (plain : isSpace c = false) : r.skipSpace.chars = c :: tail := by
  rw [Rest.skipSpace, Rest.drop, text, List.takeWhile_cons_of_neg (by simp [plain])]
  rfl

theorem skipSpace_of_blank (text : r.chars = ' ' :: c :: tail) (plain : isSpace c = false) :
    r.skipSpace.chars = c :: tail := by
  rw [Rest.skipSpace, Rest.drop, text, List.takeWhile_cons_of_pos (by decide),
    List.takeWhile_cons_of_neg (by simp [plain])]
  rfl

theorem chars_drop_one (text : r.chars = c :: tail) : (r.drop 1).chars = tail := by
  rw [Rest.drop, text]
  rfl

end Space

/-! ### Words and numbers -/

theorem readValue_other {n depth : Nat} {r : Rest} {c : Char} {tail : List Char} (text : r.chars = c :: tail)
    (other : c ∉ ['"', '\x7b', '[']) :
    readValue (n + 1) depth r = match readWord? r words with
      | some found => .ok found
      | none => readNumber r := by
  simp only [List.mem_cons, List.not_mem_nil, or_false, not_or] at other
  rw [readValue, text]
  split
  · next same => exact absurd (List.cons.inj same).1 other.1
  · next same => exact absurd (List.cons.inj same).1 other.2.1
  · next same => exact absurd (List.cons.inj same).1 other.2.2
  · rfl

theorem readsBack_word (depth : Nat) {w : String} {d : Data} {c : Char} {tail : List Char} (letters : w.toList = c :: tail)
    (first : c.isAlpha = true)
    (known : ∀ (r : Rest) (rest : List Char), r.chars = w.toList ++ rest → readWord? r words = some (d, r.drop w.length)) :
    ReadsBack depth d w.toList := by
  have other {s : Char} (sign : s.isAlpha = false) : c ≠ s := by
    rintro rfl
    rw [first] at sign
    cases sign
  refine ⟨⟨c, tail, letters, ?_, other rfl, other rfl⟩, fun {rest n r} _ text enough => ⟨r.drop w.length, ?_, ?_⟩⟩
  · simp [isSpace, other]
  · obtain ⟨n, rfl⟩ := Nat.exists_eq_succ_of_ne_zero (Nat.ne_zero_of_lt enough)
    have chars : r.chars = c :: (tail ++ rest) := by rw [text, letters]; rfl
    rw [readValue_other chars (by simp [other]), known r rest text]
  · rw [Rest.drop, text, ← String.length_toList, List.drop_left]

theorem readsBack_null (depth : Nat) : ReadsBack depth .null "null".toList := by
  refine readsBack_word depth rfl rfl fun r rest text => ?_
  simp [readWord?, words, text]

theorem readsBack_bool (depth : Nat) (b : Bool) : ReadsBack depth (.bool b) (if b then "true" else "false").toList := by
  cases b with
  | true =>
    refine readsBack_word depth rfl rfl fun r rest text => ?_
    simp [readWord?, words, show r.chars = "true".toList ++ rest from text]
  | false =>
    refine readsBack_word depth rfl rfl fun r rest text => ?_
    simp [readWord?, words, show r.chars = "false".toList ++ rest from text]

/-- What ends a value neither continues a number nor begins a word. -/
theorem Ends.stops {rest : List Char} (h : Ends rest) :
    rest.takeWhile Char.isDigit = [] ∧ fractionDigits rest = [] ∧ Number.takeExponent? rest = none := by
  cases rest with
  | nil => exact ⟨rfl, rfl, rfl⟩
  | cons c rest =>
    have ending := h c rfl
    simp only [List.mem_cons, List.not_mem_nil, or_false] at ending
    rcases ending with rfl | rfl | rfl <;> exact ⟨rfl, rfl, rfl⟩

theorem digitsOf_ne_nil (n : Nat) : Number.digitsOf n ≠ [] := Nat.toDigits_ne_nil

theorem wholeDigits_digitsOf (n : Nat) {rest : List Char} (h : Ends rest) :
    wholeDigits (Number.digitsOf n ++ rest) = Number.digitsOf n := by
  have all : (Number.digitsOf n ++ rest).takeWhile Char.isDigit = Number.digitsOf n := by
    rw [List.takeWhile_append_of_pos fun c hc => Number.isDigit_of_mem_digitsOf hc, h.stops.1, List.append_nil]
  cases n with
  | zero => rfl
  | succ n =>
    unfold wholeDigits
    split
    · next tail same =>
      have first : (Number.digitsOf (n + 1)).head? = some '0' := by
        rw [← List.head?_append_of_ne_nil _ (digitsOf_ne_nil (n + 1)), same]
        rfl
      exact absurd rfl (Number.head?_toDigits (by decide) (by decide) (Nat.succ_pos n) first)
    · exact all

theorem readNumber_digits {r : Rest} (negative : Bool) {k : Nat} {rest : List Char} (ends : Ends rest)
    (text : takeMinus r.chars = (negative, Number.digitsOf k ++ rest))
    (cut : r.chars.drop (if negative then 1 else 0) = Number.digitsOf k ++ rest)
    (short : (Number.digitsOf k).length ≤ Number.digitLimit) :
    ∃ r', readNumber r = .ok (.int (if negative then -(k : Int) else k), r') ∧ r'.chars = rest := by
  have some : (Number.digitsOf k).isEmpty = false := by simp [digitsOf_ne_nil]
  refine ⟨r.drop ((if negative then 1 else 0) + (Number.digitsOf k).length + 0), ?_, ?_⟩
  · unfold readNumber
    simp only [text, wholeDigits_digitsOf k ends, some, List.drop_left, ends.stops.2.1, List.isEmpty_nil, if_true,
      List.drop_zero, ends.stops.2.2, Nat.not_lt.mpr short, if_false, Number.ofDigits_digitsOf, Bool.false_eq_true]
  · rw [Rest.drop, Nat.add_zero, ← List.drop_drop, cut, List.drop_left]

/-- Digits begin with a character that begins nothing else. -/
theorem exists_digit_front (k : Nat) : ∃ c tail, Number.digitsOf k = c :: tail ∧ c.isDigit = true := by
  cases digits : Number.digitsOf k with
  | nil => exact absurd digits (digitsOf_ne_nil k)
  | cons c tail =>
    have first : c ∈ Number.digitsOf k := by
      rw [digits]
      exact List.mem_cons_self
    exact ⟨c, tail, rfl, Number.isDigit_of_mem_digitsOf first⟩

/-- No word begins with a digit, and only one with a minus sign, behind which is none. -/
theorem readWord?_digit {r : Rest} {c : Char} {tail : List Char} (digit : c.isDigit = true)
    (text : r.chars = c :: tail ∨ r.chars = '-' :: c :: tail) : readWord? r words = none := by
  have other {s : Char} (sign : s.isDigit = false) : s ≠ c := by
    rintro rfl
    rw [digit] at sign
    cases sign
  rcases text with text | text <;> simp [readWord?, words, text, other]

theorem readsBack_int (depth : Nat) {n : Int} (short : Data.isTooLong n = false) :
    ReadsBack depth (.int n) (Number.intText n).toList := by
  obtain ⟨c, tail, digits, digit⟩ := exists_digit_front n.natAbs
  have other {s : Char} (sign : s.isDigit = false) : c ≠ s := by
    rintro rfl
    rw [digit] at sign
    cases sign
  have fits := Data.length_digitsOf_le short
  unfold Number.intText
  split
  · next negative =>
    have same : -(n.natAbs : Int) = n := by omega
    refine ⟨⟨'-', Number.digitsOf n.natAbs, by simp, rfl, by decide, by decide⟩, fun {rest k r} ends text enough => ?_⟩
    obtain ⟨k, rfl⟩ := Nat.exists_eq_succ_of_ne_zero (Nat.ne_zero_of_lt enough)
    have chars : r.chars = '-' :: (Number.digitsOf n.natAbs ++ rest) := by simpa using text
    have front : r.chars = '-' :: c :: (tail ++ rest) := by rw [chars, digits]; rfl
    have read := readNumber_digits (r := r) true ends (by rw [chars]; rfl) (by rw [chars]; rfl) fits
    rw [readValue_other chars (by decide), readWord?_digit digit (.inr front)]
    simp only [if_true, same] at read
    exact read
  · next positive =>
    have same : (n.natAbs : Int) = n := by omega
    refine ⟨⟨c, tail, by simpa using digits, by simp [isSpace, other], other rfl, other rfl⟩, fun {rest k r} ends text enough => ?_⟩
    obtain ⟨k, rfl⟩ := Nat.exists_eq_succ_of_ne_zero (Nat.ne_zero_of_lt enough)
    have chars : r.chars = Number.digitsOf n.natAbs ++ rest := by simpa using text
    have front : r.chars = c :: (tail ++ rest) := by rw [chars, digits]; rfl
    have unsigned : takeMinus r.chars = (false, r.chars) := by
      rw [front, takeMinus]
      intro rest same
      exact other rfl (List.cons.inj same).1
    have read := readNumber_digits (r := r) false ends (by rw [unsigned, chars]) chars fits
    rw [readValue_other front (by simp [other]), readWord?_digit digit (.inl front)]
    simp only [Bool.false_eq_true, if_false, same] at read
    exact read

/-! ### Texts -/

section Texts

variable {start n : Nat} {r : Rest} {read more : List Char}

theorem readString_plainEscape {e c : Char} (text : r.chars = '\\' :: e :: more) (known : plainEscape? e = some c) (hex : e ≠ 'u') :
    readString start (n + 1) r read = readString start n (r.drop 2) (c :: read) := by
  simp only [readString, text, known]

theorem fourHex?_hexDigits {k : Nat} (fits : k < 16 ^ 4) (more : List Char) :
    fourHex? (Text.hexDigits 4 k ++ more) = some k := by
  have length := Text.length_hexDigits fits (by decide)
  have front : (Text.hexDigits 4 k ++ more).take 4 = Text.hexDigits 4 k := List.take_left' length
  simp only [fourHex?, front, length, beq_self_eq_true, Bool.true_and, Text.ofDigits_hexDigits]
  rw [if_pos (List.all_eq_true.mpr fun c hc => Text.isDigitOf_of_mem_hexDigits hc)]

theorem readString_control {c : Char} (low : c.toNat < 0x20) (text : r.chars = unicodeEscape c.toNat ++ more) (some : more ≠ []) :
    readString start (n + 1) r read = readString start n (r.drop 6) (c :: read) := by
  have fits : c.toNat < 16 ^ 4 := by omega
  have chars : r.chars = '\\' :: 'u' :: (Text.hexDigits 4 c.toNat ++ more) := text
  have long : ¬ (Text.hexDigits 4 c.toNat ++ more).length ≤ 4 := by
    have := List.length_pos_iff.mpr some
    rw [List.length_append, Text.length_hexDigits fits (by decide)]
    omega
  have single : isHighSurrogate c.toNat = false := by
    simp [isHighSurrogate]
    omega
  have low' : isLowSurrogate c.toNat = false := by
    simp [isLowSurrogate]
    omega
  rw [readString, chars]
  simp only [long, if_false, fourHex?_hexDigits fits, single, Bool.false_and, Bool.false_eq_true, codePoint, low', Bool.or_self,
    Char.ofNat_toNat]

theorem readString_plain {c : Char} (text : r.chars = c :: more) (quote : c ≠ '"') (slash : c ≠ '\\') (high : ¬ c.toNat < 0x20) :
    readString start (n + 1) r read = readString start n (r.drop 1) (c :: read) := by
  rw [readString, text]
  split
  · next same => cases same
  · next same => exact absurd (List.cons.inj same).1 quote
  · next same => exact absurd (List.cons.inj same).1 slash
  · next same =>
    cases same
    rw [if_neg (by omega)]

/-- A character is written with a backslash before it, by its number, or as it is. -/
theorem escapedChar_cases (c : Char) :
    (∃ e, escapedChar false c = ['\\', e] ∧ plainEscape? e = some c ∧ e ≠ 'u' ∧ e ≠ '\r') ∨
    (escapedChar false c = unicodeEscape c.toNat ∧ c.toNat < 0x20) ∨
    (escapedChar false c = [c] ∧ c ≠ '"' ∧ c ≠ '\\' ∧ ¬ c.toNat < 0x20) := by
  simp only [escapedChar, Bool.false_and, Bool.false_eq_true, if_false]
  by_cases quote : (c == '"') = true
  · rw [if_pos quote, eq_of_beq quote]
    exact .inl ⟨_, rfl, rfl, by decide, by decide⟩
  rw [if_neg quote]
  by_cases slash : (c == '\\') = true
  · rw [if_pos slash, eq_of_beq slash]
    exact .inl ⟨_, rfl, rfl, by decide, by decide⟩
  rw [if_neg slash]
  by_cases feed : (c == '\n') = true
  · rw [if_pos feed, eq_of_beq feed]
    exact .inl ⟨_, rfl, rfl, by decide, by decide⟩
  rw [if_neg feed]
  by_cases back : (c == '\r') = true
  · rw [if_pos back, eq_of_beq back]
    exact .inl ⟨_, rfl, rfl, by decide, by decide⟩
  rw [if_neg back]
  by_cases tab : (c == '\t') = true
  · rw [if_pos tab, eq_of_beq tab]
    exact .inl ⟨_, rfl, rfl, by decide, by decide⟩
  rw [if_neg tab]
  by_cases backspace : (c.toNat == 8) = true
  · rw [if_pos backspace, show c = '\x08' from Char.toNat_inj.mp (eq_of_beq backspace)]
    exact .inl ⟨_, rfl, rfl, by decide, by decide⟩
  rw [if_neg backspace]
  by_cases page : (c.toNat == 12) = true
  · rw [if_pos page, show c = '\x0c' from Char.toNat_inj.mp (eq_of_beq page)]
    exact .inl ⟨_, rfl, rfl, by decide, by decide⟩
  rw [if_neg page]
  by_cases low : c.toNat < 0x20
  · rw [if_pos low]
    exact .inr (.inl ⟨rfl, low⟩)
  · rw [if_neg low]
    exact .inr (.inr ⟨rfl, by simpa using quote, by simpa using slash, low⟩)

/-- One character of a text is read back from what is written for it. -/
theorem readString_escapedChar (start n : Nat) (read : List Char) (c : Char) (text : r.chars = escapedChar false c ++ more)
    (some : more ≠ []) :
    readString start (n + 1) r read = readString start n (r.drop (escapedChar false c).length) (c :: read) := by
  rcases escapedChar_cases c with ⟨e, written, known, hex, -⟩ | ⟨written, low⟩ | ⟨written, quote, slash, high⟩
  · rw [written] at text ⊢
    exact readString_plainEscape text known hex
  · have length : (unicodeEscape c.toNat).length = 6 := by
      rw [unicodeEscape, List.length_append, Text.length_hexDigits (by omega) (by decide)]
      rfl
    rw [written] at text ⊢
    rw [length]
    exact readString_control low text some
  · rw [written] at text ⊢
    exact readString_plain text quote slash high

theorem escapedChar_ne_nil (c : Char) : escapedChar false c ≠ [] := by
  rcases escapedChar_cases c with ⟨e, written, -⟩ | ⟨written, -⟩ | ⟨written, -⟩ <;>
    exact written ▸ List.cons_ne_nil _ _

theorem readString_escaped (start : Nat) (read cs : List Char) {rest : List Char}
    (text : r.chars = cs.flatMap (escapedChar false) ++ '"' :: rest) (enough : r.chars.length < n) :
    ∃ r', readString start n r read = .ok (String.ofList (read.reverse ++ cs), r') ∧ r'.chars = rest := by
  induction cs generalizing n r read with
  | nil =>
    obtain ⟨n, rfl⟩ := Nat.exists_eq_succ_of_ne_zero (Nat.ne_zero_of_lt enough)
    have chars : r.chars = '"' :: rest := text
    exact ⟨r.drop 1, by simp [readString, chars], chars_drop_one chars⟩
  | cons c cs ih =>
    obtain ⟨n, rfl⟩ := Nat.exists_eq_succ_of_ne_zero (Nat.ne_zero_of_lt enough)
    rw [List.flatMap_cons, List.append_assoc] at text
    have behind : (r.drop (escapedChar false c).length).chars = cs.flatMap (escapedChar false) ++ '"' :: rest := by
      rw [Rest.drop, text, List.drop_left]
    have less : (r.drop (escapedChar false c).length).chars.length < n := by
      have := List.length_pos_iff.mpr (escapedChar_ne_nil c)
      rw [behind]
      rw [text, List.length_append] at enough
      omega
    obtain ⟨r', done, left⟩ := ih (c :: read) behind less
    refine ⟨r', ?_, left⟩
    rw [readString_escapedChar start n read c text (by simp), done]
    simp

theorem toList_writeText (s : String) : (writeText false s).toList = '"' :: s.toList.flatMap (escapedChar false) ++ ['"'] := by
  rw [writeText, String.toList_ofList]

/-- A text is read back by the reader of strings, which starts behind the quote. -/
theorem readString_written (s : String) {rest : List Char} (text : r.chars = (writeText false s).toList ++ rest) :
    ∃ r', readString r.position r.chars.length (r.drop 1) [] = .ok (s, r') ∧ r'.chars = rest := by
  have chars : r.chars = '"' :: (s.toList.flatMap (escapedChar false) ++ '"' :: rest) := by
    simpa [toList_writeText] using text
  have behind := chars_drop_one chars
  have enough : (r.drop 1).chars.length < r.chars.length := by
    rw [behind, chars]
    exact Nat.lt_succ_self _
  simpa using readString_escaped r.position [] s.toList behind enough

theorem readsBack_text (depth : Nat) (s : String) : ReadsBack depth (.text s) (writeText false s).toList := by
  refine ⟨⟨'"', _, toList_writeText s, rfl, by decide, by decide⟩, fun {rest n r} _ text enough => ?_⟩
  obtain ⟨n, rfl⟩ := Nat.exists_eq_succ_of_ne_zero (Nat.ne_zero_of_lt enough)
  obtain ⟨r', done, left⟩ := readString_written s text
  have chars : r.chars = '"' :: (s.toList.flatMap (escapedChar false) ++ '"' :: rest) := by
    simpa [toList_writeText] using text
  refine ⟨r', ?_, left⟩
  rw [readValue]
  split
  · rw [done]
    rfl
  · next same => cases chars.symm.trans same
  · next same => cases chars.symm.trans same
  · next other _ _ => exact absurd chars (other _)

end Texts

/-! ### Lists and maps -/

section Containers

variable {depth n : Nat} {r : Rest} {rest : List Char}

def separator : List Char := [',', ' ']

theorem ends_cons {c : Char} (h : c ∈ [',', ']', '\x7d']) (rest : List Char) : Ends (c :: rest) := by
  intro d first
  cases first
  exact h

theorem isSpace_end {c : Char} (h : c ∈ [',', ']', '\x7d']) : isSpace c = false := by
  simp only [List.mem_cons, List.not_mem_nil, or_false] at h
  rcases h with rfl | rfl | rfl <;> rfl

/-- Behind a comma and a blank stands what follows them. -/
theorem skipSpace_separated {c : Char} {tail : List Char} (text : r.chars = ',' :: ' ' :: c :: tail) (plain : isSpace c = false) :
    (r.drop 1).skipSpace.chars = c :: tail :=
  skipSpace_of_blank (chars_drop_one text) plain

theorem intercalate_separator (part part' : List Char) (parts : List (List Char)) (rest : List Char) :
    separator.intercalate (part :: part' :: parts) ++ rest =
      part ++ ',' :: ' ' :: (separator.intercalate (part' :: parts) ++ rest) := by
  rw [List.intercalate_cons_cons]
  simp [separator]

/-- Parts in a row begin as the first of them. -/
theorem exists_front {part : List Char} {c : Char} {tail : List Char} (front : part = c :: tail) (parts : List (List Char))
    (rest : List Char) : ∃ tail', separator.intercalate (part :: parts) ++ rest = c :: tail' := by
  cases parts with
  | nil => exact ⟨tail ++ rest, by simp [front]⟩
  | cons part' parts => exact ⟨_, by rw [intercalate_separator, front]; rfl⟩

theorem readItems_written {items : List Data} {parts : List (List Char)} (all : List.Forall₂ (ReadsBack depth) items parts)
    (some : items ≠ []) (seen : List Data) (text : r.chars = separator.intercalate parts ++ ']' :: rest)
    (enough : 2 * r.chars.length + 1 < n) :
    ∃ r', readItems n depth r seen = .ok (.list (seen.reverse ++ items), r') ∧ r'.chars = rest := by
  induction all generalizing n r seen with
  | nil => exact absurd rfl some
  | @cons d part items parts first others ih =>
    obtain ⟨n, rfl⟩ := Nat.exists_eq_succ_of_ne_zero (Nat.ne_zero_of_lt enough)
    cases others with
    | nil =>
      have closes : (']' : Char) ∈ [',', ']', '\x7d'] := by decide
      obtain ⟨after, done, left⟩ := first.read (n := n) (ends_cons closes rest) (by simpa using text) (by omega)
      have ended := skipSpace_of_not_space left (isSpace_end closes)
      refine ⟨after.skipSpace.drop 1, ?_, chars_drop_one ended⟩
      simp only [readItems, done, bind, Except.bind, ended, List.reverse_cons]
    | @cons e part' items parts second others =>
      have comma : (',' : Char) ∈ [',', ']', '\x7d'] := by decide
      have split : r.chars = part ++ ',' :: ' ' :: (separator.intercalate (part' :: parts) ++ ']' :: rest) := by
        rw [text, intercalate_separator]
      obtain ⟨c, tail, front, plain, -, -⟩ := second.front
      obtain ⟨tail', next⟩ := exists_front front parts (']' :: rest)
      obtain ⟨after, done, left⟩ := first.read (n := n) (ends_cons comma _) split (by omega)
      have ended := skipSpace_of_not_space left (isSpace_end comma)
      have following := skipSpace_separated (next ▸ ended) plain
      rw [← next] at following
      have less : 2 * (after.skipSpace.drop 1).skipSpace.chars.length + 1 < n := by
        rw [following]
        rw [split] at enough
        simp only [List.length_append, List.length_cons] at enough ⊢
        omega
      obtain ⟨r', done', left'⟩ := ih (List.cons_ne_nil _ _) (d :: seen) following less
      refine ⟨r', ?_, left'⟩
      simp only [readItems, done, bind, Except.bind, ended]
      simpa using done'

def EntryReadsBack (depth : Nat) (m : String × Data) (cs : List Char) : Prop :=
  ∃ value, cs = (writeText false m.1).toList ++ ':' :: ' ' :: value ∧ ReadsBack depth m.2 value

theorem put_fresh {key : String} {seen : List (String × Data)} (fresh : key ∉ seen.map Prod.fst) (value : Data) :
    Data.put (.text key) value (seen.map entry) = (seen ++ [(key, value)]).map entry := by
  rw [Data.put_of_not_mem value, List.map_append]
  · rfl
  · intro e he
    obtain ⟨m, -, rfl⟩ := List.mem_map.mp he
    rfl
  · rfl
  · rw [List.map_map]
    intro known
    obtain ⟨m, there, same⟩ := List.mem_map.mp known
    have one : m.1 = key := by simpa [entry, Data.identity] using same
    exact fresh (one ▸ List.mem_map_of_mem there)

/-- The reader of entries goes through a key, the colon and the value. -/
theorem readEntries_entry {m : String × Data} {part : List Char} (reads : EntryReadsBack depth m part) {known : List (Data × Data)}
    (ends : Ends rest) (text : r.chars = part ++ rest) (enough : 2 * r.chars.length < n) :
    ∃ after : Rest, after.chars = rest ∧
      (∀ behind, after.skipSpace.chars = '\x7d' :: behind →
        readEntries (n + 1) depth r known = .ok (.map (Data.put (.text m.1) m.2 known), after.skipSpace.drop 1)) ∧
      ∀ behind, after.skipSpace.chars = ',' :: behind →
        readEntries (n + 1) depth r known =
          readEntries n depth (after.skipSpace.drop 1).skipSpace (Data.put (.text m.1) m.2 known) := by
  obtain ⟨value, written, reads⟩ := reads
  rw [written, List.append_assoc, List.cons_append, List.cons_append] at text
  obtain ⟨afterKey, keyDone, keyLeft⟩ := readString_written m.1 text
  have atColon := skipSpace_of_not_space keyLeft rfl
  obtain ⟨c, tail, front, plain, -, -⟩ := reads.front
  have atValue : (afterKey.skipSpace.drop 1).skipSpace.chars = value ++ rest := by
    rw [skipSpace_of_blank (chars_drop_one atColon |>.trans (by rw [front]; rfl)) plain, front]
    rfl
  have less : 2 * (afterKey.skipSpace.drop 1).skipSpace.chars.length < n := by
    rw [atValue]
    rw [text] at enough
    simp only [List.length_append, List.length_cons] at enough ⊢
    omega
  obtain ⟨after, done, left⟩ := reads.read (n := n) (r := (afterKey.skipSpace.drop 1).skipSpace) ends atValue less
  have chars : r.chars = '"' :: (m.1.toList.flatMap (escapedChar false) ++ '"' :: (':' :: ' ' :: value ++ rest)) := by
    rw [text, toList_writeText]
    simp
  rw [chars] at keyDone
  refine ⟨after, left, fun behind ended => ?_, fun behind ended => ?_⟩ <;>
    simp only [readEntries, chars, keyDone, bind, Except.bind, atColon, done, ended]

theorem readEntries_written {members : List (String × Data)} {parts : List (List Char)}
    (all : List.Forall₂ (EntryReadsBack depth) members parts) (some : members ≠ []) (seen : List (String × Data))
    (distinct : ((seen ++ members).map Prod.fst).Nodup)
    (text : r.chars = separator.intercalate parts ++ '\x7d' :: rest) (enough : 2 * r.chars.length + 1 < n) :
    ∃ r', readEntries n depth r (seen.map entry) = .ok (.map ((seen ++ members).map entry), r') ∧ r'.chars = rest := by
  induction all generalizing n r seen with
  | nil => exact absurd rfl some
  | @cons m part members parts first others ih =>
    obtain ⟨n, rfl⟩ := Nat.exists_eq_succ_of_ne_zero (Nat.ne_zero_of_lt enough)
    have fresh : m.1 ∉ seen.map Prod.fst := by
      rw [List.map_append, List.nodup_append] at distinct
      exact fun there => distinct.2.2 _ there _ List.mem_cons_self rfl
    have put := put_fresh fresh m.2
    cases others with
    | nil =>
      have closes : ('\x7d' : Char) ∈ [',', ']', '\x7d'] := by decide
      obtain ⟨after, left, done, -⟩ := readEntries_entry (n := n) first (ends_cons closes rest) (by simpa using text) (by omega)
      have ended := skipSpace_of_not_space left (isSpace_end closes)
      refine ⟨after.skipSpace.drop 1, ?_, chars_drop_one ended⟩
      rw [done rest ended, put]
    | @cons m' part' members parts second others =>
      have comma : (',' : Char) ∈ [',', ']', '\x7d'] := by decide
      have split : r.chars = part ++ ',' :: ' ' :: (separator.intercalate (part' :: parts) ++ '\x7d' :: rest) := by
        rw [text, intercalate_separator]
      obtain ⟨tail', next⟩ : ∃ tail', separator.intercalate (part' :: parts) ++ '\x7d' :: rest = '"' :: tail' := by
        obtain ⟨value, written, -⟩ := second
        exact exists_front (by rw [written, toList_writeText]; rfl) parts _
      obtain ⟨after, left, -, done⟩ := readEntries_entry (n := n) first (ends_cons comma _) split (by omega)
      have ended := skipSpace_of_not_space left (isSpace_end comma)
      have following := skipSpace_separated (next ▸ ended) rfl
      rw [← next] at following
      have less : 2 * (after.skipSpace.drop 1).skipSpace.chars.length + 1 < n := by
        rw [following]
        rw [split] at enough
        simp only [List.length_append, List.length_cons] at enough ⊢
        omega
      obtain ⟨r', done', left'⟩ := ih (List.cons_ne_nil _ _) (seen ++ [m]) (by simpa using distinct) following less
      refine ⟨r', ?_, left'⟩
      rw [done _ ended, put]
      simpa using done'

theorem readsBack_list {items : List Data} {parts : List (List Char)} (shallow : depth < deepestRead)
    (all : List.Forall₂ (ReadsBack (depth + 1)) items parts) :
    ReadsBack depth (.list items) ('[' :: separator.intercalate parts ++ [']']) := by
  refine ⟨⟨'[', _, rfl, rfl, by decide, by decide⟩, fun {rest n r} _ text enough => ?_⟩
  obtain ⟨n, rfl⟩ := Nat.exists_eq_succ_of_ne_zero (Nat.ne_zero_of_lt enough)
  have chars : r.chars = '[' :: (separator.intercalate parts ++ ']' :: rest) := by simpa using text
  have behind := chars_drop_one chars
  have deep : ¬ deepestRead ≤ depth := Nat.not_le.mpr shallow
  cases all with
  | nil =>
    have ended := skipSpace_of_not_space behind rfl
    exact ⟨(r.drop 1).skipSpace.drop 1, by simp only [readValue, chars, deep, if_false, ended], chars_drop_one ended⟩
  | @cons d part items parts first others =>
    obtain ⟨c, tail, front, plain, open', -⟩ := first.front
    obtain ⟨tail', next⟩ := exists_front front parts (']' :: rest)
    have started := skipSpace_of_not_space (behind.trans next) plain
    have less : 2 * (r.drop 1).skipSpace.chars.length + 1 < n := by
      rw [started, ← next]
      rw [chars] at enough
      simp only [List.length_cons] at enough ⊢
      omega
    obtain ⟨r', done, left⟩ := readItems_written (.cons first others) (List.cons_ne_nil _ _) []
      (started.trans next.symm) less
    refine ⟨r', ?_, left⟩
    simp only [readValue, chars, deep, if_false]
    split
    · next same => exact absurd (List.cons.inj (started.symm.trans same)).1 open'
    · exact done

theorem readsBack_map {members : List (String × Data)} {parts : List (List Char)} (shallow : depth < deepestRead)
    (distinct : (members.map Prod.fst).Nodup) (all : List.Forall₂ (EntryReadsBack (depth + 1)) members parts) :
    ReadsBack depth (.map (members.map entry)) ('\x7b' :: separator.intercalate parts ++ ['\x7d']) := by
  refine ⟨⟨'\x7b', _, rfl, rfl, by decide, by decide⟩, fun {rest n r} _ text enough => ?_⟩
  obtain ⟨n, rfl⟩ := Nat.exists_eq_succ_of_ne_zero (Nat.ne_zero_of_lt enough)
  have chars : r.chars = '\x7b' :: (separator.intercalate parts ++ '\x7d' :: rest) := by simpa using text
  have behind := chars_drop_one chars
  have deep : ¬ deepestRead ≤ depth := Nat.not_le.mpr shallow
  cases all with
  | nil =>
    have ended := skipSpace_of_not_space behind rfl
    exact ⟨(r.drop 1).skipSpace.drop 1, by simp only [readValue, chars, deep, if_false, ended]; rfl, chars_drop_one ended⟩
  | @cons m part members parts first others =>
    obtain ⟨tail', next⟩ : ∃ tail', separator.intercalate (part :: parts) ++ '\x7d' :: rest = '"' :: tail' := by
      obtain ⟨value, written, -⟩ := first
      exact exists_front (by rw [written, toList_writeText]; rfl) parts _
    have started := skipSpace_of_not_space (behind.trans next) rfl
    have less : 2 * (r.drop 1).skipSpace.chars.length + 1 < n := by
      rw [started, ← next]
      rw [chars] at enough
      simp only [List.length_cons] at enough ⊢
      omega
    obtain ⟨r', done, left⟩ := readEntries_written (.cons first others) (List.cons_ne_nil _ _) [] distinct
      (started.trans next.symm) less
    refine ⟨r', ?_, left⟩
    simp only [readValue, chars, deep, if_false]
    split
    · next same => cases started.symm.trans same
    · exact done

end Containers

end Stencil.Json
