import Mathlib
import Stencil.Proofs.Bracket.Reading
import Stencil.Proofs.Digits

/-!
# Captured arguments are read again

The argument text of a tag is made of its tokens, joined by single blanks. Put into an opening marker, it is cut into the
same tokens: a quoted text is unescaped to what it was, a number is read from its digits, a blank ends every name and
keeps symbols from joining, and no end of the marker is seen before its own. The one marker that the lexer keeps for
itself is the plain one of a raw section.
-/

set_option autoImplicit false

namespace Stencil.Template

/-! ## Quoted texts -/

theorem charOf_toNat (c : Char) : charOf c.toNat = c := by
  have scalar : c.toNat < 0xD800 ∨ 0xDFFF < c.toNat ∧ c.toNat < 0x110000 := c.valid
  rw [charOf, if_neg (by omega), Char.ofNat_toNat]

theorem hexChar_hexDigits {width : Nat} {c : Char} (fits : c.toNat < 16 ^ width) (some : 0 < width) (short : EscapeProblem)
    (rest : List Char) : hexChar width short (Text.hexDigits width c.toNat ++ rest) = .ok (c, rest) := by
  have length := Text.length_hexDigits fits some
  have scalar : c.toNat < 0xD800 ∨ 0xDFFF < c.toNat ∧ c.toNat < 0x110000 := c.valid
  have digits : (Text.hexDigits width c.toNat).all (Number.isDigitOf 16) = true :=
    List.all_eq_true.mpr fun d h => Text.isDigitOf_of_mem_hexDigits h
  rw [hexChar, List.take_left' length, List.drop_left' length, if_pos ⟨length, digits⟩, Text.ofDigits_hexDigits]
  dsimp only
  rw [if_pos (by omega), charOf_toNat]

def hexForms : List (Char × Nat) := [('x', 2), ('u', 4), ('U', 8)]

theorem resolveEscapes_hex {e c : Char} {width : Nat} (form : (e, width) ∈ hexForms) (fits : c.toNat < 16 ^ width) (n : Nat)
    (rest : List Char) :
    resolveEscapes (n + 1) ('\\' :: e :: (Text.hexDigits width c.toNat ++ rest)) =
      (resolveEscapes n rest).map (c :: ·) := by
  simp only [hexForms, List.mem_cons, Prod.mk.injEq, List.not_mem_nil, or_false] at form
  rcases form with ⟨rfl, rfl⟩ | ⟨rfl, rfl⟩ | ⟨rfl, rfl⟩ <;>
    rw [resolveEscapes] <;>
    simp only [simpleEscape?, isOctal, show Number.isDigitOf 8 'x' = false by decide, show Number.isDigitOf 8 'u' = false by decide,
      show Number.isDigitOf 8 'U' = false by decide, hexChar_hexDigits fits (by decide), bind, Except.bind] <;>
    cases resolveEscapes n rest <;> rfl

/-- A character between quotes is written as it is, with a backslash, or by its number. -/
theorem escapeChar_cases {q : Char} (quote : q = '\'' ∨ q = '"') (c : Char) :
    (∃ e, Text.escapeChar q c = ['\\', e] ∧ simpleEscape? e = some [c] ∧ e.toNat < 0x80) ∨
    (Text.escapeChar q c = [c] ∧ c ∉ [q, '\\', '\r']) ∨
    ∃ f ∈ hexForms, Text.escapeChar q c = '\\' :: f.1 :: Text.hexDigits f.2 c.toNat ∧ c.toNat < 16 ^ f.2 := by
  have scalar : c.toNat < 0xD800 ∨ 0xDFFF < c.toNat ∧ c.toNat < 0x110000 := c.valid
  rw [Text.escapeChar]
  split
  · next same =>
    rcases Bool.or_eq_true_iff.mp same with same | same <;> rw [eq_of_beq same]
    · rcases quote with rfl | rfl <;> exact .inl ⟨_, rfl, rfl, by decide⟩
    · exact .inl ⟨_, rfl, rfl, by decide⟩
  next other =>
  split
  · next feed => exact .inl ⟨_, rfl, (eq_of_beq feed).symm ▸ rfl, by decide⟩
  split
  · next back => exact .inl ⟨_, rfl, (eq_of_beq back).symm ▸ rfl, by decide⟩
  next unreturned =>
  split
  · next tab => exact .inl ⟨_, rfl, (eq_of_beq tab).symm ▸ rfl, by decide⟩
  split
  · exact .inr (.inl ⟨rfl, by simp_all⟩)
  split
  · next small => exact .inr (.inr ⟨('x', 2), by decide, rfl, small⟩)
  split
  · next small => exact .inr (.inr ⟨('u', 4), by decide, rfl, small⟩)
  · exact .inr (.inr ⟨('U', 8), by decide, rfl, by norm_num; omega⟩)

theorem asciiSpelling_of_lt {c : Char} (h : c.toNat < 0x80) : Text.asciiSpelling c = [c] := if_pos h

theorem flatMap_asciiSpelling {cs : List Char} (h : ∀ c ∈ cs, c.toNat < 0x80) : cs.flatMap Text.asciiSpelling = cs := by
  induction cs with
  | nil => rfl
  | cons c cs ih =>
    obtain ⟨first, others⟩ := List.forall_mem_cons.mp h
    rw [List.flatMap_cons, asciiSpelling_of_lt first, ih others]
    rfl

theorem ascii_of_hexDigit {c : Char} (h : Number.isDigitOf 16 c = true) :
    c.toNat < 128 ∧ c ∉ ['\'', '"', '\\', '\r'] := by
  have small : c.toNat < 128 := by
    have below {d : Char} (le : c ≤ d) (ascii : d.toNat < 128) : c.toNat < 128 :=
      Nat.lt_of_le_of_lt (UInt32.le_iff_toNat_le.mp le) ascii
    unfold Number.isDigitOf Number.digitValue? at h
    split_ifs at h with decimal lower upper
    · exact below decimal.2 (by decide)
    · exact below lower.2 (by decide)
    · exact below upper.2 (by decide)
  revert h
  exact ascii_cases (P := fun c => Number.isDigitOf 16 c = true → c.toNat < 128 ∧ c ∉ ['\'', '"', '\\', '\r'])
    (by decide +kernel) small

/-- A character that is no ASCII one is spelled by its number. -/
theorem asciiSpelling_cases (c : Char) : (Text.asciiSpelling c = [c] ∧ c.toNat < 0x80) ∨
    ∃ f ∈ hexForms, Text.asciiSpelling c = '\\' :: f.1 :: Text.hexDigits f.2 c.toNat ∧ c.toNat < 16 ^ f.2 := by
  have scalar : c.toNat < 0xD800 ∨ 0xDFFF < c.toNat ∧ c.toNat < 0x110000 := c.valid
  rw [Text.asciiSpelling]
  split
  · next small => exact .inl ⟨rfl, small⟩
  split
  · next small => exact .inr ⟨('x', 2), by decide, rfl, small⟩
  split
  · next small => exact .inr ⟨('u', 4), by decide, rfl, small⟩
  · exact .inr ⟨('U', 8), by decide, rfl, by norm_num; omega⟩

section Quote

variable {q : Char} (quote : q = '\'' ∨ q = '"')
include quote

/-- One character is unescaped from what is written for it. -/
theorem resolveEscapes_escapeChar (c : Char) (n : Nat) (rest : List Char) :
    resolveEscapes (n + 1) ((Text.escapeChar q c).flatMap Text.asciiSpelling ++ rest) =
      (resolveEscapes n rest).map (c :: ·) := by
  rcases escapeChar_cases quote c with ⟨e, written, known, small⟩ | ⟨written, plain⟩ | ⟨f, form, written, fits⟩
  · have ascii : ∀ d ∈ ['\\', e], d.toNat < 0x80 := by simpa using small
    rw [written, flatMap_asciiSpelling ascii, List.cons_append, List.cons_append, List.nil_append, resolveEscapes, known]
    cases resolveEscapes n rest <;> rfl
  · rw [written, List.flatMap_singleton]
    rcases asciiSpelling_cases c with ⟨spelled, -⟩ | ⟨f, form, spelled, fits⟩
    · rw [spelled, List.singleton_append, resolveEscapes]
      · cases resolveEscapes n rest <;> rfl
      · intro e more same
        exact absurd same (by simp_all)
    · rw [spelled]
      exact resolveEscapes_hex form fits n rest
  · have letter : f.1.toNat < 0x80 := (show ∀ f ∈ hexForms, f.1.toNat < 0x80 by decide) f form
    have ascii : ∀ d ∈ '\\' :: f.1 :: Text.hexDigits f.2 c.toNat, d.toNat < 0x80 := by
      simp only [List.forall_mem_cons]
      exact ⟨by decide, letter, fun d h => (ascii_of_hexDigit (Text.isDigitOf_of_mem_hexDigits h)).1⟩
    rw [written, flatMap_asciiSpelling ascii]
    exact resolveEscapes_hex form fits n rest

theorem resolveEscapes_escaped (cs : List Char) {n : Nat} (enough : cs.length < n) :
    resolveEscapes n ((cs.flatMap (Text.escapeChar q)).flatMap Text.asciiSpelling) = .ok cs := by
  induction cs generalizing n with
  | nil =>
    obtain ⟨n, rfl⟩ := Nat.exists_eq_succ_of_ne_zero (Nat.ne_of_gt enough)
    rfl
  | cons c cs ih =>
    obtain ⟨n, rfl⟩ := Nat.exists_eq_succ_of_ne_zero (Nat.ne_zero_of_lt enough)
    rw [List.flatMap_cons, List.flatMap_append, resolveEscapes_escapeChar quote, ih (Nat.lt_of_succ_lt_succ enough)]
    rfl

theorem quotedRun_escapeChar (c : Char) (rest : List Char) :
    quotedRun q (Text.escapeChar q c ++ rest) = (quotedRun q rest).map (Text.escapeChar q c ++ ·) := by
  have plainRow (ds : List Char) (plain : ∀ d ∈ ds, d ≠ q ∧ d ≠ '\\') :
      quotedRun q (ds ++ rest) = (quotedRun q rest).map (ds ++ ·) := by
    induction ds with
    | nil => simp
    | cons d ds ih =>
      obtain ⟨⟨other, slash⟩, others⟩ := List.forall_mem_cons.mp plain
      rw [List.cons_append, quotedRun_cons slash, if_neg (by simpa using other), ih others, Option.map_map]
      rfl
  rcases escapeChar_cases quote c with ⟨e, written, -⟩ | ⟨written, plain⟩ | ⟨f, -, written, -⟩
  · rw [written]
    rfl
  · rw [written]
    exact plainRow [c] (by simp_all)
  · have row := plainRow (Text.hexDigits f.2 c.toNat) fun d h => by
      have plain := (ascii_of_hexDigit (Text.isDigitOf_of_mem_hexDigits h)).2
      rcases quote with rfl | rfl <;> simp_all
    rw [written, List.cons_append, List.cons_append, quotedRun, row, Option.map_map]
    rfl

theorem quotedRun_escaped (cs rest : List Char) :
    quotedRun q (cs.flatMap (Text.escapeChar q) ++ q :: rest) = some (cs.flatMap (Text.escapeChar q)) := by
  induction cs with
  | nil =>
    have slash : q ≠ '\\' := by rcases quote with rfl | rfl <;> decide
    rw [List.flatMap_nil, List.nil_append, quotedRun_cons slash, if_pos (beq_self_eq_true q)]
  | cons c cs ih => rw [List.flatMap_cons, List.append_assoc, quotedRun_escapeChar quote, ih]; rfl

theorem unescape_escaped (cs : List Char) : unescape (cs.flatMap (Text.escapeChar q)) = .ok cs := by
  have written (c : Char) : Text.escapeChar q c ≠ [] := by
    rcases escapeChar_cases quote c with ⟨e, written, -⟩ | ⟨written, -⟩ | ⟨f, -, written, -⟩ <;> simp [written]
  have spelled (c : Char) : Text.asciiSpelling c ≠ [] := by
    rcases asciiSpelling_cases c with ⟨spelled, -⟩ | ⟨f, -, spelled, -⟩ <;> simp [spelled]
  exact resolveEscapes_escaped quote cs (Nat.lt_succ_of_le ((Text.length_le_flatMap written cs).trans
    (Text.length_le_flatMap spelled _)))

end Quote

/-! ## Single tokens -/

structure Spells (owed : List Symbol) (k : TokenKind) (owed' : List Symbol) (cs : List Char) : Prop where
  front : ∃ c tail, cs = c :: tail ∧ Text.isBlank c = false
  goesOn : ∀ layout rest, closing? layout "%\x7d" (cs ++ ' ' :: rest) = none
  step : ∀ layout afterDot offset rest, ∃ dot, insideStep layout true owed afterDot offset (cs ++ ' ' :: rest) =
    .ok ⟨[k], .inside true owed' dot, ' ' :: rest⟩
  inline : '\r' ∉ cs

variable {owed owed' : List Symbol}

theorem spells_name {word : List Char} (name : IsName word) : Spells owed (.name (String.ofList word)) owed word := by
  obtain ⟨c, cs, same, -, isWord⟩ := name.exists_cons
  have plain := plain_of_word isWord
  refine ⟨⟨c, cs, same, plain.1⟩, fun layout rest => ?_, fun layout afterDot offset rest => ⟨false, ?_⟩, not_return_mem name⟩
  · rw [same]
    exact closing?_of_plain plain.2 (cs ++ ' ' :: rest) layout
  · exact name.insideStep_eq layout owed afterDot offset fun c h => by cases h; rfl

def isSign (c : Char) : Bool := !(Text.isBlank c || isDigit c || c.isDigit || Text.isWordChar c)

theorem not_return_mem_escapeChar {q : Char} (quote : q = '\'' ∨ q = '"') (c : Char) : '\r' ∉ Text.escapeChar q c := by
  rcases escapeChar_cases quote c with ⟨e, written, known, -⟩ | ⟨written, plain⟩ | ⟨f, form, written, -⟩ <;> rw [written]
  · have other : e ≠ '\r' := by
      rintro rfl
      cases known
    simp [other.symm]
  · intro h
    simp [← List.mem_singleton.mp h] at plain
  · have letter : f.1 ≠ '\r' := (show ∀ f ∈ hexForms, f.1 ≠ '\r' by decide) f form
    have digits : '\r' ∉ Text.hexDigits f.2 c.toNat := fun h =>
      (ascii_of_hexDigit (Text.isDigitOf_of_mem_hexDigits h)).2 (by decide)
    simp [letter.symm, digits]

theorem spells_text (s : String) : Spells owed (.text s) owed (Text.quoted s).toList := by
  rw [Text.quoted, Text.quotedChars, String.toList_ofList]
  generalize chosen : Text.quoteFor s.toList = q
  have quote : q = '\'' ∨ q = '"' := by
    rw [← chosen, Text.quoteFor]
    split
    · exact .inr rfl
    · exact .inl rfl
  have sign : isSign q = true ∧ q ∉ ['+', '-', '%'] ∧ q ≠ '\r' := by
    rcases quote with rfl | rfl <;> decide +kernel
  obtain ⟨sign, plain, inline⟩ := sign
  simp only [isSign, Bool.not_eq_true', Bool.or_eq_false_iff] at sign
  obtain ⟨⟨⟨blank, digit⟩, ascii⟩, word⟩ := sign
  have escaped : '\r' ∉ s.toList.flatMap (Text.escapeChar q) := by
    simp [not_return_mem_escapeChar quote]
  have cut := quotedRun_escaped quote s.toList
  have meant := unescape_escaped quote s.toList
  generalize s.toList.flatMap (Text.escapeChar q) = run at cut meant escaped
  refine ⟨⟨q, _, rfl, blank⟩, fun layout rest => closing?_of_plain plain _ layout,
    fun layout afterDot offset rest => ⟨false, ?_⟩, by simp [inline.symm, escaped]⟩
  have shape : q :: run ++ [q] ++ ' ' :: rest = q :: (run ++ q :: ' ' :: rest) := by simp
  have goesOn : closing? layout "%\x7d" (q :: (run ++ q :: ' ' :: rest)) = none := closing?_of_plain plain _ layout
  have noFloat : floatLiteral? (q :: (run ++ q :: ' ' :: rest)) = none := by simp [floatLiteral?, leadingDigits, digit]
  have noInt : intLiteral? (q :: (run ++ q :: ' ' :: rest)) = none := intLiteral?_of_not_digit ascii _
  have literal : (q == '"' || q == '\'') = true := by rcases quote with rfl | rfl <;> rfl
  have behind : (q :: (run ++ q :: ' ' :: rest)).drop (run.length + 2) = ' ' :: rest := by
    rw [List.drop_succ_cons, List.drop_append]
    simp
  rw [shape]
  unfold insideStep
  simp only [if_true, goesOn, ite_self, noFloat, noInt, literal, cut, meant, behind, String.ofList_toList]
  simp [blank, word]

theorem spells_symbol {s : Symbol} (balanced : balance owed s = .ok owed') : Spells owed (.symbol s) owed' s.text.toList := by
  have start : ∃ c tail, s.text.toList = c :: tail ∧ isSign c = true ∧ c ≠ '"' ∧ c ≠ '\'' := by
    cases s <;> exact ⟨_, _, rfl, by decide +kernel⟩
  have goesOn (layout : Layout) (rest : List Char) : closing? layout "%\x7d" (s.text.toList ++ ' ' :: rest) = none := by
    cases s <;> rfl
  have found (rest : List Char) : symbol? (s.text.toList ++ ' ' :: rest) = some (s, s.text.toList.length) := by
    cases s <;> rfl
  obtain ⟨c, tail, same, sign, double, single⟩ := start
  simp only [isSign, Bool.not_eq_true', Bool.or_eq_false_iff] at sign
  obtain ⟨⟨⟨blank, digit⟩, ascii⟩, word⟩ := sign
  refine ⟨⟨c, tail, same, blank⟩, goesOn, fun layout afterDot offset rest => ⟨s == .dot, ?_⟩, by cases s <;> decide⟩
  have goesOn := goesOn layout rest
  have found := found rest
  rw [same] at goesOn found ⊢
  have noFloat : floatLiteral? (c :: tail ++ ' ' :: rest) = none := by simp [floatLiteral?, leadingDigits, digit]
  have noInt : intLiteral? (c :: tail ++ ' ' :: rest) = none := intLiteral?_of_not_digit ascii _
  unfold insideStep
  simp only [if_true, goesOn, ite_self, noFloat, noInt, found, balanced]
  simp [blank, word, double, single, bind, Except.bind]
  rfl

theorem plain_of_isDigit {c : Char} (h : c.isDigit = true) :
    isDigit c = true ∧ Text.isBlank c = false ∧ c ∉ ['+', '-', '%', '_', '\r'] ∧ Text.asciiDigit c = c := by
  have small : c.toNat < 128 := by
    rw [Char.isDigit, Bool.and_eq_true, decide_eq_true_eq, decide_eq_true_eq] at h
    exact Nat.lt_of_le_of_lt (UInt32.le_iff_toNat_le.mp h.2) (by decide)
  revert h
  exact ascii_cases (P := fun c => c.isDigit = true → isDigit c = true ∧ Text.isBlank c = false ∧
    c ∉ ['+', '-', '%', '_', '\r'] ∧ Text.asciiDigit c = c) (by decide +kernel) small

theorem digitRow_digits {ds : List Char} (digits : ∀ d ∈ ds, d.isDigit = true) (rest : List Char) :
    digitRow isDigit (ds ++ ' ' :: rest) = ds := by
  induction ds with
  | nil => exact digitRow_stop (by decide +kernel) (by decide) rest
  | cons d ds ih =>
    obtain ⟨first, others⟩ := List.forall_mem_cons.mp digits
    rw [List.cons_append, digitRow_go (plain_of_isDigit first).1, ih others]

theorem digitsValue_digits {ds : List Char} (digits : ∀ d ∈ ds, d.isDigit = true) :
    ds.filter (· != '_') = ds ∧ digitsValue 10 ds = Number.ofDigits 10 ds := by
  have kept : ds.filter (· != '_') = ds := List.filter_eq_self.mpr fun d h => by
    have plain := (plain_of_isDigit (digits d h)).2.2.1
    simp_all
  have same : ds.map Text.asciiDigit = ds := by
    rw [List.map_congr_left fun d h => (plain_of_isDigit (digits d h)).2.2.2, List.map_id']
  exact ⟨kept, by rw [digitsValue, kept, same]⟩

theorem intLiteral?_digits {n : Nat} (short : Data.isTooLong n = false) (rest : List Char) :
    intLiteral? (Number.digitsOf n ++ ' ' :: rest) = some (.ok n, (Number.digitsOf n).length) := by
  have digits (d : Char) (h : d ∈ Number.digitsOf n) : d.isDigit = true := Number.isDigit_of_mem_digitsOf h
  have limit : (Number.digitsOf n).length ≤ Number.digitLimit := Data.length_digitsOf_le short
  have value := Number.ofDigits_digitsOf n
  have row := digitRow_digits digits rest
  obtain ⟨kept, same⟩ := digitsValue_digits digits
  cases n with
  | zero => rfl
  | succ n =>
    cases written : Number.digitsOf (n + 1) with
    | nil => exact absurd written Nat.toDigits_ne_nil
    | cons c ds =>
      have other : c ≠ '0' := Number.head?_toDigits (by decide) (by decide) (Nat.succ_pos n)
        (show (Number.digitsOf (n + 1)).head? = some c by rw [written]; rfl)
      have unbased (base : Nat) (found : basePrefix? (c :: (ds ++ ' ' :: rest)) = some base) : False := by
        unfold basePrefix? at found
        split at found
        · simp_all
        · cases found
      rw [written] at digits limit value row kept same
      rw [List.cons_append] at row ⊢
      rw [intLiteral?_plain fun base found => (unbased base found).elim, if_neg other, if_pos (digits c List.mem_cons_self), row,
        kept, if_neg (Nat.not_lt.mpr limit), same, value]

theorem spells_int {n : Nat} (short : Data.isTooLong n = false) : Spells owed (.int n) owed (toString n).toList := by
  have text : (toString n).toList = Number.digitsOf n := String.toList_ofList
  have digits (d : Char) (h : d ∈ Number.digitsOf n) : d.isDigit = true := Number.isDigit_of_mem_digitsOf h
  have found := intLiteral?_digits short
  have row := digitRow_digits digits
  have filled : Number.digitsOf n ≠ [] := Nat.toDigits_ne_nil
  rw [text]
  generalize Number.digitsOf n = ds at digits found row filled ⊢
  obtain ⟨c, tail, rfl⟩ := List.exists_cons_of_ne_nil filled
  obtain ⟨digit, blank, plain, -⟩ := plain_of_isDigit (digits c List.mem_cons_self)
  have others : c ∉ ['+', '-', '%'] := by simp_all
  refine ⟨⟨c, tail, rfl, blank⟩, fun layout rest => closing?_of_plain others _ layout,
    fun layout afterDot offset rest => ⟨false, ?_⟩, fun h => (plain_of_isDigit (digits _ h)).2.2.1 (by decide)⟩
  have goesOn : closing? layout "%\x7d" (c :: tail ++ ' ' :: rest) = none := closing?_of_plain others _ layout
  have whole : leadingDigits (c :: tail ++ ' ' :: rest) = c :: tail := (if_pos digit).trans (row rest)
  have noFloat : floatLiteral? (c :: tail ++ ' ' :: rest) = none := by
    simp only [floatLiteral?, whole, List.drop_left]
    rfl
  unfold insideStep
  simp only [if_true, goesOn, ite_self, noFloat, found, List.drop_left]
  simp [blank]

theorem Follows.spells {k : TokenKind} (follows : Follows owed k owed') (short : k.isTooLong = false)
    (whole : ∀ x, k ≠ .float x) : Spells owed k owed' k.markup.toList := by
  cases follows with
  | @name word isName =>
    have spells : Spells owed (.name (String.ofList word.toList)) owed word.toList := spells_name isName
    rwa [String.ofList_toList] at spells
  | text s => exact spells_text s
  | int n => exact spells_int short
  | float x => exact absurd rfl (whole x)
  | symbol balanced => exact spells_symbol balanced

/-! ## Rows of tokens -/

inductive Accepted : List Symbol → List TokenKind → Prop
  | nil : Accepted [] []
  | cons {owed owed' : List Symbol} {k : TokenKind} {ks : List TokenKind} : Follows owed k owed' → Accepted owed' ks →
    Accepted owed (k :: ks)

def spelled : List TokenKind → List Char
  | [] => [' ', '%', '\x7d']
  | k :: ks => ' ' :: (k.markup.toList ++ spelled ks)

theorem exists_blank (ks : List TokenKind) : ∃ rest, spelled ks = ' ' :: rest ∧ 2 ≤ rest.length := by
  induction ks with
  | nil => exact ⟨_, rfl, Nat.le_refl 2⟩
  | cons k ks ih =>
    obtain ⟨rest, same, long⟩ := ih
    exact ⟨_, rfl, by rw [same]; simp; omega⟩

theorem insideStep_blank (layout : Layout) (owed : List Symbol) (afterDot : Bool) (offset : Nat) {c : Char}
    (blank : Text.isBlank c = false) (rest : List Char) :
    insideStep layout true owed afterDot offset (' ' :: c :: rest) = .ok ⟨[], .inside true owed false, c :: rest⟩ := by
  have goesOn : closing? layout "%\x7d" (' ' :: c :: rest) = none := closing?_of_plain (by decide) _ layout
  have blanks : (' ' :: c :: rest).takeWhile Text.isBlank = [' '] := by
    rw [List.takeWhile_cons_of_pos rfl, List.takeWhile_cons_of_neg (by simp [blank])]
  unfold insideStep
  simp only [if_true, goesOn, ite_self, blanks]
  rfl

theorem innerTokens?_spelled {layout : Layout} {ks : List TokenKind} {owed : List Symbol} (accepted : Accepted owed ks)
    (short : ∀ k ∈ ks, k.isTooLong = false) (whole : ∀ k ∈ ks, ∀ x, k ≠ .float x) {n : Nat} (enough : 2 * ks.length + 2 ≤ n)
    (afterDot : Bool) : innerTokens? layout n owed afterDot (spelled ks) = some ks := by
  induction accepted generalizing n afterDot with
  | nil =>
    obtain ⟨n, rfl⟩ : ∃ m, n = m + 2 := ⟨n - 2, by simp at enough; omega⟩
    rw [spelled, innerTokens?, if_neg (by decide), insideStep_blank layout [] afterDot 0 rfl]
    rfl
  | @cons owed owed' k ks follows _ ih =>
    obtain ⟨n, rfl⟩ : ∃ m, n = m + 2 := ⟨n - 2, by simp at enough; omega⟩
    obtain ⟨here, shorter⟩ := List.forall_mem_cons.mp short
    obtain ⟨first, others⟩ := List.forall_mem_cons.mp whole
    obtain ⟨⟨c, tail, front, blank⟩, -, step, -⟩ := follows.spells here first
    obtain ⟨rest, behind, long⟩ := exists_blank ks
    obtain ⟨dot, read⟩ := step layout false 0 rest
    have inner : innerTokens? layout n owed' dot (spelled ks) = some ks :=
      ih shorter others (by simp at enough; omega) dot
    rw [← behind] at read
    have open' : k.markup.toList ++ spelled ks ≠ ['%', '\x7d'] := by
      intro same
      have := congrArg List.length same
      rw [behind] at this
      simp at this
      omega
    rw [spelled, innerTokens?, if_neg (by simp), front, List.cons_append, insideStep_blank layout owed afterDot 0 blank]
    rw [front, List.cons_append] at read open'
    simp only [innerTokens?, if_neg open', read, inner]
    rfl

/-! ## What the lexer puts into markers -/

theorem Accepted.isInner {owed : List Symbol} {ks : List TokenKind} (accepted : Accepted owed ks) : ∀ k ∈ ks, k.isInner = true := by
  induction accepted with
  | nil => exact fun k h => absurd h List.not_mem_nil
  | cons follows _ ih => exact List.forall_mem_cons.mpr ⟨follows.isInner, ih⟩

theorem Accepted.not_mem {owed : List Symbol} {ks : List TokenKind} (accepted : Accepted owed ks) : .blockEnd ∉ ks :=
  fun there => by cases accepted.isInner _ there

def Argued (owed : List Symbol) (ks : List TokenKind) : Prop :=
  .blockEnd ∉ ks ∨ ∃ arguments after, ks = arguments ++ .blockEnd :: after ∧ Accepted owed arguments

def Opened (ks : List TokenKind) : Prop := ∀ before after, ks = before ++ .blockBegin :: after → Argued [] after

theorem Argued.cons {k : TokenKind} {ks : List TokenKind} (follows : Follows owed k owed') (h : Argued owed' ks) :
    Argued owed (k :: ks) := by
  rcases h with none | ⟨arguments, after, rfl, accepted⟩
  · refine .inl fun there => ?_
    rcases List.mem_cons.mp there with same | there
    · cases same
      cases follows
    · exact none there
  · exact .inr ⟨k :: arguments, after, rfl, .cons follows accepted⟩

theorem Opened.cons {k : TokenKind} {ks : List TokenKind} (h : Opened ks) (other : k ≠ .blockBegin) : Opened (k :: ks) := by
  intro before after same
  cases before with
  | nil => exact absurd (List.cons.inj same).1 other
  | cons k' before => exact h before after (List.cons.inj same).2

theorem Opened.begin {ks : List TokenKind} (h : Opened ks) (argued : Argued [] ks) : Opened (.blockBegin :: ks) := by
  intro before after same
  cases before with
  | nil => exact (List.cons.inj same).2 ▸ argued
  | cons k' before => exact h before after (List.cons.inj same).2

theorem Opened.data {ks : List TokenKind} (h : Opened ks) (cs : List Char) : Opened (dataTokens cs ++ ks) := by
  rw [dataTokens]
  split
  · exact h
  · exact h.cons (by simp)

/-- In literal text a step finds the text before an opening delimiter, and the delimiter unless it opens a comment or a
raw section. -/
theorem textStep_cases (layout : Layout) (lineStart : Bool) (cs : List Char) : ∃ text,
    let s := textStep layout lineStart cs
    (s.tokens = dataTokens text ∧ ∀ owed dot, s.place ≠ .inside true owed dot) ∨
    (s.tokens = dataTokens text ++ [.variableBegin] ∧ ∀ owed dot, s.place ≠ .inside true owed dot) ∨
    (s.tokens = dataTokens text ++ [.blockBegin] ∧ s.place = .inside true [] false) := by
  unfold textStep
  dsimp only
  split
  · exact ⟨_, .inl ⟨rfl, by simp⟩⟩
  · split
    · exact ⟨_, .inr (.inl ⟨rfl, by simp⟩)⟩
    · exact ⟨_, .inl ⟨rfl, by simp⟩⟩
    · split
      · exact ⟨_, .inl ⟨rfl, by simp⟩⟩
      · exact ⟨_, .inr (.inr ⟨rfl, rfl⟩)⟩

/-- A step before tokens that are as they should be. -/
theorem step_opened {layout : Layout} {place : Place} {lineStart : Bool} {offset : Nat} {cs : List Char} {s : Step}
    (h : step layout place lineStart offset cs = .ok s) {ks : List TokenKind} (opened : Opened ks)
    (argued : ∀ owed dot, s.place = .inside true owed dot → Argued owed ks) :
    Opened (s.tokens ++ ks) ∧ ∀ owed dot, place = .inside true owed dot → Argued owed (s.tokens ++ ks) := by
  cases place with
  | text =>
    refine ⟨?_, by simp⟩
    cases h
    obtain ⟨text, ⟨tokens, -⟩ | ⟨tokens, -⟩ | ⟨tokens, place⟩⟩ := textStep_cases layout lineStart cs <;> rw [tokens]
    · exact opened.data text
    · rw [List.append_assoc]
      exact (opened.cons (by simp)).data text
    · rw [List.append_assoc]
      exact (opened.begin (argued [] false place)).data text
  | comment =>
    refine ⟨?_, by simp⟩
    change commentStep layout cs = .ok s at h
    unfold commentStep at h
    split at h
    · cases h
      exact opened
    · cases h
  | raw =>
    refine ⟨?_, by simp⟩
    change rawStep layout lineStart cs = .ok s at h
    unfold rawStep at h
    split at h
    · cases h
      exact opened.data _
    · cases h
  | inside isBlock owed afterDot =>
    rcases insideStep_ok h with ⟨rfl, tokens, -⟩ | ⟨owed', dot, place, ⟨tokens, rfl⟩ | ⟨k, tokens, follows⟩⟩ <;> rw [tokens]
    · refine ⟨opened.cons (by cases isBlock <;> simp), fun owed dot same => ?_⟩
      cases same
      exact .inr ⟨[], ks, rfl, .nil⟩
    · refine ⟨opened, fun owed dot' same => ?_⟩
      cases same
      exact argued _ dot place
    · refine ⟨opened.cons (by cases follows <;> simp), fun owed dot' same => ?_⟩
      cases same
      exact (argued owed' dot place).cons follows

theorem run_opened (layout : Layout) (total fuel : Nat) (place : Place) (lineStart : Bool) (line : Nat) (cs : List Char) :
    Opened ((run layout total fuel place lineStart line cs).tokens.map Token.kind) ∧
      ∀ owed dot, place = .inside true owed dot →
        Argued owed ((run layout total fuel place lineStart line cs).tokens.map Token.kind) := by
  have none : Opened [] ∧ ∀ owed dot, place = .inside true owed dot → Argued owed [] :=
    ⟨fun before after same => by simp at same, fun owed dot _ => .inl List.not_mem_nil⟩
  induction fuel generalizing place lineStart line cs with
  | zero => exact none
  | succ fuel ih =>
    cases cs with
    | nil => exact none
    | cons c cs =>
      rw [run]
      · split
        · exact none
        · next s found =>
          rw [List.map_append, map_kind_placeTokens]
          obtain ⟨opened, argued⟩ := ih s.place _ _ s.rest ⟨none.1, fun owed dot _ => .inl List.not_mem_nil⟩
          exact step_opened found opened argued
      · simp

theorem front_unique {α : Type} {a : α} {x x' z z' : List α} (h : a ∉ x) (h' : a ∉ x') (same : x ++ a :: z = x' ++ a :: z') :
    x = x' := by
  rcases List.append_eq_append_iff.mp same with ⟨middle, rfl, rest⟩ | ⟨middle, rfl, rest⟩ <;>
    cases middle with
    | nil => simp
    | cons b middle => simp_all

/-- The arguments of a marker that the lexer has found, and its word. -/
theorem accepted_of_lex {layout : Layout} {source : List Char} {before arguments after : List TokenKind} {tag : String}
    (cut : (lex layout source).tokens.map Token.kind =
      before ++ .blockBegin :: .name tag :: (arguments ++ .blockEnd :: after))
    (inner : .blockEnd ∉ arguments) : IsName tag.toList ∧ Accepted [] arguments := by
  have opened : Opened ((lex layout source).tokens.map Token.kind) := (run_opened layout _ _ _ _ _ _).1
  rcases opened _ _ cut with none | ⟨arguments', after', same, accepted⟩
  · exact absurd (by simp) none
  · have whole : .name tag :: arguments = arguments' := front_unique (by simpa using inner) accepted.not_mem same
    subst whole
    cases accepted with
    | cons follows accepted =>
      cases follows with
      | name isName => exact ⟨isName, accepted⟩

/-! ## The marker with its arguments as they were captured -/

section Opening

variable {owed : List Symbol} {ks : List TokenKind} {tag : String}

theorem intercalate_markup (k : TokenKind) (ks : List TokenKind) :
    (" ".intercalate ((k :: ks).map TokenKind.markup)).toList ++ [' ', '%', '\x7d'] = k.markup.toList ++ spelled ks := by
  induction ks generalizing k with
  | nil => simp [spelled]
  | cons k' ks ih =>
    have others := ih k'
    simp only [String.toList_intercalate, List.map_cons, List.intercalate_cons_cons, List.append_assoc] at others ⊢
    rw [others]
    rfl

/-- Captured arguments stand in a marker as their tokens do. -/
theorem behindWord_markup (tag : String) (accepted : Accepted owed ks) (short : ∀ k ∈ ks, k.isTooLong = false)
    (whole : ∀ k ∈ ks, ∀ x, k ≠ .float x) :
    (Marker.opening tag (" ".intercalate (ks.map TokenKind.markup)).toList).behindWord = spelled ks := by
  cases accepted with
  | nil => rfl
  | @cons _ _ k ks follows _ =>
    obtain ⟨c, tail, front, -⟩ := (follows.spells (short k List.mem_cons_self) (whole k List.mem_cons_self)).front
    have filled : (" ".intercalate ((k :: ks).map TokenKind.markup)).toList ≠ [] := by
      cases ks <;> simp [String.toList_intercalate, front]
    rw [Marker.behindWord, Marker.arguments, if_neg (by simpa using filled), List.cons_append, intercalate_markup]
    rfl

/-- With an argument behind it, the word of a raw section does not open one. -/
theorem rawOpening?_spells {k : TokenKind} {cs : List Char} {owed' : List Symbol} (spells : Spells owed k owed' cs)
    (rest : List Char) : rawOpening? (' ' :: 'r' :: 'a' :: 'w' :: ' ' :: (cs ++ ' ' :: rest)) = none := by
  obtain ⟨⟨c, tail, rfl, blank⟩, goesOn, -⟩ := spells
  have word : dropWord? "raw" (dropBlanks (' ' :: 'r' :: 'a' :: 'w' :: ' ' :: (c :: tail ++ ' ' :: rest))) =
    some (' ' :: (c :: tail ++ ' ' :: rest)) := rfl
  have start : dropBlanks (' ' :: (c :: tail ++ ' ' :: rest)) = c :: tail ++ ' ' :: rest := by
    simp [dropBlanks, show Text.isBlank ' ' = true from rfl, blank]
  have open' := goesOn ⟨false, false, false⟩ rest
  unfold rawOpening?
  rw [word]
  simp only [Option.bind_eq_bind, Option.bind_some, start]
  split
  · next same => rwa [same] at open'
  · next unmarked =>
    unfold closing? at open'
    split at open'
    · next same =>
      rw [same]
      rfl
    · next same => exact absurd same (unmarked _)
    · simpa using open'

theorem rawOpening?_spelled (name : IsName tag.toList) (accepted : Accepted [] ks) (short : ∀ k ∈ ks, k.isTooLong = false)
    (whole : ∀ k ∈ ks, ∀ x, k ≠ .float x) (cooked : tag = "raw" → ks ≠ []) :
    rawOpening? (' ' :: (tag.toList ++ spelled ks)) = none := by
  by_cases raw : tag = "raw"
  · cases accepted with
    | nil => exact absurd rfl (cooked raw)
    | @cons _ _ k ks follows _ =>
      obtain ⟨rest, behind, -⟩ := exists_blank ks
      rw [raw, spelled, behind]
      exact rawOpening?_spells (follows.spells (short k List.mem_cons_self) (whole k List.mem_cons_self)) rest
  · obtain ⟨rest, behind, -⟩ := exists_blank ks
    rw [behind]
    exact name.rawOpening?_eq (fun same => raw (String.toList_injective same)) rest

theorem not_return_mem_spelled (accepted : Accepted owed ks) (short : ∀ k ∈ ks, k.isTooLong = false)
    (whole : ∀ k ∈ ks, ∀ x, k ≠ .float x) : '\r' ∉ spelled ks := by
  induction accepted with
  | nil => decide
  | cons follows _ ih =>
    obtain ⟨here, shorter⟩ := List.forall_mem_cons.mp short
    obtain ⟨first, others⟩ := List.forall_mem_cons.mp whole
    simp [spelled, (follows.spells here first).inline, ih shorter others]

theorem Accepted.length_le (accepted : Accepted owed ks) (short : ∀ k ∈ ks, k.isTooLong = false)
    (whole : ∀ k ∈ ks, ∀ x, k ≠ .float x) : 2 * ks.length + 2 ≤ (spelled ks).length := by
  induction accepted with
  | nil => decide
  | cons follows _ ih =>
    obtain ⟨here, shorter⟩ := List.forall_mem_cons.mp short
    obtain ⟨first, others⟩ := List.forall_mem_cons.mp whole
    obtain ⟨c, tail, front, -⟩ := (follows.spells here first).front
    have := ih shorter others
    rw [spelled, front]
    simp
    omega

theorem textStep_marker (layout : Layout) {m : Marker} (cooked : rawOpening? (' ' :: (m.word.toList ++ m.behindWord)) = none) :
    textStep layout true m.text = ⟨[.blockBegin], .inside true [] false, ' ' :: (m.word.toList ++ m.behindWord)⟩ := by
  have whole : dataTokens (stripBefore layout true false .none []) = [] := by
    cases lstrip : layout.lstripBlocks <;> simp [stripBefore, lstrip, dataTokens]
  have unmarked (cs : List Char) : takeMark (' ' :: cs) = (.none, ' ' :: cs) := rfl
  have split : splitOpening m.text = ([], m.text) := rfl
  unfold textStep
  rw [split]
  simp only [Marker.text, opening?, List.drop_succ_cons, List.drop_zero, unmarked, cooked]
  rw [show (Opening.block == Opening.variable) = false from rfl, whole]
  rfl

/-- A marker that stands alone is cut into its word and its arguments. -/
theorem lex_marker (layout : Layout) {m : Marker} (name : IsName m.word.toList)
    (cooked : rawOpening? (' ' :: (m.word.toList ++ m.behindWord)) = none) (inline : '\r' ∉ m.behindWord)
    {n : Nat} (cut : innerTokens? layout n [] false m.behindWord = some ks) (enough : n ≤ m.behindWord.length) :
    ∃ tokens, lex layout m.text = ⟨tokens, none⟩ ∧
      tokens.map Token.kind = .blockBegin :: .name m.word :: (ks ++ [.blockEnd]) := by
  have prepared : layout.prepare m.text = m.text := by
    have single : '\r' ∉ m.text := by simp [Marker.text, inline, not_return_mem name]
    have unified : Text.unifyLines m.text = m.text := by
      simpa [Text.unifyLines] using unifyLines_append_of_not_mem single []
    have last := dropFinalNewline_append m.getLast?_text []
    rw [Layout.prepare, unified]
    simp only [List.append_nil] at last
    split
    · rfl
    · rw [last]
      simp [Text.dropFinalNewline]
  have filled : 0 < m.word.toList.length := by
    obtain ⟨c, cs, spelled, -, -⟩ := name.exists_cons
    simp [spelled]
  have length : m.text.length = m.word.toList.length + m.behindWord.length + 3 := by simp [Marker.text]
  have start (offset : Nat) : step layout .text true offset m.text = .ok _ := congrArg Except.ok (textStep_marker layout cooked)
  have ran : Continues layout ([.blockBegin] ++ ([] ++ ([.name m.word] ++ (ks ++ [.blockEnd])))) .text 1 []
      (run layout m.text.length (m.text.length + 1) .text true 1 m.text) := by
    refine (continues_step _ _ _ (by simp [Marker.text]) start).trans fun total fuel lineStart line more => ?_
    obtain ⟨fuel, rfl⟩ : ∃ n, fuel = n + 1 := ⟨fuel - 1, by omega⟩
    have blank (offset : Nat) : step layout (.inside true [] false) lineStart offset _ = .ok _ :=
      step_blank [] lineStart offset name
    have word (lineStart : Bool) (offset : Nat) : step layout (.inside true [] false) lineStart offset _ = .ok _ :=
      step_word [] lineStart offset name
    simp only [List.append_nil] at blank word
    refine (continues_step total fuel line (List.cons_ne_nil _ _) blank).trans fun total fuel₁ lineStart line more' => ?_
    obtain ⟨fuel₁, rfl⟩ : ∃ n, fuel₁ = n + 1 := ⟨fuel₁ - 1, by omega⟩
    refine (continues_step total fuel₁ line ?_ (word lineStart)).trans fun total fuel₂ lineStart line more'' => ?_
    · exact fun none => by simp_all
    have inner := continues_inner m.braced_behindWord cut (show dropTrimmed layout [] = [] from rfl) total line lineStart
      (show n ≤ fuel₂ by omega)
    rw [List.append_nil] at inner
    obtain ⟨total', fuel', lineStart', line', tokens, most, same, ran⟩ := inner
    exact ⟨total', fuel', lineStart', line', tokens, by omega, same, ran⟩
  obtain ⟨total, fuel, lineStart, line, tokens, more, kinds, ran⟩ := ran
  obtain ⟨fuel, rfl⟩ : ∃ n, fuel = n + 1 := ⟨fuel - 1, by omega⟩
  refine ⟨tokens, ?_, kinds⟩
  rw [lex, prepared]
  exact ran.trans (by simp [run, Lexed.behind])

end Opening

/-! ## Capturing again -/

section Capture

open Parse

variable {rest : List Token} {flaw : Option Flaw} {depth : Nat}

/-- One turn of the reader of arguments ends it, refuses a number, or takes a token. -/
theorem run_markupStep_eq (t : Token) (filled : rest ≠ []) (parts : List String) (line : Nat) :
    (markupStep parts).run ⟨t :: rest, flaw, line, depth⟩ =
      if t.isBlockEnd || t.isEnding then .ok (none, ⟨t :: rest, flaw, line, depth⟩)
      else if t.kind.isTooLong then .error ⟨.mishap .badValue, t.line⟩
      else .ok (some (parts ++ [t.kind.markup]), ⟨rest, flaw, t.line, depth⟩) := by
  have here : (⟨t :: rest, flaw, line, depth⟩ : Stream).current = t := rfl
  have moved : (discard next).run ⟨t :: rest, flaw, line, depth⟩ = .ok ((), ⟨rest, flaw, t.line, depth⟩) := by
    obtain ⟨t', rest, rfl⟩ := List.exists_cons_of_ne_nil filled
    rfl
  unfold markupStep
  rw [run_bind_ok (run_current _), here]
  split
  · rfl
  · rw [run_bind_ok moved]
    split <;> rfl

/-- The reader of arguments that gets to the end of a marker has taken all tokens before it, and none was too long. -/
theorem extend_markupStep_ok {tokens : List Token} {l n line : Nat} {parts parts' : List String} {s : Stream}
    (h : (extend markupStep n parts).run ⟨tokens ++ ⟨l, .blockEnd⟩ :: rest, flaw, line, depth⟩ = .ok (parts', s))
    (stops : s.tokens = ⟨l, .blockEnd⟩ :: rest) :
    parts' = parts ++ tokens.map (fun t => t.kind.markup) ∧ ∀ t ∈ tokens, t.kind ≠ .blockEnd ∧ t.kind.isTooLong = false := by
  induction tokens generalizing n line parts with
  | nil => cases n <;> cases h <;> simp
  | cons t tokens ih =>
    have longer : t :: tokens ++ ⟨l, .blockEnd⟩ :: rest ≠ ⟨l, .blockEnd⟩ :: rest := fun same => by
      have := congrArg List.length same
      simp at this
      omega
    cases n with
    | zero =>
      cases h
      exact absurd stops longer
    | succ n =>
      have turn : (markupStep parts).run ⟨t :: (tokens ++ ⟨l, .blockEnd⟩ :: rest), flaw, line, depth⟩ = _ :=
        run_markupStep_eq t (by simp) parts line
      split at turn
      · rw [List.cons_append, run_extend_stop n turn] at h
        cases h
        exact absurd stops longer
      · next goesOn =>
        split at turn
        · rw [List.cons_append, extend, StateT.run_bind, turn] at h
          cases h
        · next short =>
          rw [List.cons_append, run_extend_go n turn] at h
          obtain ⟨rfl, others⟩ := ih h
          refine ⟨by simp, List.forall_mem_cons.mpr ⟨⟨fun ends => goesOn ?_, by simpa using short⟩, others⟩⟩
          simp [Token.isBlockEnd, ends]

/-- Where the arguments of a tag are captured and hold no float, the opening marker with the captured text in their place is
cut into tokens of the same kinds, and the same text is captured from it. A tag that is called as raw sections are has to
have arguments. -/
theorem captured_text_is_read_again {layout : Layout} {source : List Char} {before arguments after : List Token}
    {l l' l'' line : Nat} {tag markup : String} {s : Stream}
    (cut : lex layout source =
      ⟨before ++ ⟨l, .blockBegin⟩ :: ⟨l', .name tag⟩ :: (arguments ++ ⟨l'', .blockEnd⟩ :: after), flaw⟩)
    (captured : parseMarkup.run ⟨arguments ++ ⟨l'', .blockEnd⟩ :: after, flaw, line, depth⟩ = .ok (markup, s))
    (stops : s.tokens = ⟨l'', .blockEnd⟩ :: after) (whole : ∀ t ∈ arguments, ∀ x, t.kind ≠ .float x)
    (cooked : tag = "raw" → arguments ≠ []) (layout' : Layout) :
    ∃ l₁ l₂ again l₃,
      lex layout' (Marker.opening tag markup.toList).text =
        ⟨⟨l₁, .blockBegin⟩ :: ⟨l₂, .name tag⟩ :: (again ++ [⟨l₃, .blockEnd⟩]), none⟩ ∧
      again.map Token.kind = arguments.map Token.kind ∧
      ∀ line depth, ∃ line', parseMarkup.run ⟨again ++ [⟨l₃, .blockEnd⟩], none, line, depth⟩ =
        .ok (markup, ⟨[⟨l₃, .blockEnd⟩], none, line', depth⟩) := by
  obtain ⟨rfl, taken⟩ : markup = " ".intercalate (arguments.map fun t => t.kind.markup) ∧
      ∀ t ∈ arguments, t.kind ≠ .blockEnd ∧ t.kind.isTooLong = false := by
    rw [parseMarkup_eq, run_bind_ok (run_bound _), StateT.run_bind] at captured
    cases ran : (extend markupStep _ []).run ⟨arguments ++ ⟨l'', .blockEnd⟩ :: after, flaw, line, depth⟩ with
    | error e =>
      rw [ran] at captured
      cases captured
    | ok found =>
      rw [ran] at captured
      cases captured
      obtain ⟨same, taken⟩ := extend_markupStep_ok ran stops
      exact ⟨congrArg _ same, taken⟩
  have kinds : (lex layout source).tokens.map Token.kind = before.map Token.kind ++ .blockBegin :: .name tag ::
      (arguments.map Token.kind ++ .blockEnd :: after.map Token.kind) := by simp [cut]
  have captured : " ".intercalate (arguments.map fun t => t.kind.markup) =
      " ".intercalate ((arguments.map Token.kind).map TokenKind.markup) := by rw [List.map_map]; rfl
  have ends : .blockEnd ∉ arguments.map Token.kind := by simpa using fun t h => (taken t h).1
  have short : ∀ k ∈ arguments.map Token.kind, k.isTooLong = false := by simpa using fun t h => (taken t h).2
  have whole : ∀ k ∈ arguments.map Token.kind, ∀ x, k ≠ .float x := by simpa using whole
  have cooked : tag = "raw" → arguments.map Token.kind ≠ [] := by simpa using cooked
  obtain ⟨name, accepted⟩ := accepted_of_lex kinds ends
  rw [captured]
  generalize arguments.map Token.kind = ks at accepted short whole cooked ⊢
  have behind := behindWord_markup tag accepted short whole
  obtain ⟨tokens, lexed, same⟩ := lex_marker layout' (m := .opening tag (" ".intercalate (ks.map TokenKind.markup)).toList) name
    (by rw [behind]; exact rawOpening?_spelled name accepted short whole cooked)
    (by rw [behind]; exact not_return_mem_spelled accepted short whole)
    (by rw [behind]; exact innerTokens?_spelled accepted short whole (accepted.length_le short whole) false)
    (by rw [behind])
  obtain ⟨l₁, _, rfl, named⟩ := exists_of_map_kind same
  obtain ⟨l₂, _, rfl, inside⟩ := exists_of_map_kind named
  obtain ⟨again, _, rfl, spelled, closed⟩ := List.map_eq_append_iff.mp inside
  obtain ⟨l₃, _, rfl, none⟩ := exists_of_map_kind closed
  obtain rfl := List.map_eq_nil_iff.mp none
  subst spelled
  refine ⟨l₁, l₂, again, l₃, lexed, rfl, fun line depth => ?_⟩
  rw [List.map_map]
  exact run_parseMarkup (fun t h => ⟨accepted.isInner _ (List.mem_map_of_mem h), short _ (List.mem_map_of_mem h)⟩) l₃ line

end Capture

def noteArguments : List Token :=
  [⟨1, .text "it's\n"⟩, ⟨2, .symbol .lbracket⟩, ⟨2, .int 31⟩, ⟨2, .symbol .floorDiv⟩, ⟨2, .name "x"⟩, ⟨2, .symbol .rbracket⟩,
    ⟨2, .symbol .mod⟩]

theorem captured_text_is_read_again_quoted : ∃ l₁ l₂ again l₃,
    lex ⟨true, true, false⟩ (Marker.opening "note" "\"it's\\n\" [ 31 // x ] %".toList).text =
        ⟨⟨l₁, .blockBegin⟩ :: ⟨l₂, .name "note"⟩ :: (again ++ [⟨l₃, .blockEnd⟩]), none⟩ ∧
      again.map Token.kind = noteArguments.map Token.kind ∧
      ∀ line depth, ∃ line', parseMarkup.run ⟨again ++ [⟨l₃, .blockEnd⟩], none, line, depth⟩ =
        .ok ("\"it's\\n\" [ 31 // x ] %", ⟨[⟨l₃, .blockEnd⟩], none, line', depth⟩) := by
  have cut : lex ⟨false, false, true⟩ ['\x7b', '%', 'n', 'o', 't', 'e', ' ', '\'', 'i', 't', '\\', '\'', 's', '\n', '\'', '[', '0',
      'x', '1', 'f', '/', '/', 'x', ']', '%', ' ', '-', '%', '\x7d'] =
    ⟨[] ++ ⟨1, .blockBegin⟩ :: ⟨1, .name "note"⟩ :: (noteArguments ++ ⟨2, .blockEnd⟩ :: []), none⟩ := rfl
  have joined : " ".intercalate (noteArguments.map fun t => t.kind.markup) = "\"it's\\n\" [ 31 // x ] %" := by decide +kernel
  obtain ⟨line', captured⟩ : ∃ line', parseMarkup.run ⟨noteArguments ++ [⟨2, .blockEnd⟩], none, 1, 0⟩ =
    .ok (_, ⟨[⟨2, .blockEnd⟩], none, line', 0⟩) := run_parseMarkup (by decide +kernel) 2 1
  rw [joined] at captured
  exact captured_text_is_read_again cut captured rfl (by simp [noteArguments]) (by decide) ⟨true, true, false⟩

/-- A tag that is called as raw sections are can be opened without arguments, by a marker that ends with a plus sign; the
marker with nothing in it opens a raw section. -/
theorem raw_marker_is_kept :
    lex ⟨false, false, true⟩ ['\x7b', '%', ' ', 'r', 'a', 'w', ' ', '+', '%', '\x7d'] =
        ⟨[⟨1, .blockBegin⟩, ⟨1, .name "raw"⟩, ⟨1, .blockEnd⟩], none⟩ ∧
      parseMarkup.run ⟨[⟨1, .blockEnd⟩], none, 1, 0⟩ = .ok ("", ⟨[⟨1, .blockEnd⟩], none, 1, 0⟩) ∧
      lex ⟨false, false, true⟩ (Marker.opening "raw" "".toList).text = ⟨[], none⟩ := ⟨rfl, rfl, rfl⟩

end Stencil.Template
