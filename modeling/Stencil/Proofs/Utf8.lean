import Mathlib
import Stencil.FileTree
import Stencil.Proofs.Digits

/-!
# Decoding what was encoded

The bytes of a text are decoded to its characters, one at a time: a first byte tells how many follow and within which
bounds the next one lies, and these bounds leave out just what no character is encoded as. A text without carriage
returns is what is read from a file of its bytes.
-/

set_option autoImplicit false

namespace Stencil.Text

theorem toNat_ofNat_of_lt {m : Nat} (h : m < 256) : (UInt8.ofNat m).toNat = m := by
  simpa using h

section Continuation

variable {lead : UInt8} {start n seen : Nat} {code k : Nat} {bs : List UInt8}

theorem takeContinuation_byte {lo hi : UInt8} (least : lo.toNat ≤ k + 128) (most : k + 128 ≤ hi.toNat) :
    takeContinuation lead start (n + 1) seen lo hi code (UInt8.ofNat (k + 128) :: bs) =
      takeContinuation lead start n (seen + 1) 0x80 0xBF (code * 64 + k) bs := by
  have bound : k + 128 < 256 := Nat.lt_of_le_of_lt most hi.toNat_lt
  have value := toNat_ofNat_of_lt bound
  have within : (lo ≤ UInt8.ofNat (k + 128) && UInt8.ofNat (k + 128) ≤ hi) = true := by
    simp only [Bool.and_eq_true, decide_eq_true_eq, UInt8.le_iff_toNat_le, value]
    exact ⟨least, most⟩
  rw [takeContinuation, if_pos within, value, Nat.add_sub_cancel]

/-- Behind the first continuation byte all values of six bits are read. -/
theorem takeContinuation_six (h : k < 64) :
    takeContinuation lead start (n + 1) seen 0x80 0xBF code (UInt8.ofNat (k + 128) :: bs) =
      takeContinuation lead start n (seen + 1) 0x80 0xBF (code * 64 + k) bs :=
  takeContinuation_byte (Nat.le_add_left _ _) (show k + 128 ≤ 191 by omega)

end Continuation

theorem leadInfo_two {m : Nat} (least : 2 ≤ m) (most : m < 32) :
    leadInfo (UInt8.ofNat (m + 192)) = some (1, 0x80, 0xBF) := by
  interval_cases m <;> rfl

/-- Of three bytes the first leaves out what two bytes encode, and the surrogates. -/
theorem leadInfo_three {m : Nat} (h : m < 16) :
    leadInfo (UInt8.ofNat (m + 224)) = some (2, if m = 0 then 0xA0 else 0x80, if m = 13 then 0x9F else 0xBF) := by
  interval_cases m <;> rfl

/-- Of four bytes the first leaves out what three bytes encode, and what is above the last character. -/
theorem leadInfo_four {m : Nat} (h : m < 5) :
    leadInfo (UInt8.ofNat (m + 240)) = some (3, if m = 0 then 0x90 else 0x80, if m = 4 then 0x8F else 0xBF) := by
  interval_cases m <;> rfl

section Step

variable {fuel pos : Nat} {bs : List UInt8}

theorem decodeFrom_lead {m n code : Nat} {lo hi : UInt8} {tail rest : List UInt8} (high : 128 ≤ m) (bound : m < 256)
    (known : leadInfo (UInt8.ofNat m) = some (n, lo, hi))
    (taken : takeContinuation (UInt8.ofNat m) pos n 1 lo hi (leadBits (UInt8.ofNat m) n) tail = .ok (code, rest)) :
    decodeFrom (fuel + 1) pos (UInt8.ofNat m :: tail) =
      (decodeFrom fuel (pos + 1 + n) rest).map (Char.ofNat code :: ·) := by
  have above : ¬ UInt8.ofNat m < 0x80 := by
    rw [UInt8.lt_iff_toNat_lt, toNat_ofNat_of_lt bound]
    exact Nat.not_lt.mpr high
  rw [decodeFrom, if_neg above, known]
  simp only [taken, bind, Except.bind]
  cases decodeFrom fuel (pos + 1 + n) rest <;> rfl

theorem leadBits_ofNat {m n base : Nat} (bound : m + base < 256) (of : ∀ b : UInt8, leadBits b n = b.toNat - base) :
    leadBits (UInt8.ofNat (m + base)) n = m := by
  rw [of, toNat_ofNat_of_lt bound, Nat.add_sub_cancel]

theorem decodeFrom_two {v : Nat} (least : 127 < v) (most : v ≤ 2047) :
    decodeFrom (fuel + 1) pos (UInt8.ofNat (v / 64 + 192) :: UInt8.ofNat (v % 64 + 128) :: bs) =
      (decodeFrom fuel (pos + 1 + 1) bs).map (Char.ofNat v :: ·) := by
  refine decodeFrom_lead (by omega) (by omega) (leadInfo_two (by omega) (by omega)) ?_
  have code : v / 64 * 64 + v % 64 = v := by omega
  rw [leadBits_ofNat (by omega) fun _ => rfl, takeContinuation_six (by omega), takeContinuation, code]

theorem decodeFrom_three {v : Nat} (least : 2047 < v) (most : v ≤ 65535) (scalar : v < 0xD800 ∨ 0xDFFF < v) :
    decodeFrom (fuel + 1) pos
        (UInt8.ofNat (v / 4096 + 224) :: UInt8.ofNat (v / 64 % 64 + 128) :: UInt8.ofNat (v % 64 + 128) :: bs) =
      (decodeFrom fuel (pos + 1 + 2) bs).map (Char.ofNat v :: ·) := by
  refine decodeFrom_lead (by omega) (by omega) (leadInfo_three (by omega)) ?_
  have low : (if v / 4096 = 0 then 0xA0 else 0x80 : UInt8).toNat ≤ v / 64 % 64 + 128 := by
    split
    · exact show 160 ≤ v / 64 % 64 + 128 by omega
    · exact Nat.le_add_left _ _
  have high : v / 64 % 64 + 128 ≤ (if v / 4096 = 13 then 0x9F else 0xBF : UInt8).toNat := by
    split
    · exact show v / 64 % 64 + 128 ≤ 159 by omega
    · exact show v / 64 % 64 + 128 ≤ 191 by omega
  have code : (v / 4096 * 64 + v / 64 % 64) * 64 + v % 64 = v := by omega
  rw [leadBits_ofNat (by omega) fun _ => rfl, takeContinuation_byte low high, takeContinuation_six (by omega),
    takeContinuation, code]

theorem decodeFrom_four {v : Nat} (least : 65535 < v) (most : v < 0x110000) :
    decodeFrom (fuel + 1) pos (UInt8.ofNat (v / 262144 + 240) :: UInt8.ofNat (v / 4096 % 64 + 128) ::
        UInt8.ofNat (v / 64 % 64 + 128) :: UInt8.ofNat (v % 64 + 128) :: bs) =
      (decodeFrom fuel (pos + 1 + 3) bs).map (Char.ofNat v :: ·) := by
  refine decodeFrom_lead (by omega) (by omega) (leadInfo_four (by omega)) ?_
  have low : (if v / 262144 = 0 then 0x90 else 0x80 : UInt8).toNat ≤ v / 4096 % 64 + 128 := by
    split
    · exact show 144 ≤ v / 4096 % 64 + 128 by omega
    · exact Nat.le_add_left _ _
  have high : v / 4096 % 64 + 128 ≤ (if v / 262144 = 4 then 0x8F else 0xBF : UInt8).toNat := by
    split
    · exact show v / 4096 % 64 + 128 ≤ 143 by omega
    · exact show v / 4096 % 64 + 128 ≤ 191 by omega
  have code : ((v / 262144 * 64 + v / 4096 % 64) * 64 + v / 64 % 64) * 64 + v % 64 = v := by omega
  rw [leadBits_ofNat (by omega) fun _ => rfl, takeContinuation_byte low high, takeContinuation_six (by omega),
    takeContinuation_six (by omega), takeContinuation, code]

/-- The bytes of one character are read as that character. -/
theorem decodeFrom_encodeChar (fuel pos : Nat) (c : Char) (bs : List UInt8) : ∃ pos',
    decodeFrom (fuel + 1) pos (String.utf8EncodeChar c ++ bs) = (decodeFrom fuel pos' bs).map (c :: ·) := by
  have same : Char.ofNat c.val.toNat = c := Char.ofNat_toNat c
  have scalar : c.val.toNat < 0xD800 ∨ 0xDFFF < c.val.toNat ∧ c.val.toNat < 0x110000 := c.valid
  rw [String.utf8EncodeChar]
  generalize c.val.toNat = v at same scalar ⊢
  subst same
  by_cases one : v ≤ 127
  · have low : UInt8.ofNat v < 0x80 := by
      rw [UInt8.lt_iff_toNat_lt, toNat_ofNat_of_lt (by omega)]
      exact Nat.lt_succ_of_le one
    refine ⟨pos + 1, ?_⟩
    rw [if_pos one, List.singleton_append, decodeFrom, if_pos low, toNat_ofNat_of_lt (by omega)]
    cases decodeFrom fuel (pos + 1) bs <;> rfl
  · rw [if_neg one]
    by_cases two : v ≤ 2047
    · rw [if_pos two, Nat.mod_eq_of_lt (show v / 64 < 32 by omega)]
      exact ⟨_, decodeFrom_two (by omega) two⟩
    · rw [if_neg two]
      by_cases three : v ≤ 65535
      · rw [if_pos three, Nat.mod_eq_of_lt (show v / 4096 < 16 by omega)]
        exact ⟨_, decodeFrom_three (by omega) three (by omega)⟩
      · rw [if_neg three, Nat.mod_eq_of_lt (show v / 262144 < 8 by omega)]
        exact ⟨_, decodeFrom_four (by omega) (by omega)⟩

end Step

theorem toList_loop (bytes : ByteArray) (i : Nat) (read : List UInt8) :
    ByteArray.toList.loop bytes i read = read.reverse ++ bytes.data.toList.drop i := by
  fun_induction ByteArray.toList.loop bytes i read with
  | case1 i read more ih =>
    have there : i < bytes.data.toList.length := by simpa using more
    rw [ih, List.drop_eq_getElem_cons there]
    simp [ByteArray.get!, more]
  | case2 i read done =>
    rw [List.drop_eq_nil_of_le (by simpa using Nat.le_of_not_lt done)]
    simp

theorem toList_toUTF8 (s : String) : encodeUtf8 s = s.toList.flatMap String.utf8EncodeChar := by
  have bytes : s.toUTF8 = (s.toList.flatMap String.utf8EncodeChar).toByteArray := by
    rw [String.toUTF8_eq_toByteArray, ← List.utf8Encode, ← String.toByteArray_ofList, String.ofList_toList]
  rw [encodeUtf8, bytes, ByteArray.toList, toList_loop, List.toList_data_toByteArray]
  rfl

theorem decodeFrom_encoded (cs : List Char) {fuel : Nat} (pos : Nat) (enough : cs.length ≤ fuel) :
    decodeFrom fuel pos (cs.flatMap String.utf8EncodeChar) = .ok cs := by
  induction cs generalizing fuel pos with
  | nil => cases fuel <;> rfl
  | cons c cs ih =>
    obtain ⟨fuel, rfl⟩ := Nat.exists_eq_succ_of_ne_zero (Nat.ne_of_gt (Nat.lt_of_lt_of_le (Nat.succ_pos _) enough))
    obtain ⟨pos', step⟩ := decodeFrom_encodeChar fuel pos c (cs.flatMap String.utf8EncodeChar)
    rw [List.flatMap_cons, step, ih pos' (Nat.le_of_succ_le_succ enough)]
    rfl

theorem decodeUtf8_encodeUtf8 (s : String) : decodeUtf8 (encodeUtf8 s) = .ok s.toList := by
  rw [decodeUtf8, toList_toUTF8]
  refine decodeFrom_encoded s.toList 0 ?_
  exact length_le_flatMap (fun _ => String.utf8EncodeChar_ne_nil) s.toList

end Stencil.Text

namespace Stencil.FileTree

/-- Without carriage returns a text is read back from its bytes. -/
theorem decodeText_encodeUtf8 {s : String} (inline : '\r' ∉ s.toList) : decodeText (Text.encodeUtf8 s) = .ok s := by
  rw [decodeText, Text.decodeUtf8_encodeUtf8]
  simp [Except.map, Text.unifyLines_of_not_mem inline]

end Stencil.FileTree
