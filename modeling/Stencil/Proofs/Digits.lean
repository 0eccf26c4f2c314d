import Mathlib
import Stencil.Data.Basic

/-!
# Digits

A number that is written in a base is read back from its digits, also with zeros in front of them. A number is not too
long to be written just if it has no more decimal digits than can be read.
-/

set_option autoImplicit false

namespace Stencil.Number

theorem digitValue?_digitChar {d : Nat} (h : d < 16) : digitValue? d.digitChar = some d := by
  revert d
  decide

section Written

variable {base : Nat}

theorem ofDigits_append (ds : List Char) {c : Char} {d : Nat} (value : digitValue? c = some d) :
    ofDigits base (ds ++ [c]) = ofDigits base ds * base + d := by
  simp [ofDigits, value]

theorem ofDigits_toDigits (low : 1 < base) (high : base ≤ 16) (n : Nat) : ofDigits base (Nat.toDigits base n) = n := by
  induction n using Nat.strong_induction_on with
  | _ n ih =>
    rw [Nat.toDigits_eq_if low]
    split
    · next small =>
      have single := @ofDigits_append base [] _ _ (digitValue?_digitChar (small.trans_le high))
      simpa [ofDigits] using single
    · next large =>
      have last : n % base < 16 := (Nat.mod_lt n (by omega)).trans_le high
      have less : n / base < n := Nat.div_lt_self (by omega) low
      rw [ofDigits_append _ (digitValue?_digitChar last), ih _ less, Nat.div_add_mod']

theorem isDigitOf_of_mem_toDigits (low : 1 < base) (high : base ≤ 16) {n : Nat} {c : Char} (h : c ∈ Nat.toDigits base n) :
    isDigitOf base c = true := by
  have single {d : Nat} (small : d < base) : isDigitOf base d.digitChar = true := by
    simp [isDigitOf, digitValue?_digitChar (small.trans_le high), small]
  induction n using Nat.strong_induction_on with
  | _ n ih =>
    rw [Nat.toDigits_eq_if low] at h
    split at h
    · next small =>
      rw [List.mem_singleton.mp h]
      exact single small
    · next large =>
      rcases List.mem_append.mp h with front | last
      · exact ih _ (Nat.div_lt_self (by omega) low) front
      · rw [List.mem_singleton.mp last]
        exact single (Nat.mod_lt n (by omega))

/-- Only zero is written with a zero in front. -/
theorem head?_toDigits (low : 1 < base) (high : base ≤ 16) {n : Nat} (pos : 0 < n) {c : Char}
    (h : (Nat.toDigits base n).head? = some c) : c ≠ '0' := by
  have nonzero {d : Nat} (small : d < base) (some : 0 < d) : d.digitChar ≠ '0' := by
    intro zero
    have value := digitValue?_digitChar (small.trans_le high)
    rw [zero] at value
    have : 0 = d := Option.some.inj value
    omega
  induction n using Nat.strong_induction_on with
  | _ n ih =>
    rw [Nat.toDigits_eq_if low] at h
    split at h
    · next small =>
      cases h
      exact nonzero small pos
    · next large =>
      rw [List.head?_append_of_ne_nil _ Nat.toDigits_ne_nil] at h
      exact ih _ (Nat.div_lt_self (by omega) low) (Nat.div_pos (by omega) (by omega)) h

end Written

/-- Zeros in front do not count. -/
theorem ofDigits_replicate_zero (base k : Nat) (ds : List Char) : ofDigits base (List.replicate k '0' ++ ds) = ofDigits base ds := by
  induction k with
  | zero => rfl
  | succ k ih =>
    rw [List.replicate_succ, List.cons_append]
    simpa [ofDigits, digitValue?] using ih

theorem isDigit_of_mem_digitsOf {n : Nat} {c : Char} (h : c ∈ digitsOf n) : c.isDigit = true :=
  Nat.isDigit_of_mem_toDigits (by decide) (by decide) h

theorem ofDigits_digitsOf (n : Nat) : ofDigits 10 (digitsOf n) = n := ofDigits_toDigits (by decide) (by decide) n

end Stencil.Number

namespace Stencil.Text

theorem length_le_flatMap {α β : Type} {f : α → List β} (filled : ∀ a, f a ≠ []) (as : List α) :
    as.length ≤ (as.flatMap f).length := by
  rw [List.length_flatMap]
  calc as.length = (as.map fun _ => 1).sum := by simp
    _ ≤ (as.map fun a => (f a).length).sum := List.sum_le_sum fun a _ => List.length_pos_iff.mpr (filled a)

variable {width n : Nat}

theorem length_hexDigits (fits : n < 16 ^ width) (some : 0 < width) : (hexDigits width n).length = width := by
  have short := (Nat.length_toDigits_le_iff (b := 16) (by decide) some).mpr fits
  simp only [hexDigits, List.length_append, List.length_replicate]
  omega

theorem ofDigits_hexDigits (width n : Nat) : Number.ofDigits 16 (hexDigits width n) = n := by
  rw [hexDigits, Number.ofDigits_replicate_zero, Number.ofDigits_toDigits (by decide) (by decide)]

theorem isDigitOf_of_mem_hexDigits {c : Char} (h : c ∈ hexDigits width n) : Number.isDigitOf 16 c = true := by
  rcases List.mem_append.mp h with zeros | digits
  · rw [(List.mem_replicate.mp zeros).2]
    decide
  · exact Number.isDigitOf_of_mem_toDigits (by decide) (by decide) digits

end Stencil.Text

namespace Stencil.Data

theorem two_pow_le_longestNumber : 2 ^ 14001 ≤ longestNumber := by
  calc 2 ^ 14001 ≤ 2 ^ (93 * 151) := Nat.pow_le_pow_right (by decide) (by decide)
    _ = (2 ^ 93) ^ 151 := pow_mul 2 93 151
    _ ≤ (10 ^ 28) ^ 151 := Nat.pow_le_pow_left (by norm_num) 151
    _ = 10 ^ (28 * 151) := (pow_mul 10 28 151).symm
    _ ≤ 10 ^ Number.digitLimit := Nat.pow_le_pow_right (by decide) (by decide)

/-- The first look at the size of a number decides nothing. -/
theorem isTooLong_iff (n : Int) : isTooLong n = true ↔ longestNumber ≤ n.natAbs := by
  rw [isTooLong, Bool.and_eq_true, decide_eq_true_iff, decide_eq_true_iff]
  refine ⟨And.right, fun long => ⟨?_, long⟩⟩
  have large := two_pow_le_longestNumber.trans long
  have : n.natAbs ≠ 0 := by
    intro zero
    rw [zero] at large
    exact absurd large (Nat.not_le.mpr (Nat.two_pow_pos 14001))
  exact (Nat.le_log2 this).mpr large

/-- A number that is not too long has no more digits than are read. -/
theorem length_digitsOf_le {n : Int} (short : isTooLong n = false) : (Number.digitsOf n.natAbs).length ≤ Number.digitLimit := by
  rw [Number.digitsOf, Nat.length_toDigits_le_iff (by decide) (by decide), ← Nat.not_le]
  intro long
  rw [(isTooLong_iff n).mpr long] at short
  cases short

end Stencil.Data
