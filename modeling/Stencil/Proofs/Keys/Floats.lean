import Mathlib
import Stencil.Number.Binary

/-!
# The values of floats

A finite float has an exact value, and two floats are equal if their values are. The mantissa has all of its bits unless the
exponent is the least one, so a value is written in one way, but for the sign of zero.
-/

set_option autoImplicit false

namespace Stencil.Number

open Float.Model Float.Model.UnpackedFloat

/-! ## The value of a finite float -/

def Binary.value (b : Binary) : ℚ := b.signedNum / b.den

theorem Binary.den_pos (b : Binary) : (0 : ℚ) < b.den := by
  unfold den pow2
  exact_mod_cast Nat.pow_pos two_pos

theorem Binary.value_eq (b : Binary) : b.value = (if b.negative then -1 else 1) * (b.mantissa * 2 ^ b.exponent) := by
  have scaled : (2 : ℚ) ^ b.exponent = 2 ^ b.exponent.toNat / 2 ^ (-b.exponent).toNat := by
    rcases Int.le_total 0 b.exponent with up | down
    · obtain ⟨n, exponent⟩ := Int.eq_ofNat_of_zero_le up
      simp [exponent]
    · obtain ⟨n, exponent⟩ := Int.exists_eq_neg_ofNat down
      simp [exponent]
  unfold value signedNum num den pow2
  rw [scaled]
  cases b.negative <;> simp [mul_div_assoc, neg_div]

structure Binary.Canonical (b : Binary) : Prop where
  small : b.mantissa < 2 ^ 53
  least : -1074 ≤ b.exponent
  full : b.exponent = -1074 ∨ 2 ^ 52 ≤ b.mantissa

theorem Binary.Canonical.exponent_le {a b : Binary} (ha : a.Canonical) (hb : b.Canonical)
    (same : (a.mantissa : ℚ) * 2 ^ a.exponent = b.mantissa * 2 ^ b.exponent) : b.exponent ≤ a.exponent := by
  by_contra less
  obtain ⟨d, larger⟩ : ∃ d : ℕ, b.exponent = a.exponent + (d + 1 : ℕ) :=
    ⟨(b.exponent - a.exponent - 1).toNat, by omega⟩
  have full : 2 ^ 52 ≤ b.mantissa := hb.full.resolve_left (by have := ha.least; omega)
  have scaled : (a.mantissa : ℚ) = b.mantissa * 2 ^ (d + 1) := by
    rw [larger, zpow_add₀ two_ne_zero, zpow_natCast, ← mul_assoc, mul_right_comm] at same
    exact mul_right_cancel₀ (zpow_ne_zero _ two_ne_zero) same
  have whole : a.mantissa = b.mantissa * 2 ^ (d + 1) := by exact_mod_cast scaled
  have small := ha.small
  have pow : 1 ≤ 2 ^ d := Nat.one_le_two_pow
  rw [whole, pow_succ] at small
  nlinarith

/-- Two canonical floats of one value are the same, but for the sign of zero. -/
theorem Binary.Canonical.value_eq_iff {a b : Binary} (ha : a.Canonical) (hb : b.Canonical) (hm : 0 < a.mantissa)
    (hm' : 0 < b.mantissa) :
    a.value = b.value ↔ a = b := by
  constructor
  · intro same
    have scale (e : ℤ) : (0 : ℚ) < 2 ^ e := zpow_pos two_pos e
    have pos : (0 : ℚ) < a.mantissa * 2 ^ a.exponent := mul_pos (by exact_mod_cast hm) (scale _)
    have pos' : (0 : ℚ) < b.mantissa * 2 ^ b.exponent := mul_pos (by exact_mod_cast hm') (scale _)
    obtain ⟨negative, m, e⟩ := a
    obtain ⟨negative', m', e'⟩ := b
    rw [value_eq, value_eq] at same
    dsimp only at *
    have sizes : negative = negative' ∧ (m : ℚ) * 2 ^ e = m' * 2 ^ e' := by
      cases negative <;> cases negative' <;> simp at same ⊢ <;> linarith
    obtain ⟨rfl, sizes⟩ := sizes
    obtain rfl : e = e' := le_antisymm (hb.exponent_le ha sizes.symm) (ha.exponent_le hb sizes)
    have mantissas : (m : ℚ) = m' := mul_right_cancel₀ (scale e).ne' sizes
    rw [Nat.cast_inj.mp mantissas]
  · rintro rfl
    rfl

/-! ## Floats taken apart -/

def isNegative : Sign → Bool
  | .negative => true
  | .positive => false

def viewUnpacked : UnpackedFloat → FloatView
  | .infinity s => .infinite (isNegative s)
  | .notANumber => .nan
  | .zero s => .finite ⟨isNegative s, 0, -1074⟩
  | .finite s m e _ => .finite ⟨isNegative s, m, e⟩

theorem toNat_unpackMantissa (b : BitVec 64) :
    (@unpackMantissa Format.binary64 b).toNat = b.toNat % pow2 52 := by
  simp [unpackMantissa, BitVec.extractLsb, BitVec.extractLsb', pow2]

theorem toNat_unpackExponent (b : BitVec 64) :
    (@unpackExponent Format.binary64 b).toNat = b.toNat / pow2 52 % pow2 11 := by
  simp [unpackExponent, BitVec.extractLsb, BitVec.extractLsb', pow2, Nat.shiftRight_eq_div_pow]

theorem isNegative_unpackSign (b : BitVec 64) :
    isNegative (Sign.ofBitVec (@unpackSign Format.binary64 b)) = decide (pow2 63 ≤ b.toNat) := by
  have bound := b.isLt
  have top : @unpackSign Format.binary64 b = 0#1 ↔ ¬ pow2 63 ≤ b.toNat := by
    simp only [unpackSign, BitVec.extractLsb, BitVec.extractLsb', pow2, Nat.shiftRight_eq_div_pow, BitVec.toNat_eq]
    simp
    omega
  unfold Sign.ofBitVec
  by_cases positive : @unpackSign Format.binary64 b = 0#1
  · rw [if_pos positive]
    simp [isNegative, top.mp positive]
  · rw [if_neg positive]
    simp [isNegative, Classical.not_not.mp (mt top.mpr positive)]

theorem view_eq (x : Float) : view x = viewUnpacked x.toModel.unpack := by
  unfold view viewBits Float.Model.unpack UnpackedFloat.unpack
  show _ = viewUnpacked _
  have bits : x.toBits.toNat = x.toModel.toBits.toBitVec.toNat := rfl
  generalize x.toModel.toBits.toBitVec = b at bits
  rw [bits]
  have ones : @unpackExponent Format.binary64 b = -1#11 ↔ b.toNat / pow2 52 % pow2 11 = 2047 := by
    rw [← toNat_unpackExponent, ← BitVec.toNat_inj]
    rfl
  have zeros : @unpackExponent Format.binary64 b = 0#11 ↔ b.toNat / pow2 52 % pow2 11 = 0 := by
    rw [← toNat_unpackExponent, ← BitVec.toNat_inj]
    rfl
  have empty : @unpackMantissa Format.binary64 b = 0#52 ↔ b.toNat % pow2 52 = 0 := by
    rw [← toNat_unpackMantissa, ← BitVec.toNat_inj]
    rfl
  have negative := isNegative_unpackSign b
  dsimp only
  by_cases top : b.toNat / pow2 52 % pow2 11 = 2047
  · rw [if_pos top, if_pos (ones.mpr top)]
    by_cases whole : b.toNat % pow2 52 = 0
    · rw [if_pos whole, if_pos (empty.mpr whole), ← negative]
      rfl
    · rw [if_neg whole, if_neg (mt empty.mp whole)]
      rfl
  · rw [if_neg top, if_neg (mt ones.mp top)]
    by_cases bottom : b.toNat / pow2 52 % pow2 11 = 0
    · rw [if_pos bottom, if_pos (zeros.mpr bottom), ← negative]
      by_cases whole : b.toNat % pow2 52 = 0
      · rw [dif_pos (empty.mpr whole), whole]
        rfl
      · rw [dif_neg (mt empty.mp whole)]
        show _ = FloatView.finite ⟨_, _, _⟩
        rw [toNat_unpackMantissa, toNat_unpackExponent, bottom]
        rfl
    · rw [if_neg bottom, if_neg (mt zeros.mp bottom), ← negative]
      show _ = FloatView.finite ⟨_, _, _⟩
      rw [toNat_unpackExponent, BitVec.toNat_append, toNat_unpackMantissa]
      have joined : (1#1).toNat <<< 52 ||| b.toNat % pow2 52 = pow2 52 + b.toNat % pow2 52 := by
        have fits : b.toNat % pow2 52 < 2 ^ 52 := Nat.mod_lt _ (Nat.pow_pos two_pos)
        rw [← Nat.shiftLeft_add_eq_or_of_lt fits]
        rfl
      rw [show (1#1).toNat <<< Format.binary64.mantissaBitsWithoutImplicit = (1#1).toNat <<< 52 from rfl, joined]
      rfl

theorem canonical_of_view {x : Float} {b : Binary} (h : view x = .finite b) : b.Canonical := by
  unfold view viewBits at h
  have fraction : x.toBits.toNat % pow2 52 < 2 ^ 52 := Nat.mod_lt _ (Nat.pow_pos two_pos)
  dsimp only at h
  split_ifs at h
  · cases h
    exact ⟨by dsimp only; omega, by dsimp only; omega, .inl rfl⟩
  · cases h
    exact ⟨by dsimp only [pow2, Nat.pow_eq]; omega, by dsimp only; omega, .inr (Nat.le_add_right _ _)⟩

theorem value_eq_zero_iff (b : Binary) : b.value = 0 ↔ b.mantissa = 0 := by
  have scale : (2 : ℚ) ^ b.exponent ≠ 0 := zpow_ne_zero _ two_ne_zero
  rw [Binary.value_eq]
  cases b.negative <;> simp [scale]

def FloatView.Equal : FloatView → FloatView → Prop
  | .finite a, .finite b => a.value = b.value
  | .infinite s, .infinite t => s = t
  | _, _ => False

/-- Floats are equal by value. -/
theorem beq_iff (x y : Float) : (x == y) = true ↔ (view x).Equal (view y) := by
  have hx (b : Binary) : view x = .finite b → b.Canonical := canonical_of_view
  have hy (b : Binary) : view y = .finite b → b.Canonical := canonical_of_view
  have shown : (x == y) = (x.toModel.unpack.compare y.toModel.unpack == some .eq) := rfl
  rw [shown, beq_iff_eq]
  rw [view_eq] at hx hy
  rw [view_eq x, view_eq y]
  revert hx hy
  generalize x.toModel.unpack = u
  generalize y.toModel.unpack = v
  intro hx hy
  cases u with
  | notANumber => cases v <;> simp [UnpackedFloat.compare, viewUnpacked, FloatView.Equal]
  | infinity s =>
    cases v with
    | infinity t => cases s <;> cases t <;> simp [UnpackedFloat.compare, viewUnpacked, FloatView.Equal, isNegative] <;> decide
    | _ => cases s <;> simp [UnpackedFloat.compare, viewUnpacked, FloatView.Equal]
  | zero s =>
    cases v with
    | infinity t => cases t <;> simp [UnpackedFloat.compare, viewUnpacked, FloatView.Equal]
    | notANumber => simp [UnpackedFloat.compare, viewUnpacked, FloatView.Equal]
    | zero t => simp [UnpackedFloat.compare, viewUnpacked, FloatView.Equal, (value_eq_zero_iff _).mpr]
    | finite t m e pos =>
      have away : (⟨isNegative t, m, e⟩ : Binary).value ≠ 0 := mt (value_eq_zero_iff _).mp pos.ne'
      cases t <;> simpa [UnpackedFloat.compare, viewUnpacked, FloatView.Equal, (value_eq_zero_iff _).mpr] using away.symm
  | finite s m e pos =>
    have away : (⟨isNegative s, m, e⟩ : Binary).value ≠ 0 := mt (value_eq_zero_iff _).mp pos.ne'
    cases v with
    | infinity t => cases t <;> cases s <;> simp [UnpackedFloat.compare, viewUnpacked, FloatView.Equal]
    | notANumber => simp [UnpackedFloat.compare, viewUnpacked, FloatView.Equal]
    | zero t =>
      cases s <;> simpa [UnpackedFloat.compare, viewUnpacked, FloatView.Equal, (value_eq_zero_iff _).mpr] using away
    | finite t m' e' pos' =>
      show _ ↔ (⟨isNegative s, m, e⟩ : Binary).value = (⟨isNegative t, m', e'⟩ : Binary).value
      rw [(hx _ rfl).value_eq_iff (hy _ rfl) pos pos']
      cases s <;> cases t <;>
        simp [UnpackedFloat.compare, isNegative, and_comm, Ordering.swap_eq_eq]

theorem viewUnpacked_unpack_ne_nan {b : BitVec Format.binary64.numBits}
    (h : unpackExponent b = -1#11 → unpackMantissa b = 0#52) : viewUnpacked (UnpackedFloat.unpack .binary64 b) ≠ .nan := by
  unfold UnpackedFloat.unpack
  dsimp only
  split_ifs with top whole bottom empty
  · exact FloatView.noConfusion
  · exact absurd (h top) whole
  all_goals exact FloatView.noConfusion

/-- A number stays one when its sign is turned. -/
theorem view_neg_ne_nan {x : Float} (h : view x ≠ .nan) : view (-x) ≠ .nan := by
  have shown : view (-x) = viewUnpacked (UnpackedFloat.unpack .binary64 (UnpackedFloat.pack .binary64 x.toModel.unpack.neg)) :=
    view_eq (-x)
  rw [view_eq] at h
  rw [shown]
  revert h
  generalize x.toModel.unpack = u
  intro h
  cases u with
  | notANumber => exact absurd rfl h
  | infinity s => cases s <;> decide
  | zero s => cases s <;> decide
  | finite s m e pos =>
    unfold UnpackedFloat.neg UnpackedFloat.pack
    dsimp only
    split_ifs with large
    · exact viewUnpacked_unpack_ne_nan fun _ => unpackMantissa_packComponents
    · refine viewUnpacked_unpack_ne_nan fun top => ?_
      rw [unpackExponent_packComponents, ← BitVec.toNat_inj, BitVec.toNat_ofNat] at top
      change _ % 2048 = 2047 at top
      change ¬ 2048 ≤ _ at large
      omega
    · refine viewUnpacked_unpack_ne_nan fun top => ?_
      rw [unpackExponent_packComponents] at top
      cases top

theorem isNaN_iff (x : Float) : x.isNaN = true ↔ view x = .nan := by
  have shown : x.isNaN = x.toModel.unpack.isNaN := rfl
  rw [shown, view_eq]
  cases x.toModel.unpack <;> simp [UnpackedFloat.isNaN, viewUnpacked]

/-- A float is equal to a whole number if that is its value. -/
theorem compareInt_eq_iff (x : Float) (n : Int) :
    (compareInt x n == some .eq) = true ↔ ∃ b, view x = .finite b ∧ b.value = n := by
  unfold compareInt
  cases view x with
  | nan => simp
  | infinite negative => cases negative <;> simp
  | finite b =>
    have same : b.signedNum = n * b.den ↔ b.value = n := by
      rw [Binary.value, div_eq_iff b.den_pos.ne']
      exact_mod_cast Iff.rfl
    simp [same]

end Stencil.Number
