/-!
# Floats as whole numbers

A finite float is `± mantissa · 2 ^ exponent`. Comparison and printing work on these whole numbers, so that
nothing is rounded on the way. `nearest` goes the other way: the float closest to a quotient of two naturals.
-/

set_option autoImplicit false

namespace Stencil.Number

def pow2 (n : Nat) : Nat := Nat.pow 2 n

def pow10 (n : Nat) : Nat := Nat.pow 10 n

structure Binary where
  negative : Bool
  mantissa : Nat
  exponent : Int
  deriving DecidableEq, Repr

inductive FloatView where
  | finite (b : Binary)
  | infinite (negative : Bool)
  | nan
  deriving DecidableEq, Repr

def viewBits (bits : Nat) : FloatView :=
  let negative := decide (pow2 63 ≤ bits)
  let biased : Nat := bits / pow2 52 % pow2 11
  let fraction := bits % pow2 52
  if biased = 2047 then
    if fraction = 0 then .infinite negative else .nan
  else if biased = 0 then .finite ⟨negative, fraction, -1074⟩
  else .finite ⟨negative, pow2 52 + fraction, (biased : Int) - 1075⟩

def view (x : Float) : FloatView := viewBits x.toBits.toNat

def Binary.num (b : Binary) : Nat := b.mantissa * pow2 b.exponent.toNat

def Binary.den (b : Binary) : Nat := pow2 (-b.exponent).toNat

def Binary.signedNum (b : Binary) : Int := if b.negative then -(b.num : Int) else b.num

def roundHalfEven (num den : Nat) : Nat :=
  let q := num / den
  let r := num % den
  if 2 * r < den then q
  else if den < 2 * r then q + 1
  else if q % 2 = 0 then q else q + 1

def scaleOf (num den : Nat) : Int :=
  let guess : Int := (num.log2 : Int) - (den.log2 : Int) - 52
  let atLeast (e : Int) : Bool := decide (den * pow2 (52 + e).toNat ≤ num * pow2 (-(52 + e)).toNat)
  let e := if atLeast guess then guess else guess - 1
  max e (-1074)

def nearestBits (num den : Nat) : Option Nat :=
  if num = 0 then some 0
  else
    let e := scaleOf num den
    let m := roundHalfEven (num * pow2 (-e).toNat) (den * pow2 e.toNat)
    let (m, e) := if m = pow2 53 then (pow2 52, e + 1) else (m, e)
    if 971 < e then none
    else if m < pow2 52 then some m
    else some ((e + 1075).toNat * pow2 52 + (m - pow2 52))

def withSign (negative : Bool) (x : Float) : Float := if negative then -x else x

def nearest? (negative : Bool) (num den : Nat) : Option Float :=
  (nearestBits num den).map fun bits => withSign negative (Float.ofBits bits.toUInt64)

def infinity : Float := Float.ofBits 0x7FF0000000000000

def notANumber : Float := Float.ofBits 0x7FF8000000000000

def nearest (negative : Bool) (num den : Nat) : Float :=
  (nearest? negative num den).getD (withSign negative infinity)

def ofInt? (n : Int) : Option Float := nearest? (decide (n < 0)) n.natAbs 1

def compareInt (x : Float) (n : Int) : Option Ordering :=
  match view x with
  | .nan => none
  | .infinite negative => some (if negative then .lt else .gt)
  | .finite b => some (compare b.signedNum (n * b.den))

def truncate? (x : Float) : Option Int :=
  match view x with
  | .finite b =>
    let q : Nat := b.num / b.den
    some (if b.negative then -(q : Int) else q)
  | _ => none

end Stencil.Number
