import Stencil.Number.Binary

/-!
# Arithmetic on whole numbers and floats

Division of whole numbers is correctly rounded; floor division and remainder go towards minus infinity, so that a
remainder has the sign of the divisor.
-/

set_option autoImplicit false

namespace Stencil.Number

def isNegativeFloat (x : Float) : Bool := decide (pow2 63 ≤ x.toBits.toNat)

def intQuotient? (a b : Int) : Option Float :=
  nearest? (decide (a < 0) != decide (b < 0)) a.natAbs b.natAbs

def truncatedRemainder (x y : Float) : Float :=
  match view x, view y with
  | .finite a, .finite b =>
    if b.mantissa = 0 then notANumber
    else
      let e := min a.exponent b.exponent
      let m := a.mantissa * pow2 (a.exponent - e).toNat
      let n := b.mantissa * pow2 (b.exponent - e).toNat
      nearest a.negative ((m % n) * pow2 e.toNat) (pow2 (-e).toNat)
  | .finite _, .infinite _ => x
  | _, _ => notANumber

def floorRemainder (x y : Float) : Float :=
  let r := truncatedRemainder x y
  if r != 0.0 then
    if (y < 0.0) != (r < 0.0) then r + y else r
  else withSign (isNegativeFloat y) 0.0

def floorQuotient (x y : Float) : Float :=
  let r := truncatedRemainder x y
  let q := (x - r) / y
  let q := if r != 0.0 && ((y < 0.0) != (r < 0.0)) then q - 1.0 else q
  if q != 0.0 then
    let f := q.floor
    if q - f > 0.5 then f + 1.0 else f
  else withSign (isNegativeFloat (x / y)) 0.0

def roundFloat? (x : Float) (places : Int) : Option Float :=
  match view x with
  | .finite b =>
    if 400 < places then some x
    else if places < -400 then some (withSign b.negative 0.0)
    else
      let n := roundHalfEven (b.num * pow10 places.toNat) (b.den * pow10 (-places).toNat)
      nearest? b.negative (n * pow10 (-places).toNat) (pow10 places.toNat)
  | _ => some x

def roundInt (n : Int) (k : Nat) : Int :=
  let m : Nat := roundHalfEven n.natAbs (pow10 k) * pow10 k
  if n < 0 then -(m : Int) else m

def roundToInt? (x : Float) : Option Int :=
  match view x with
  | .finite b =>
    let m : Nat := roundHalfEven b.num b.den
    some (if b.negative then -(m : Int) else m)
  | _ => none

def isFinite (x : Float) : Bool :=
  match view x with
  | .finite _ => true
  | _ => false

def isNaN (x : Float) : Bool :=
  match view x with
  | .nan => true
  | _ => false

end Stencil.Number
