import Stencil.Number.Binary

/-!
# Square roots of whole numbers

The root of a natural, rounded down, and the length of a vector of two floats, correctly rounded.
-/

set_option autoImplicit false

namespace Stencil.Number

def rootFrom (n : Nat) : Nat → Nat → Nat
  | 0, x => x
  | fuel + 1, x =>
    let y := (x + n / x) / 2
    if y < x then rootFrom n fuel y else x

def root (n : Nat) : Nat := if n = 0 then 0 else rootFrom n (n.log2 + 8) (pow2 (n.log2 / 2 + 1))

def length? (x y : Float) : Option Float :=
  match view x, view y with
  | .infinite _, _ => some infinity
  | _, .infinite _ => some infinity
  | .nan, _ => some notANumber
  | _, .nan => some notANumber
  | .finite a, .finite b =>
    let e := min a.exponent b.exponent
    let m := a.mantissa * pow2 (a.exponent - e).toNat
    let n := b.mantissa * pow2 (b.exponent - e).toNat
    let square := (m * m + n * n) * pow2 128
    let r := root square
    -- one more bit says whether the root was exact
    let twice := 2 * r + (if r * r = square then 0 else 1)
    let e := e - 65
    nearest? false (twice * pow2 e.toNat) (pow2 (-e).toNat)

end Stencil.Number
