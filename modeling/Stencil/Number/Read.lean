import Stencil.Number.Binary

/-!
# Reading numbers

Digits in a base, and decimals with a fraction and an exponent, which become the float closest to them.
-/

set_option autoImplicit false

namespace Stencil.Number

def digitLimit : Nat := 4300

def digitValue? (c : Char) : Option Nat :=
  if '0' ≤ c ∧ c ≤ '9' then some (c.toNat - '0'.toNat)
  else if 'a' ≤ c ∧ c ≤ 'z' then some (c.toNat - 'a'.toNat + 10)
  else if 'A' ≤ c ∧ c ≤ 'Z' then some (c.toNat - 'A'.toNat + 10)
  else none

def isDigitOf (base : Nat) (c : Char) : Bool :=
  match digitValue? c with
  | some d => d < base
  | none => false

def ofDigits (base : Nat) (ds : List Char) : Nat :=
  ds.foldl (fun n c => match digitValue? c with
    | some d => n * base + d
    | none => n) 0

def decimalFloat (negative : Bool) (whole fraction : List Char) (exponent : Int) : Float :=
  let n := ofDigits 10 (whole ++ fraction)
  let e := exponent - fraction.length
  let size := e + (whole ++ fraction).length
  if n = 0 then withSign negative 0.0
  else if 400 < size then
    if 400 < e + (Nat.toDigits 10 n).length then withSign negative infinity
    else nearest negative (n * pow10 e.toNat) (pow10 (-e).toNat)
  else if size < -400 then withSign negative 0.0
  else nearest negative (n * pow10 e.toNat) (pow10 (-e).toNat)

def takeSign : List Char → Bool × List Char
  | '-' :: cs => (true, cs)
  | '+' :: cs => (false, cs)
  | cs => (false, cs)

def takeExponent? : List Char → Option (Int × List Char)
  | c :: cs =>
    if c == 'e' || c == 'E' then
      let (negative, rest) := takeSign cs
      let ds := rest.takeWhile Char.isDigit
      if ds.isEmpty then none
      else
        let n := ofDigits 10 ds
        some (if negative then -(n : Int) else n, rest.drop ds.length)
    else none
  | [] => none

end Stencil.Number
