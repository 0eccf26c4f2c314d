import Stencil.Number.Shortest

/-!
# Numbers as text

Floats are written with the fewest digits that read back: positionally from `0.0001` up to below `1e16`, with an
exponent of at least two digits elsewhere, and never without a point or an exponent.
-/

set_option autoImplicit false

namespace Stencil.Number

def digitsOf (n : Nat) : List Char := Nat.toDigits 10 n

def intText (n : Int) : String :=
  if n < 0 then "-" ++ String.ofList (digitsOf n.natAbs) else String.ofList (digitsOf n.natAbs)

def dropTrailingZeros (ds : List Char) : List Char :=
  match (ds.reverse.dropWhile (· == '0')).reverse with
  | [] => ['0']
  | r => r

def exponentText (e : Int) : List Char :=
  let ds := digitsOf e.natAbs
  'e' :: (if e < 0 then '-' else '+') :: (List.replicate (2 - ds.length) '0' ++ ds)

def layOut (ds : List Char) (place : Int) : List Char :=
  if -4 < place ∧ place ≤ 16 then
    if place ≤ 0 then ['0', '.'] ++ List.replicate (-place).toNat '0' ++ ds
    else if (ds.length : Int) ≤ place then
      ds ++ List.replicate (place.toNat - ds.length) '0' ++ ['.', '0']
    else ds.take place.toNat ++ ['.'] ++ ds.drop place.toNat
  else
    match ds with
    | [] => []
    | [d] => d :: exponentText (place - 1)
    | d :: r => d :: '.' :: r ++ exponentText (place - 1)

def decimalChars (d : Decimal) : List Char :=
  let all := digitsOf d.digits
  layOut (dropTrailingZeros all) ((all.length : Int) + d.exponent)

def binaryChars (b : Binary) : List Char :=
  let sign := if b.negative then ['-'] else []
  sign ++ (if b.mantissa = 0 then ['0', '.', '0'] else decimalChars (shortest b.mantissa b.exponent))

def floatChars (x : Float) : List Char :=
  match view x with
  | .nan => "nan".toList
  | .infinite negative => if negative then "-inf".toList else "inf".toList
  | .finite b => binaryChars b

def floatText (x : Float) : String := String.ofList (floatChars x)

def fixedChars (b : Binary) (places : Nat) : List Char :=
  let n := roundHalfEven (b.num * pow10 places) b.den
  let ds := digitsOf n
  let ds := List.replicate (places + 1 - ds.length) '0' ++ ds
  let cut := ds.length - places
  let whole := ds.take cut
  let sign := if b.negative then ['-'] else []
  sign ++ (if places = 0 then whole else whole ++ '.' :: ds.drop cut)

end Stencil.Number
