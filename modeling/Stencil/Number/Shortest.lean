import Stencil.Number.Binary

/-!
# The shortest decimal that reads back

A positive float stands for all reals that round to it, an interval around it. Of the decimals in the interval
those with the fewest digits are taken, and of these the closest to the float.
-/

set_option autoImplicit false

namespace Stencil.Number

structure Decimal where
  digits : Nat
  exponent : Int
  deriving DecidableEq, Repr

structure Interval where
  low : Nat
  high : Nat
  den : Nat
  closed : Bool

def intervalOf (m : Nat) (e : Int) : Interval :=
  let narrow := decide (m = pow2 52 ∧ -1074 < e)
  let up := pow2 e.toNat
  { low := (4 * m - if narrow then 1 else 2) * up
    high := (4 * m + 2) * up
    den := 4 * pow2 (-e).toNat
    closed := m % 2 == 0 }

def Interval.has (i : Interval) (num den : Nat) : Bool :=
  let x := num * i.den
  if i.closed then decide (i.low * den ≤ x ∧ x ≤ i.high * den)
  else decide (i.low * den < x ∧ x < i.high * den)

def decimalPlace (num den : Nat) : Int :=
  let guess : Int := ((Nat.toDigits 10 num).length : Int) - ((Nat.toDigits 10 den).length : Int)
  if den * pow10 guess.toNat ≤ num * pow10 (-guess).toNat then guess + 1 else guess

def gridPoint? (i : Interval) (num den : Nat) (e : Int) : Option Nat :=
  let up := pow10 e.toNat
  let down := pow10 (-e).toNat
  let below := num * down / (den * up)
  let above := below + 1
  let hasBelow := decide (0 < below) && i.has (below * up) down
  let hasAbove := i.has (above * up) down
  if hasBelow && hasAbove then
    -- twice the value against the sum of the two neighbours
    let twice := 2 * num * down
    let middle := (below + above) * (den * up)
    if twice < middle then some below
    else if middle < twice then some above
    else if below % 2 = 0 then some below else some above
  else if hasBelow then some below
  else if hasAbove then some above
  else none

def searchGrids (i : Interval) (num den : Nat) (place : Int) : Nat → Nat → Decimal
  | 0, count => ⟨num * pow10 (count - place).toNat / den, place - count⟩
  | n + 1, count =>
    match gridPoint? i num den (place - count) with
    | some d => ⟨d, place - count⟩
    | none => searchGrids i num den place n (count + 1)

def shortest (m : Nat) (e : Int) : Decimal :=
  let num := m * pow2 e.toNat
  let den := pow2 (-e).toNat
  searchGrids (intervalOf m e) num den (decimalPlace num den) 17 1

end Stencil.Number
