import Stencil.Mishap
import Stencil.Number.Arithmetic
import Stencil.Number.Root
import Stencil.Number.Written

/-!
# Complex numbers

A negative number raised to a broken power leaves the line of the floats. Whole powers up to a hundred are products,
all others go by length and angle.
-/

set_option autoImplicit false

namespace Stencil.Number

structure Complex where
  re : Float
  im : Float

namespace Complex

def ofFloat (x : Float) : Complex := ⟨x, 0.0⟩

def add (a b : Complex) : Complex := ⟨a.re + b.re, a.im + b.im⟩

def sub (a b : Complex) : Complex := ⟨a.re - b.re, a.im - b.im⟩

def mul (a b : Complex) : Complex := ⟨a.re * b.re - a.im * b.im, a.re * b.im + a.im * b.re⟩

def neg (a : Complex) : Complex := ⟨-a.re, -a.im⟩

def isZero (a : Complex) : Bool := a.re == 0.0 && a.im == 0.0

def equal (a b : Complex) : Bool := a.re == b.re && a.im == b.im

def div (a b : Complex) : Except Mishap Complex :=
  if b.im.abs ≤ b.re.abs then
    if b.re == 0.0 then .error .divisionByZero
    else
      let ratio := b.im / b.re
      let denom := b.re + b.im * ratio
      .ok ⟨(a.re + a.im * ratio) / denom, (a.im - a.re * ratio) / denom⟩
  else if b.re.abs ≤ b.im.abs then
    let ratio := b.re / b.im
    let denom := b.re * ratio + b.im
    .ok ⟨(a.re * ratio + a.im) / denom, (a.im * ratio - a.re) / denom⟩
  else .ok ⟨notANumber, notANumber⟩

def powerFrom : Nat → Complex → Complex → Nat → Complex
  | 0, result, _, _ => result
  | fuel + 1, result, square, n =>
    if n = 0 then result
    else powerFrom fuel (if n % 2 = 1 then result.mul square else result) (square.mul square) (n / 2)

def natPower (a : Complex) (n : Nat) : Complex := powerFrom (n.log2 + 2) ⟨1.0, 0.0⟩ a n

def polarPower (a b : Complex) : Except Mishap Complex :=
  if b.isZero then .ok ⟨1.0, 0.0⟩
  else if a.isZero then
    if b.im != 0.0 || b.re < 0.0 then .error .divisionByZero else .ok ⟨0.0, 0.0⟩
  else
    let size := (length? a.re a.im).getD infinity
    let angle := Float.atan2 a.im a.re
    let length := Float.pow size b.re
    let phase := angle * b.re
    let (length, phase) := if b.im != 0.0 then
        (length * Float.exp (-angle * b.im), phase + b.im * Float.log size)
      else (length, phase)
    .ok ⟨length * Float.cos phase, length * Float.sin phase⟩

def isInfinite (x : Float) : Bool := !isFinite x && !isNaN x

def pow (a b : Complex) : Except Mishap Complex := do
  let r ← match b.im == 0.0, roundToInt? b.re with
    | true, some n =>
      if compareInt b.re n == some .eq && n.natAbs ≤ 100 then
        if 0 < n then pure (natPower a n.natAbs) else div ⟨1.0, 0.0⟩ (natPower a n.natAbs)
      else polarPower a b
    | _, _ => polarPower a b
  if isInfinite r.re || isInfinite r.im then .error .tooLarge else return r

def partChars (x : Float) : List Char :=
  let cs := floatChars x
  if cs.drop (cs.length - 2) == ['.', '0'] then cs.dropLast.dropLast else cs

def text (a : Complex) : String :=
  let im := partChars a.im
  if a.re == 0.0 && !isNegativeFloat a.re then String.ofList (im ++ ['j'])
  else
    let sign := if im.head? == some '-' then [] else ['+']
    String.ofList (['('] ++ partChars a.re ++ sign ++ im ++ ['j', ')'])

end Complex

end Stencil.Number
