import Stencil.Engine.Print
import Stencil.Number.Spelled

/-!
# Values as numbers

Whole numbers and floats out of values that are or spell a number.
-/

set_option autoImplicit false

namespace Stencil.Engine

def truncated (x : Float) : Eval Int :=
  match Number.truncate? x with
  | some n => return n
  | none => if Number.isNaN x then fail .badValue else fail .tooLarge

def wholeOf (v : Value) : Eval Int := do
  match v with
  | .missing m => failMissing m
  | .bool b => return if b then 1 else 0
  | .int n => return n
  | .float x => truncated x
  | .nan _ => fail .badValue
  | v =>
    match textOf? v with
    | some s => liftOption .badValue (Number.readInt? 10 s)
    | none => fail .wrongType

def toFloat (n : Num) : Eval Float :=
  match n with
  | .float x => return x
  | .int n => liftOption .tooLarge (Number.ofInt? n)
  | .complex _ => fail .wrongType

def floatOf (v : Value) : Eval Float := do
  match v with
  | .missing m => failMissing m
  | v =>
    match textOf? v, numOf? v with
    | some s, _ => liftOption .badValue (Number.readFloat? s)
    | none, some n => toFloat n
    | none, none => fail .wrongType

end Stencil.Engine
