import Stencil.Engine.Filter.Basic

/-!
# Filters on numbers
-/

set_option autoImplicit false

namespace Stencil.Engine

def isMisfit : Fault → Bool
  | .mishap .wrongType => true
  | .mishap .badValue => true
  | _ => false

def floatOr (default v : Value) : Eval Value :=
  recover (do newFloat (← floatOf v)) fun f => if isMisfit f then return default else throw f

def filterFloat (v default : Value) : Eval Value :=
  match v with
  | .nan mark => return .nan mark
  | v => floatOr default v

def wholeInBase (s : String) (base : Value) : Eval Int := do
  let b ← needInt base
  if b == 0 || (2 ≤ b && b ≤ 36) then liftOption .badValue (Number.readInt? b.toNat s) else fail .badValue

def wholeFrom (v base : Value) : Eval Int :=
  match textOf? v with
  | some s => wholeInBase s base
  | none => wholeOf v

def wholeByFloat (v default : Value) : Eval Value :=
  recover (do return .int (← truncated (← floatOf v))) fun f =>
    if isMisfit f || f == .mishap .tooLarge then return default else throw f

def filterInt (v default base : Value) : Eval Value :=
  recover (do return .int (← wholeFrom v base)) fun f => if isMisfit f then wholeByFloat v default else throw f

def filterAbs (v : Value) : Eval Value := do
  match numOf? v with
  | some (.int n) => return .int n.natAbs
  | some (.float x) => newFloat x.abs
  | some (.complex z) => return .float (← liftOption .tooLarge (Number.length? z.re z.im))
  | none => fail .wrongType

def roundWhole (n : Int) (places : Value) : Eval Value := do
  match places with
  | .null => return .int n
  | places =>
    let k ← needInt places
    return .int (if 0 ≤ k then n else Number.roundInt n (-k).toNat)

def roundBroken (x : Float) (places : Value) : Eval Value := do
  match places with
  | .null =>
    match Number.roundToInt? x with
    | some n => return .int n
    | none => if Number.isNaN x then fail .badValue else fail .tooLarge
  | places =>
    let k ← needInt places
    if Number.isFinite x then return .float (← liftOption .tooLarge (Number.roundFloat? x k)) else newFloat x

def roundCommon (v places : Value) : Eval Value :=
  match numOf? v with
  | some (.int n) => roundWhole n places
  | some (.float x) => roundBroken x places
  | _ => fail .wrongType

def wholeBeyond (up : Bool) (v : Value) : Eval Value := do
  match numOf? v with
  | some (.int n) => return .int n
  | some (.float x) => return .int (← truncated (if up then x.ceil else x.floor))
  | _ => fail .wrongType

def roundDirected (I : Interp) (up : Bool) (v places : Value) : Eval Value := do
  let power ← binaryOp I .pow (.int 10) places
  let whole ← wholeBeyond up (← binaryOp I .mul v power)
  binaryOp I .div whole power

def filterRound (I : Interp) (v precision method : Value) : Eval Value := do
  needKey method
  match textOf? method with
  | some "common" => roundCommon v precision
  | some "ceil" => roundDirected I true v precision
  | some "floor" => roundDirected I false v precision
  | _ => throw (.filterArgument "method must be common, ceil or floor")

end Stencil.Engine
