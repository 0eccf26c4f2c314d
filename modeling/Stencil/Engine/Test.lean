import Stencil.Engine.Filter.Basic
import Stencil.Template.Builtin

/-!
# Tests

A test asks something of a value and answers yes or no.
-/

set_option autoImplicit false

namespace Stencil.Engine

open Stencil.Template

def isMissing : Value → Bool
  | .missing _ => true
  | _ => false

def isNumber : Value → Bool
  | .bool _ => true
  | .int _ => true
  | .float _ => true
  | .nan _ => true
  | .complex _ => true
  | _ => false

def remainderIs (I : Interp) (v divisor : Value) (wanted : Int) : Eval Bool := do
  valueEqual (← binaryOp I .mod v divisor) (.int wanted)

def isSequence : Value → Bool
  | .list _ => true
  | .tuple _ => true
  | .text _ => true
  | .safe _ => true
  | .dict _ => true
  | .range _ _ _ => true
  | .bytes _ => true
  | .missing m => !m.strict
  | _ => false

def canIterate : Value → Bool
  | .list _ => true
  | .tuple _ => true
  | .text _ => true
  | .safe _ => true
  | .dict _ => true
  | .range _ _ _ => true
  | .bytes _ => true
  | .set _ => true
  | .view _ _ => true
  | .iterator _ => true
  | .loop _ => true
  | .blocks _ => true
  | _ => false

def canCall : Value → Bool
  | .macroFn _ => true
  | .builtin _ => true
  | .method _ _ => true
  | .blockRef _ _ _ _ => true
  | .loop _ => true
  | .missing _ => true
  | _ => false

def smallEqual : Value → Value → Bool
  | .null, .null => true
  | .bool x, .bool y => x == y
  | .int x, .int y => x == y
  | .text x, .text y => x == y
  | _, _ => false

def isSame (a b : Value) : Bool := smallEqual a b || identical a b

def casedLike (f : List Char → List Char) (cs : List Char) : Bool :=
  f cs == cs && Text.upper cs != Text.lower cs

def compareTest? (id : String) : Option CompareOp :=
  match id with
  | "eq" | "equalto" => some .eq
  | "ne" => some .ne
  | "lt" | "lessthan" => some .lt
  | "le" => some .le
  | "gt" | "greaterthan" => some .gt
  | "ge" => some .ge
  | "in" => some .member
  | _ => none

def plainTest (I : Interp) (id : String) (v : Value) : Eval Bool := do
  match id with
  | "defined" => return !isMissing v
  | "undefined" => return isMissing v
  | "none" => return match v with
    | .null => true
    | _ => false
  | "boolean" => return match v with
    | .bool _ => true
    | _ => false
  | "true" => return match v with
    | .bool b => b
    | _ => false
  | "false" => return match v with
    | .bool b => !b
    | _ => false
  | "integer" => return match v with
    | .int _ => true
    | _ => false
  | "float" => return match v with
    | .float _ => true
    | .nan _ => true
    | _ => false
  | "number" => return isNumber v
  | "string" => return isTextValue v
  | "mapping" => return match v with
    | .dict _ => true
    | _ => false
  | "iterable" =>
    match v with
    | .missing m =>
      admitMissing m
      return true
    | v => return canIterate v
  | "sequence" => return isSequence v
  | "callable" => return canCall v
  | "escaped" => return isSafe v
  | "odd" => remainderIs I v (.int 2) 1
  | "even" => remainderIs I v (.int 2) 0
  | "lower" => return casedLike Text.lower (← display I v).toList
  | "upper" => return casedLike Text.upper (← display I v).toList
  | "filter" =>
    needKey v
    return (textOf? v).any filterNames.contains
  | "test" =>
    needKey v
    return (textOf? v).any testNames.contains
  | _ => throw (.broken ("No test named " ++ Text.quoted id ++ " found."))

def missingTest (id : String) (named : Named) : Eval Bool :=
  if named.isEmpty then throw (.broken ("No test named " ++ Text.quoted id ++ " found.")) else fail .wrongType

def applyTest (I : Interp) (id : String) (args : List Value) (named : Named) : Eval Bool := do
  match compareTest? id with
  | some op =>
    let g ← if op == .member then Signature.bind ⟨["value", "seq"], 2⟩ args named
      else positional ["value", "seq"] 2 args named
    compareValues I op (g.get "value" .null) (g.get "seq" .null)
  | none =>
    match id with
    | "divisibleby" =>
      let g ← Signature.bind ⟨["value", "num"], 2⟩ args named
      remainderIs I (g.get "value" .null) (g.get "num" .null) 0
    | "sameas" =>
      let g ← Signature.bind ⟨["value", "other"], 2⟩ args named
      return isSame (g.get "value" .null) (g.get "other" .null)
    | id =>
      if !testNames.contains id then missingTest id named
      else match args with
        | [v] => if named.isEmpty then plainTest I id v else fail .wrongType
        | _ => fail .wrongType

end Stencil.Engine
