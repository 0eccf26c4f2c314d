import Stencil.Engine.Method
import Stencil.Text.Decimal

/-!
# What filters share

Filters that look into items do so by a path: names and numbers divided by points. Texts are compared without
regard to case unless asked otherwise.
-/

set_option autoImplicit false

namespace Stencil.Engine

def pathPart (like : Value) (s : String) : Eval Value := do
  if !s.isEmpty && s.toList.all Text.isAnyDigit then return .int (← liftOption .badValue (Number.readInt? 10 s))
  else return likeText like s

def pathParts (v : Value) : Eval (List Value) := do
  match v with
  | .null => return []
  | v =>
    match textOf? v with
    | some s => (s.splitOn ".").mapM (pathPart v)
    | none => return [v]

def followPath (I : Interp) (item : Value) (parts : List Value) : Eval Value :=
  parts.foldlM (fun v part => getElement I v part) item

def ignoreCase (v : Value) : Value :=
  match v with
  | .text s => .text (String.ofList (Text.lower s.toList))
  | .safe s => .safe (String.ofList (Text.lower s.toList))
  | v => v

def itemKey (I : Interp) (caseSensitive : Bool) (parts : List Value) (item : Value) : Eval Value := do
  let v ← followPath I item parts
  return if caseSensitive then v else ignoreCase v

def pathList (v : Value) : Eval (List (List Value)) := do
  match textOf? v with
  | some s => (s.splitOn ",").mapM fun p => pathParts (likeText v p)
  | none => return [← pathParts v]

def reverseFlag (v : Value) : Eval Bool := do
  let n ← needInt v
  if n < -2147483648 || 2147483647 < n then fail .tooLarge
  return n != 0

end Stencil.Engine
