import Stencil.Engine.Variable
import Stencil.Engine.Access

/-!
# Assignment

A value is assigned to a name, to an attribute of a namespace, or taken apart and assigned to several targets.
-/

set_option autoImplicit false

namespace Stencil.Engine

open Stencil.Template

def setAttribute (env : Env) (namespaceId id : String) (v : Value) : Eval Unit := do
  match ← lookup? env namespaceId with
  | some (.namespace r) => setEntries r (putKey (.text id) v (← dictEntries r))
  | some (.dict r) => setEntries r (putKey (.text id) v (← dictEntries r))
  | _ => fail .wrongType

mutual

def assignTo (I : Interp) (env : Env) : Target → Value → Eval Unit
  | .name id _, v => storeName env id v
  | .attribute namespaceId id, v => setAttribute env namespaceId id v
  | .tuple items, v => do
    let values ← takeItems I (← iterate v) (items.length + 1)
    if values.length != items.length then fail .badValue
    assignAll I env items values

def assignAll (I : Interp) (env : Env) : List Target → List Value → Eval Unit
  | t :: ts, v :: vs => do
    assignTo I env t v
    assignAll I env ts vs
  | _, _ => return ()

end

mutual

def targetValue (env : Env) : Target → Eval Value
  | .name id _ => readName env id
  | .attribute namespaceId _ => readName env namespaceId
  | .tuple items => do return .tuple (← targetValues env items)

def targetValues (env : Env) : List Target → Eval (List Value)
  | [] => return []
  | t :: rest => do
    let v ← targetValue env t
    return v :: (← targetValues env rest)

end

def checkNamespaces (env : Env) (target : Target) : Eval Unit :=
  target.namespaces.forM fun id => do
    match ← lookup? env id with
    | some (.namespace _) => pure ()
    | _ => throw (.broken "cannot assign attribute on non-namespace object")

end Stencil.Engine
