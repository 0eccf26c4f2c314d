import Stencil.Engine.Expression
import Stencil.Template.Builtin

/-!
# Constant expressions

An expression without names and calls has a value before its template runs. Most operations that fail then are left to
the run; the truth of a value, its text in a joined text and the key of a map are asked for at once, and their faults
are faults of the template. Where it is not settled whether results are escaped, filters and tests wait.
-/

set_option autoImplicit false

namespace Stencil.Engine

open Stencil.Template

abbrev Known := OptionT Eval

def Known.attempt {α : Type} (act : Known α) : Known α := OptionT.mk (recover act.run fun _ => return none)

def appliesEarly (env : Env) (names : List String) (id : String) : Bool :=
  !env.escape.unsure && names.contains id && !contextFilters.contains id

def lastNamed (named : Named) : Named := named.foldl (fun ns e => putNamed ns e.1 e.2) []

def moreKnown (I : Interp) (args : List Value) (more : Option Value) : Known (List Value) := do
  match more with
  | none => return args
  | some v => Known.attempt do return args ++ (← itemsOf I v)

def moreNamedKnown (I : Interp) (named : Named) (more : Option Value) : Known Named := do
  match more with
  | none => return named
  | some v =>
    Known.attempt do
      let entries ← buildEntries I [v] []
      let added ← entries.mapM fun e => do return (← namedKey e.1, e.2)
      return lastNamed (named ++ added)

mutual

def constOf (I : Interp) (env : Env) : Expr → Known Value
  | .literal d => thaw d
  | .folded d _ => thaw d
  | .name _ _ => failure
  | .list items => do newList (← constAll I env items)
  | .tuple items => do return .tuple (← constAll I env items)
  | .dict entries => do newDict (← putAll [] (← constEntries I env entries))
  | .attribute e id => Known.attempt do getMember I (← constOf I env e) id
  | .item e i =>
    Known.attempt do
      let v ← constOf I env e
      getElement I v (← constOf I env i)
  | .slice start stop stride => do
    let a ← constOption I env start
    let b ← constOption I env stop
    let c ← constOption I env stride
    return .slice (a.getD .null) (b.getD .null) (c.getD .null)
  | .call _ _ _ _ _ => failure
  | .filter none _ _ _ _ _ _ => failure
  | .filter (some e) id args named more moreNamed _ => do
    if !appliesEarly env filterNames id then failure
    let args ← constAll I env args
    let named ← constNamed I env named
    let args ← moreKnown I args (← (constOption I env more).attempt)
    let named ← moreNamedKnown I (lastNamed named) (← (constOption I env moreNamed).attempt)
    let v ← constOf I env e
    Known.attempt (I.filter env id (v :: args) named)
  | .test e id args named more moreNamed _ => do
    if !appliesEarly env testNames id then failure
    let args ← constAll I env args
    let named ← constNamed I env named
    let args ← moreKnown I args (← (constOption I env more).attempt)
    let named ← moreNamedKnown I (lastNamed named) (← (constOption I env moreNamed).attempt)
    let v ← constOf I env e
    Known.attempt do return .bool (← applyTest I id (v :: args) named)
  | .negative e => Known.attempt do negate (← constOf I env e)
  | .positive e => Known.attempt do positive (← constOf I env e)
  | .not e => Known.attempt do return .bool (!(← truth I (← constOf I env e)))
  | .and a b => do
    let v ← constOf I env a
    if ← truth I v then constOf I env b else return v
  | .or a b => do
    let v ← constOf I env a
    if ← truth I v then return v else constOf I env b
  | .binary op a b =>
    Known.attempt do
      let v ← constOf I env a
      binaryOp I op v (← constOf I env b)
  | .compare e rest => do
    let v ← constOf I env e
    Known.attempt do return .bool (← constCompared I env v rest)
  | .concat items => do joinPlainly I (← constAll I env items)
  | .choose condition yes no _ => do
    if ← truth I (← constOf I env condition) then constOf I env yes
    else
      match ← constOption I env no with
      | some v => return v
      | none => failure

def constAll (I : Interp) (env : Env) : List Expr → Known (List Value)
  | [] => return []
  | e :: rest => do
    let v ← constOf I env e
    return v :: (← constAll I env rest)

def constOption (I : Interp) (env : Env) : Option Expr → Known (Option Value)
  | none => return none
  | some e => do return some (← constOf I env e)

def constEntries (I : Interp) (env : Env) : List (Expr × Expr) → Known (List (Value × Value))
  | [] => return []
  | (k, e) :: rest => do
    let key ← constOf I env k
    let v ← constOf I env e
    return (key, v) :: (← constEntries I env rest)

def constNamed (I : Interp) (env : Env) : List (String × Expr) → Known Named
  | [] => return []
  | (id, e) :: rest => do
    let v ← constOf I env e
    return (id, v) :: (← constNamed I env rest)

def constCompared (I : Interp) (env : Env) (v : Value) : List (CompareOp × Expr) → Known Bool
  | [] => return true
  | (op, e) :: rest => do
    let w ← constOf I env e
    if ← compareValues I op v w then constCompared I env w rest else return false

end

def fixedText? (I : Interp) (env : Env) (e : Expr) : Eval (Option String) := do
  let written : Known String := do
    let v ← constOf I env e
    if env.escape.on then escaped I v else display I v
  written.attempt.run

end Stencil.Engine
