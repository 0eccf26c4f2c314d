import Stencil.Engine.Constant

/-!
# Folding

Parts of an expression whose value is known before the run are replaced by it, from the inside outwards. Only plain
values can be put down: numbers, texts, ranges, and rows and maps of such values. The expression they come from is
kept beside them for the names it mentions.
-/

set_option autoImplicit false

namespace Stencil.Engine

open Stencil.Template

mutual

def isPlainData : Data → Bool
  | .null => true
  | .bool _ => true
  | .int _ => true
  | .float _ => true
  | .nan _ => true
  | .complex _ => true
  | .range _ _ _ => true
  | .text _ => true
  | .safe _ => true
  | .list items => allPlainData items
  | .tuple items => allPlainData items
  | .set items => allPlainData items
  | .map entries => allPlainEntries entries
  | _ => false

def allPlainData : List Data → Bool
  | [] => true
  | d :: rest => isPlainData d && allPlainData rest

def allPlainEntries : List (Data × Data) → Bool
  | [] => true
  | (k, d) :: rest => isPlainData k && isPlainData d && allPlainEntries rest

end

def settle (I : Interp) (env : Env) (e : Expr) : Eval Expr := do
  match ← (constOf I env e).run with
  | none => return e
  | some v =>
    let d ← freeze v
    return if isPlainData d then .folded d e else e

mutual

def fold (I : Interp) (env : Env) : Expr → Eval Expr
  | .literal d => return .literal d
  | .folded d source => return .folded d source
  | .name id line => return .name id line
  | .list items => do settle I env (.list (← foldAll I env items))
  | .tuple items => do settle I env (.tuple (← foldAll I env items))
  | .dict entries => do settle I env (.dict (← foldEntries I env entries))
  | .attribute e id => do settle I env (.attribute (← fold I env e) id)
  | .item e i => do
    let e ← fold I env e
    settle I env (.item e (← fold I env i))
  | .slice start stop stride => do
    let start ← foldOption I env start
    let stop ← foldOption I env stop
    return .slice start stop (← foldOption I env stride)
  | .call f args named more moreNamed => do
    let f ← fold I env f
    let args ← foldAll I env args
    let named ← foldNamed I env named
    let more ← foldOption I env more
    return .call f args named more (← foldOption I env moreNamed)
  | .filter e id args named more moreNamed line => do
    let e ← foldOption I env e
    let args ← foldAll I env args
    let named ← foldNamed I env named
    let more ← foldOption I env more
    settle I env (.filter e id args named more (← foldOption I env moreNamed) line)
  | .test e id args named more moreNamed line => do
    let e ← fold I env e
    let args ← foldAll I env args
    let named ← foldNamed I env named
    let more ← foldOption I env more
    settle I env (.test e id args named more (← foldOption I env moreNamed) line)
  | .negative e => do settle I env (.negative (← fold I env e))
  | .positive e => do settle I env (.positive (← fold I env e))
  | .not e => do settle I env (.not (← fold I env e))
  | .and a b => do
    let a ← fold I env a
    settle I env (.and a (← fold I env b))
  | .or a b => do
    let a ← fold I env a
    settle I env (.or a (← fold I env b))
  | .binary op a b => do
    let a ← fold I env a
    settle I env (.binary op a (← fold I env b))
  | .compare e rest => do
    let e ← fold I env e
    settle I env (.compare e (← foldCompared I env rest))
  | .concat items => do settle I env (.concat (← foldAll I env items))
  | .choose condition yes no line => do
    let condition ← fold I env condition
    let yes ← fold I env yes
    settle I env (.choose condition yes (← foldOption I env no) line)

def foldAll (I : Interp) (env : Env) : List Expr → Eval (List Expr)
  | [] => return []
  | e :: rest => do
    let e ← fold I env e
    return e :: (← foldAll I env rest)

def foldOption (I : Interp) (env : Env) : Option Expr → Eval (Option Expr)
  | none => return none
  | some e => do return some (← fold I env e)

def foldEntries (I : Interp) (env : Env) : List (Expr × Expr) → Eval (List (Expr × Expr))
  | [] => return []
  | (k, e) :: rest => do
    let k ← fold I env k
    let e ← fold I env e
    return (k, e) :: (← foldEntries I env rest)

def foldNamed (I : Interp) (env : Env) : List (String × Expr) → Eval (List (String × Expr))
  | [] => return []
  | (id, e) :: rest => do
    let e ← fold I env e
    return (id, e) :: (← foldNamed I env rest)

def foldCompared (I : Interp) (env : Env) : List (CompareOp × Expr) → Eval (List (CompareOp × Expr))
  | [] => return []
  | (op, e) :: rest => do
    let e ← fold I env e
    return (op, e) :: (← foldCompared I env rest)

end

end Stencil.Engine
