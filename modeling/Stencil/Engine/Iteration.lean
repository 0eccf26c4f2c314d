import Stencil.Engine.Assignment
import Stencil.Engine.Expression
import Stencil.Engine.Filter.Sift

/-!
# Iterators and loops

Iterators give one value at a time. A loop that counts its turns can look one value ahead.
-/

set_option autoImplicit false

namespace Stencil.Engine

open Stencil.Template

def setIter (r : Ref) (it : Iter) : Eval Unit := setObject r (.iter it)

def finish (r : Ref) : Eval (Option Value) := do
  setIter r (.items "iterator" [])
  return none

def testEnv (env : Env) (target : Target) (test : Expr) (starts : Table Slot Value) : Eval Env := do
  let inner ← newFrame { base := env.scopes.nextDepth, outer := some env.frame, starts }
  return { env.inner (Scopes.loopTest env.scopes target test) with frame := inner }

def startTest (source : Value) (env : Env) (target : Target) (test : Expr) : Eval Iter := do
  let inner ← testEnv env target test {}
  enter inner
  let starts := (← frame inner.frame).starts
  return .tested source (some (← iterate source, starts)) env target test

def comingValue (I : Interp) (l : Loop) : Eval (Option Value) :=
  match l.ahead with
  | some v => return some v
  | none => I.next l.source

def advance (I : Interp) (r : Ref) : Eval (Option Value) := do
  match ← loop? r with
  | none => return none
  | some l =>
    match ← comingValue I l with
    | none => return none
    | some v =>
      updateLoop r fun l => { l with ahead := none, turns := l.turns + 1, before := l.current, current := some v }
      return some v

def placeBehind (entries : List (Value × Value)) (place : Nat) (last : Option Value) : Nat :=
  match last with
  | none => place
  | some key =>
    match entries.findIdx? fun e => keyEqual e.1 key with
    | some i => i + 1
    | none => place - 1

def nextEntry (r d : Ref) (kind : ViewKind) (size left place : Nat) (last : Option Value) : Eval (Option Value) := do
  let entries ← dictEntries d
  if entries.length != size then fail .changedWhileRead
  let place := placeBehind entries place last
  match entries[place]? with
  | none => finish r
  | some e =>
    if left = 0 then fail .changedWhileRead
    setIter r (.entries d kind size (left - 1) (place + 1) (some e.1))
    return some (kind.pick e)

def sizeOfOwner (owner : Value) : Eval Nat := do
  match owner with
  | .set r => return (← setItems r).length
  | .dict r => return (← dictEntries r).length
  | _ => return 0

def nextGrowing (r list : Ref) (index : Nat) : Eval (Option Value) := do
  match (← listItems list)[index]? with
  | some v =>
    setIter r (.growing list (index + 1))
    return some v
  | none => finish r

def nextBackward (r list : Ref) (left : Nat) : Eval (Option Value) := do
  let items ← listItems list
  match left with
  | 0 => finish r
  | n + 1 =>
    match items[n]? with
    | some v =>
      setIter r (.backward list n)
      return some v
    | none => finish r

def nextGuarded (r : Ref) (typeName : String) (owner : Value) (size : Nat) (rest : List Value) :
    Eval (Option Value) := do
  if (← sizeOfOwner owner) != size then fail .changedWhileRead
  match rest with
  | [] => finish r
  | v :: rest =>
    setIter r (.guarded typeName owner size rest)
    return some v

def nextTested (I : Interp) (r inner : Ref) (starts : Table Slot Value) (env : Env) (target : Target) (test : Expr) :
    Eval (Option Value) := do
  match ← I.next inner with
  | none => finish r
  | some v =>
    let env ← testEnv env target test starts
    assignTo I env target v
    if ← truth I (← evaluate I env test) then return some (← targetValue env target)
    else I.next r

def nextSifted (I : Interp) (r source : Ref) (id : String) (env : Env) (args : List Value) (named : Named)
    (seen : List Value) : Eval (Option Value) := do
  match ← I.next source with
  | none => finish r
  | some item =>
    let (result, seen) ← siftItem I env id (args.drop 1) named seen item
    setIter r (.sifted id env args named (some source) seen)
    match result with
    | some v => return some v
    | none => I.next r

def startSifted (I : Interp) (r : Ref) (id : String) (env : Env) (args : List Value) (named : Named)
    (seen : List Value) : Eval (Option Value) := do
  match ← startSift I id args named with
  | none => finish r
  | some source =>
    setIter r (.sifted id env args named (some source) seen)
    I.next r

def startLeaking (I : Interp) (r : Ref) (m : Macro) (bound : List (String × Option Value)) :
    Eval (Option Value) := do
  let out ← I.body m bound
  if out.pastSpoiled then fail .wrongType
  setIter r (.items "generator" (if out.past.isEmpty then [] else [.text out.past]))
  I.next r

def nextOf (I : Interp) (r : Ref) : Iter → Eval (Option Value)
  | .items _ [] => return none
  | .items typeName (v :: rest) => do
    setIter r (.items typeName rest)
    return some v
  | .growing list index => nextGrowing r list index
  | .backward list left => nextBackward r list left
  | .entries d kind size left place last => nextEntry r d kind size left place last
  | .guarded typeName owner size rest => nextGuarded r typeName owner size rest
  | .counting n stride left => do
    if left = 0 then return none
    setIter r (.counting (n + stride) stride (left - 1))
    return some (.int n)
  | .turns loop => do
    match ← advance I loop with
    | some v => return some (.tuple [v, .loop loop])
    | none => return none
  | .blocks => fail .noKey
  | .tested source none env target test => do
    setIter r (← startTest source env target test)
    I.next r
  | .tested _ (some (inner, starts)) env target test => nextTested I r inner starts env target test
  | .sifted id env args named none seen => startSifted I r id env args named seen
  | .sifted id env args named (some source) seen => nextSifted I r source id env args named seen
  | .leaking m bound => startLeaking I r m bound

def nextValue (I : Interp) (r : Ref) : Eval (Option Value) := do
  match ← object? r with
  | some (.iter it) => nextOf I r it
  | _ => return none

def drainIter (I : Interp) (r : Ref) : Eval (List Value) := do
  match ← object? r with
  | some (.iter (.items typeName rest)) =>
    setIter r (.items typeName [])
    return rest
  | _ =>
    match ← I.next r with
    | none => return []
    | some v => return v :: (← I.drain r)

def seekIter (I : Interp) (r : Ref) (v : Value) : Eval Bool := do
  match ← I.next r with
  | none => return false
  | some x => if ← sameOrEqual x v then return true else I.seek r v

def turnValue (I : Interp) (counted : Bool) (source : Ref) : Eval (Option Value) :=
  if counted then advance I source else I.next source

def runTurns (I : Interp) (env : Env) (counted : Bool) (source : Ref) (target : Target) (body : List Node)
    (turns : Nat) (out : Output) : Eval (Output × Nat) := do
  match ← turnValue I counted source with
  | none => return (out, turns)
  | some v =>
    assignTo I env target v
    if counted then giveName env "loop" (.loop source)
    enter env
    let written ← I.nodes env body
    I.turns env counted source target body (turns + 1) (out ++ written)

def loopItems (env : Env) (f : LoopFn) (items : Value) : Eval Value :=
  match f.test with
  | none => return items
  | some test => newIter (.tested items none env f.target test)

def loopSource (counted : Bool) (fn : Option Ref) (depth : Nat) (items : Value) (iter : Ref) : Eval Ref :=
  if counted then alloc (.loop { iterable := items, source := iter, fn, depth0 := depth }) else return iter

def runLoop (I : Interp) (env : Env) (f : LoopFn) (counted : Bool) (fn : Option Ref) (depth : Nat) (items : Value) :
    Eval Output := do
  let items ← loopItems env f items
  let source ← loopSource counted fn depth items (← iterate items)
  let bodyEnv := env.inner (Scopes.loopBody env.scopes counted f.target f.body)
  let (out, turns) ← I.turns bodyEnv counted source f.target f.body 0 {}
  leave bodyEnv
  if turns = 0 then
    return out ++ (← inScope env (Scopes.plain env.scopes f.otherwise) fun env => I.nodes env f.otherwise)
  else return out

def callLoop (I : Interp) (fn : Ref) (depth : Nat) (items : Value) : Eval Value := do
  match ← object? fn with
  | some (.loopFn f) =>
    let inner ← newFrame { base := f.env.scopes.nextDepth, outer := some f.env.frame }
    let env := { f.env with frame := inner, top := false, captures := true }
    let text ← (← runLoop I env f true (some fn) depth items).joined
    if ← escapesHere I env then return .safe text else return .text text
  | _ => fail .wrongType

end Stencil.Engine
