import Stencil.Engine.Basic

/-!
# Variables

A body has one frame for all the scopes in it. A scope that is entered gives each of its names a start, and clears
them when it is left, so that a function that outlives the scope finds them without a value.
-/

set_option autoImplicit false

namespace Stencil.Engine

open Stencil.Template

def World.frameFor (w : World) (depth : Nat) : Nat → Ref → Ref
  | 0, r => r
  | n + 1, r =>
    match w.frames[r]? with
    | none => r
    | some f =>
      match f.outer with
      | some outer => if f.base ≤ depth || r ≤ outer then r else frameFor w depth n outer
      | none => r

def holder (env : Env) (slot : Slot) : Eval Ref := do
  let w ← get
  return w.frameFor slot.depth w.frames.size env.frame

def Frame.read (f : Frame) (slot : Slot) : Option Value := (f.values.find? slot).or (f.starts.find? slot)

def Frame.give (f : Frame) (slot : Slot) (v : Value) : Frame := { f with values := f.values.insert slot v }

def Frame.clear (f : Frame) (slot : Slot) : Frame :=
  { f with starts := f.starts.erase slot, values := f.values.erase slot }

def Frame.start (f : Frame) (slot : Slot) : Option Value → Frame
  | some v => { f.clear slot with starts := f.starts.insert slot v }
  | none => f.clear slot

def readSlot (env : Env) (slot : Slot) : Eval (Option Value) := do
  return (← frame (← holder env slot)).read slot

def contextValue? (env : Env) (id : String) : Eval (Option Value) := do
  return (← context env.context).resolve? id

def Env.own (env : Env) (id : String) : Slot := slotAt env.scopes.depth id

def giveName (env : Env) (id : String) (v : Value) : Eval Unit :=
  modifyFrame env.frame fun f => f.give (env.own id) v

def startName (env : Env) (id : String) (origin : Origin) : Eval Unit := do
  let start (v : Option Value) : Eval Unit := modifyFrame env.frame fun f => f.start (env.own id) v
  match origin with
  | .param => return ()
  | .resolve => start (← contextValue? env id)
  | .outer source => start (← readSlot env source)
  | .unset => start none

def Env.ownNames (env : Env) : List (String × Origin) :=
  match env.scopes with
  | [] => []
  | s :: _ => s.names.entries

def enter (env : Env) : Eval Unit := do
  let (unset, others) := env.ownNames.partition fun e => e.2 == .unset
  (others ++ unset).forM fun e => startName env e.1 e.2

def leave (env : Env) : Eval Unit :=
  env.ownNames.forM fun e => modifyFrame env.frame fun f => f.clear (env.own e.1)

def Env.inner (env : Env) (scopes : Scopes) : Env := { env with scopes, top := false }

def inScope {α : Type} (env : Env) (scopes : Scopes) (run : Env → Eval α) : Eval α := do
  let env := env.inner scopes
  enter env
  let a ← run env
  leave env
  return a

def lookup? (env : Env) (id : String) : Eval (Option Value) := do
  match env.scopes.find? id with
  | some slot => readSlot env slot
  | none => throw (.unboundName id)

def readName (env : Env) (id : String) : Eval Value := do
  match ← lookup? env id with
  | some v => return v
  | none => undefinedName id

def isPublic (id : String) : Bool := id.toList.head? != some '_'

def Context.export (c : Context) (id : String) : Context :=
  if isPublic id && !c.exported.contains id then { c with exported := c.exported ++ [id] } else c

def Context.withhold (c : Context) (id : String) : Context :=
  if isPublic id then { c with exported := c.exported.filter (· != id) } else c

def Context.assign (c : Context) (id : String) (v : Value) : Context := { c with vars := c.vars.insert id v }

def storeName (env : Env) (id : String) (v : Value) : Eval Unit := do
  giveName env id v
  if env.top then modifyContext env.context fun c => (c.assign id v).export id

def storeImport (env : Env) (id : String) (v : Value) : Eval Unit := do
  giveName env id v
  if env.top then modifyContext env.context fun c => (c.assign id v).withhold id

def visibleLocals (env : Env) : Eval (List (String × Value)) := do
  let found ← env.scopes.visible.mapM fun (id, slot) => do return (← readSlot env slot).map (id, ·)
  return found.filterMap id

def visibleNames (env : Env) : Eval (Table String Value) := do
  return (← context env.context).all.insertAll (← visibleLocals env)

end Stencil.Engine
