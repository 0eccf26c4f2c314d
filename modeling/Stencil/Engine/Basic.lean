import Stencil.Engine.Fault
import Stencil.Engine.Value

/-!
# Evaluation

An evaluation changes the world and gives a result or a fault; what it did to the world before a fault stays done.
The evaluators of the different parts of the language call each other through `Interp`, so that each of them is an
ordinary function.
-/

set_option autoImplicit false

namespace Stencil.Engine

open Stencil.Template

abbrev Eval := ExceptT Fault (StateM World)

abbrev Named := List (String × Value)

structure Interp where
  -- statements one after the other
  nodes : Env → List Node → Eval Output
  call : Env → Value → List Value → Named → Eval Value
  -- the next value of an iterator
  next : Ref → Eval (Option Value)
  -- all values that an iterator still has
  drain : Ref → Eval (List Value)
  -- whether an iterator comes to something equal; what comes behind that is left to it
  seek : Ref → Value → Eval Bool
  -- the turns of a loop that are left, given the environment of its body and what it wrote so far
  turns : Env → Bool → Ref → Target → List Node → Nat → Output → Eval (Output × Nat)
  -- the body of a macro, given what its parameters are bound to
  body : Macro → List (String × Option Value) → Eval Output
  -- the statements of a template, in a context
  template : Script → Ref → Eval Output
  block : BlockFn → Ref → Eval Output
  filter : Env → String → List Value → Named → Eval Value
  -- a block tag with its argument text and its body
  tag : Env → Tag → String → List Node → Eval Output
  -- compiles a text under a name and renders it
  render : String → Table String Value → String → Eval String
  -- the template that an include names, which may be missing or not
  sought : Env → Expr → Bool → Eval Ref

def exhausted : Interp where
  nodes _ _ := throw .outOfFuel
  call _ _ _ _ := throw .outOfFuel
  next _ := throw .outOfFuel
  drain _ := throw .outOfFuel
  seek _ _ := throw .outOfFuel
  body _ _ := throw .outOfFuel
  turns _ _ _ _ _ _ _ := throw .outOfFuel
  template _ _ := throw .outOfFuel
  block _ _ := throw .outOfFuel
  filter _ _ _ _ := throw .outOfFuel
  tag _ _ _ _ := throw .outOfFuel
  render _ _ _ := throw .outOfFuel
  sought _ _ _ := throw .outOfFuel

def deferred (I : Unit → Interp) : Interp where
  nodes env nodes := (I ()).nodes env nodes
  call env f args named := (I ()).call env f args named
  next r := (I ()).next r
  drain r := (I ()).drain r
  seek r v := (I ()).seek r v
  body m bound := (I ()).body m bound
  turns env counted source target body turns out := (I ()).turns env counted source target body turns out
  template t r := (I ()).template t r
  block fn r := (I ()).block fn r
  filter env id args named := (I ()).filter env id args named
  tag env tag markup body := (I ()).tag env tag markup body
  render name vars source := (I ()).render name vars source
  sought env e ignoreMissing := (I ()).sought env e ignoreMissing

def tied (stage : Interp → Interp) : Nat → Interp
  | 0 => exhausted
  | n + 1 => deferred fun _ => stage (tied stage n)

def plenty : Nat := 1000000000000

def fail {α : Type} (m : Mishap) : Eval α := throw (.mishap m)

def liftExcept {α : Type} : Except Fault α → Eval α
  | .ok a => return a
  | .error f => throw f

def liftOption {α : Type} (m : Mishap) : Option α → Eval α
  | some a => return a
  | none => fail m

namespace Output

def append (a b : Output) : Output :=
  ⟨a.text ++ b.text, a.spoiled || b.spoiled, a.past ++ b.past, a.pastSpoiled || b.pastSpoiled⟩

instance : Append Output := ⟨append⟩

def ofText (s : String) : Output := { text := s }

def joined (o : Output) : Eval String := if o.spoiled then fail .wrongType else return o.text

def pastAll (o : Output) : Output :=
  { past := o.text ++ o.past, pastSpoiled := o.spoiled || o.pastSpoiled }

def leaked (captures : Bool) (o : Output) : Output :=
  if captures then { past := o.past, pastSpoiled := o.pastSpoiled }
  else { text := o.past, spoiled := o.pastSpoiled }

end Output

def rawOutput : Value → Output
  | .text s => .ofText s
  | .safe s => .ofText s
  | _ => { spoiled := true }

def currentSettings : Eval Settings := do return (← get).settings

def currentRegistry : Eval Registry := do return (← get).registry

def currentFiles : Eval FileTree := do return (← get).files

def currentDepth : Eval Nat := do return (← get).depth

def setDepth (n : Nat) : Eval Unit := modify fun w => { w with depth := n }

def alloc (o : Object) : Eval Ref :=
  modifyGet fun w => (w.objects.size, { w with objects := w.objects.push o })

def object? (r : Ref) : Eval (Option Object) := do return (← get).objects[r]?

def modifyObject (r : Ref) (f : Object → Object) : Eval Unit :=
  modify fun w => { w with objects := w.objects.modify r f }

def setObject (r : Ref) (o : Object) : Eval Unit := modifyObject r fun _ => o

def newList (items : List Value) : Eval Value := do return .list (← alloc (.list items))

def newDict (entries : List (Value × Value)) : Eval Value := do return .dict (← alloc (.dict entries false))

def newIter (it : Iter) : Eval Value := do return .iterator (← alloc (.iter it))

def freshMark : Eval Nat := modifyGet fun w => (w.mark, { w with mark := w.mark + 1 })

def newFloat (x : Float) : Eval Value := do
  if Number.isNaN x then return .nan (← freshMark) else return .float x

def World.read {α : Type} (w : World) (r : Ref) (none : α) (part : Object → α) : α :=
  match w.objects[r]? with
  | some o => part o
  | .none => none

def World.listItems (w : World) (r : Ref) : List Value := w.read r [] fun
  | .list items => items
  | _ => []

def World.dictEntries (w : World) (r : Ref) : List (Value × Value) := w.read r [] fun
  | .dict entries _ => entries
  | .namespace entries => entries
  | _ => []

def World.setItems (w : World) (r : Ref) : List Value := w.read r [] fun
  | .set items => items
  | _ => []

def World.insists (w : World) (r : Ref) : Bool := w.read r false fun
  | .dict _ insists => insists
  | _ => false

def listItems (r : Ref) : Eval (List Value) := do return (← get).listItems r

def dictEntries (r : Ref) : Eval (List (Value × Value)) := do return (← get).dictEntries r

def setItems (r : Ref) : Eval (List Value) := do return (← get).setItems r

def insists (r : Ref) : Eval Bool := do return (← get).insists r

def Object.withEntries (entries : List (Value × Value)) : Object → Object
  | .dict _ insists => .dict entries insists
  | .namespace _ => .namespace entries
  | o => o

def setEntries (r : Ref) (entries : List (Value × Value)) : Eval Unit := modifyObject r (Object.withEntries entries)

def loop? (r : Ref) : Eval (Option Loop) := do
  match ← object? r with
  | some (.loop l) => return some l
  | _ => return none

def updateLoop (r : Ref) (f : Loop → Loop) : Eval Unit := do
  match ← loop? r with
  | some l => setObject r (.loop (f l))
  | none => return ()

def context (r : Ref) : Eval Context := do
  let w ← get
  return w.contexts.getD r ⟨none, {}, {}, [], {}, none⟩

def modifyContext (r : Ref) (f : Context → Context) : Eval Unit :=
  modify fun w => { w with contexts := w.contexts.modify r f }

def newContext (c : Context) : Eval Ref :=
  modifyGet fun w => (w.contexts.size, { w with contexts := w.contexts.push c })

def newFrame (f : Frame) : Eval Ref :=
  modifyGet fun w => (w.frames.size, { w with frames := w.frames.push f })

def frame (r : Ref) : Eval Frame := do
  let w ← get
  return w.frames.getD r ⟨0, none, {}, {}, none⟩

def modifyFrame (r : Ref) (f : Frame → Frame) : Eval Unit :=
  modify fun w => { w with frames := w.frames.modify r f }

def newEscape (v : Value) : Eval Ref :=
  modifyGet fun w => (w.escapes.size, { w with escapes := w.escapes.push v })

def escapeValue (context : Ref) : Eval Value := do
  let w ← get
  return ((w.contexts[context]?).bind fun c => c.escape.bind fun cell => w.escapes[cell]?).getD (.bool false)

def setEscape (env : Env) (v : Value) : Eval Unit := do
  match (← context env.context).escape with
  | some cell => modify fun w => { w with escapes := w.escapes.modify cell fun _ => v }
  | none => return ()

def compiled? (t : Script) : Eval (Option Compiled) := do
  match t with
  | .file r => return (← get).templates[r]?
  | .text c => return some c

def writeLog (line : LogLine) : Eval Unit := modify fun w => { w with log := w.log ++ [line] }

def Context.all (c : Context) : Table String Value := if c.vars.entries.isEmpty then c.parent else c.parent.update c.vars

def Context.resolve? (c : Context) (id : String) : Option Value :=
  match c.vars.find? id with
  | some v => some v
  | none => c.parent.find? id

def newMissing (sought : Sought) (message : String) : Eval Value := do
  return .missing ⟨(← currentSettings).strict, sought, message, ← freshMark⟩

def undefinedName (id : String) : Eval Value := newMissing (.name id) (Text.quoted id ++ " is undefined")

def failMissing {α : Type} (m : Missing) : Eval α := throw (.undefined m.message)

def callLimit : Nat := 985

def deeper {α : Type} (amount : Nat) (act : Eval α) : Eval α := do
  let outer ← currentDepth
  if callLimit < outer + amount then fail .tooDeep
  setDepth (outer + amount)
  let a ← act
  setDepth outer
  return a

def needRoom (amount : Nat) : Eval Unit := do
  if callLimit < (← currentDepth) + amount then fail .tooDeep

def recover {α : Type} (act : Eval α) (handle : Fault → Eval α) : Eval α := do
  let outer ← currentDepth
  tryCatch act fun f => do
    setDepth outer
    handle f

end Stencil.Engine
