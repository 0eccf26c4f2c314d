import Stencil.Engine.Load

/-!
# Block tags

A block tag hands its body, its argument text and the variables visible to it to the action of the tag. Every time
the action renders the body, the variables take on what the body can see at its end.
-/

set_option autoImplicit false

namespace Stencil.Engine

open Stencil.Template

structure TagCall where
  tag : Tag
  markup : String
  templateName : Option String
  body : Macro

abbrev Rendered := Value × Table String Value

def textEntries (entries : List (Value × Value)) : List (String × Value) :=
  entries.filterMap fun e => (textOf? e.1).map (·, e.2)

def TagCall.renderBody (I : Interp) (call : TagCall) (vars : Table String Value) : Eval Rendered := do
  let collected ← alloc (.dict [] false)
  let text ← deeper 1 (callMacro I call.body call.body.escape [.dict collected] [])
  return (text, vars.insertAll (textEntries (← dictEntries collected)))

def TagCall.needRenderer (call : TagCall) : Eval Unit := do
  if !(← currentRegistry).connected.contains call.tag.owner then throw .unconnected

def TagCall.nameText (call : TagCall) : String := call.templateName.getD ""

def TagCall.renderAgain (I : Interp) (call : TagCall) (text : Value) (vars : Table String Value) : Eval String := do
  let source ← liftOption .wrongType (textOf? text)
  deeper 2 (I.render call.nameText vars source)

def TagCall.again (I : Interp) (call : TagCall) (vars : Table String Value) :
    Eval (String × Table String Value) := do
  call.needRenderer
  let (text, vars) ← call.renderBody I vars
  return (← call.renderAgain I text vars, vars)

def TagCall.bothPasses (I : Interp) (call : TagCall) (vars : Table String Value) : Eval Value := do
  let (text, vars) ← call.renderBody I vars
  let length ← size I text
  writeLog ⟨.debug, "First pass of '" ++ call.tag.name ++ "' in '" ++ shownName call.nameText ++ "' produced " ++
    toString length ++ " chars"⟩
  call.needRenderer
  return .text (← call.renderAgain I text vars)

def TagCall.renderTwice (I : Interp) (call : TagCall) (vars : Table String Value) : Eval Value := do
  if call.markup != "" then
    writeLog ⟨.debug, "Ignoring arguments of '" ++ call.tag.name ++ "' tag: " ++ call.markup⟩
  call.bothPasses I vars

def isGlobal (id : String) (v : Value) : Bool :=
  match v, globals.find? id with
  | .builtin a, some (.builtin b) => a == b
  | _, _ => false

def reportedValue (v : Value) : Eval Data := do
  let d ← freeze v
  if d.isCyclic then fail .tooDeep
  if d.hasTooLong then fail .badValue
  return d

def reported (vars : Table String Value) : Eval (List (String × Data)) := do
  let own := vars.entries.filter fun e => !isGlobal e.1 e.2
  (own.mergeSort fun a b => a.1 ≤ b.1).mapM fun e => return (e.1, ← reportedValue e.2)

def addEvent (e : Event) : Eval Nat := modifyGet fun w => (w.events.length, { w with events := w.events ++ [e] })

def setEvent (place : Nat) (e : Event) : Eval Unit := modify fun w => { w with events := w.events.set place e }

def TagCall.record (I : Interp) (call : TagCall) (vars : Table String Value) : Eval Value := do
  let before ← reported vars
  let event (result : Option (String × List (String × Data))) : Event :=
    .call call.tag.name call.markup call.templateName before result
  let place ← addEvent (event none)
  let (text, vars) ← call.renderBody I vars
  let after ← reported vars
  let body ← display I text
  setEvent place (event (some (body, after)))
  return text

def TagCall.run (I : Interp) (call : TagCall) (vars : Table String Value) : Eval Value := do
  match call.tag.action with
  | .renderTwice => call.renderTwice I vars
  | .body => return (← call.renderBody I vars).1
  | .upper =>
    let (text, _) ← call.renderBody I vars
    callMethod I text "upper" [] []
  | .bodyTwice =>
    let (first, vars) ← call.renderBody I vars
    let start ← binaryOp I .add first (.text "|")
    let (second, _) ← call.renderBody I vars
    binaryOp I .add start second
  | .skip => return .text ""
  | .markup => return .text ("[" ++ call.markup ++ "]")
  | .name => return .text (call.tag.name ++ "@" ++ call.templateName.getD "None")
  | .again => return .text (← call.again I vars).1
  | .snapshot =>
    call.needRenderer
    let (text, _) ← call.renderBody I vars
    return .text (← call.renderAgain I text vars)
  | .triple =>
    let (text, vars) ← call.again I vars
    return .text (← deeper 2 (I.render "" vars text))
  | .number => return .int 5
  | .record => call.record I vars

def tagVariables (env : Env) : Eval (Table String Value) := do
  let names ← visibleNames env
  match ← lookup? env "loop" with
  | none => return names
  | some (.missing _) => return names
  | some v => return names.insert "loop" v

def runTag (I : Interp) (env : Env) (tag : Tag) (markup : String) (body : List Node) : Eval Output := do
  let macroBody ← newMacro env none ⟨[bodyLocals], []⟩ body
  let vars ← tagVariables env
  let call : TagCall := ⟨tag, markup, (← context env.context).name, macroBody⟩
  let result ← deeper 3 (call.run I vars)
  if ← escapesNow I env then return .ofText (← display I result)
  else return rawOutput result

def collectNames (env : Env) : Eval Unit := do
  needRoom 7
  match ← readName env bodyLocals with
  | .missing m => failMissing m
  | .dict r =>
    let names := (← visibleNames env).entries.map fun e => (Value.text e.1, e.2)
    let entries ← putAll (← dictEntries r) names
    setEntries r (entries.filter fun e => !keyEqual e.1 (.text bodyLocals))
  | _ => fail .noAttribute

end Stencil.Engine
