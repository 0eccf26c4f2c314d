import Stencil.Engine.Tag

/-!
# Statements

What statements write and do. Loops, macros, blocks and other templates run through the interpreter; everything
else follows the tree.
-/

set_option autoImplicit false

namespace Stencil.Engine

open Stencil.Template

def isDropped (env : Env) : Eval Bool := do
  match env.dropping with
  | some r => return (← frame r).parent.isSome
  | none => return false

def written (I : Interp) (escapes : Bool) (v : Value) : Eval String := if escapes then escaped I v else display I v

def runPieces (I : Interp) (env : Env) : List Piece → Eval String
  | [] => return ""
  | .data s :: rest => do
    discard (escapesHere I env)
    return s ++ (← runPieces I env rest)
  | .value e :: rest => do
    let escapes ← escapesHere I env
    let s ← written I escapes (← evaluate I env e)
    return s ++ (← runPieces I env rest)
  | .fixed s _ :: rest => do return s ++ (← runPieces I env rest)

def capturedText (I : Interp) (env : Env) (out : Output) : Eval Value := do
  if ← escapesHere I env then return .safe (← out.joined) else return .text (← out.joined)

def markedSafe (I : Interp) (v : Value) : Eval Value := do
  match v with
  | .module _ => return .safe (← escaped I v)
  | v => return .safe (← display I v)

def filteredCapture (I : Interp) (env : Env) (filter : Option Expr) (out : Output) : Eval Value := do
  match filter with
  | some e => applyChain I env (← capturedText I env out) e
  | none => return .text (← out.joined)

def capturedValue (I : Interp) (env : Env) (filter : Option Expr) (out : Output) : Eval Value := do
  let escapes ← escapesNow I env
  let v ← filteredCapture I env filter out
  if escapes then markedSafe I v else return v

def runForLoop (I : Interp) (env : Env) (f : LoopFn) (isRecursive : Bool) (iterable : Expr) : Eval Output := do
  if isRecursive then
    let fn ← alloc (.loopFn f)
    let items ← evaluate I env iterable
    if anyLeaks f.body || anyLeaks f.otherwise then return { spoiled := true }
    return rawOutput (← deeper 1 (callLoop I fn 0 items))
  else
    let items ← evaluate I env iterable
    runLoop I env f (countsTurns false f.body f.otherwise) none 0 items

def runMacroDef (env : Env) (id : String) (params : Params) (body : List Node) : Eval Unit := do
  let r ← alloc (.macroFn (← newMacro env (some id) params body))
  storeName env id (.macroFn r)

def runCallBlock (I : Interp) (env : Env) (params : Params) (call : Expr) (body : List Node) : Eval Output := do
  let caller ← alloc (.macroFn (← newMacro env none params body))
  match call with
  | .call f args named more moreNamed =>
    let v ← evaluate I env f
    let args ← evaluateAll I env args
    let rest ← spread I (← evaluateOption I env more)
    let named ← evaluateNamed I env named
    let given ← gather (args ++ rest) (named ++ [("caller", .macroFn caller)]) (← evaluateOption I env moreNamed)
    return rawOutput (← I.call env v given.positional given.named)
  | _ => fail .wrongType

def EscapeMode.changed (mode : EscapeMode) : Option Bool → EscapeMode
  | some on => { mode with on }
  | none => { mode with unsure := true }

def blockContext (env : Env) (isScoped : Bool) : Eval Ref :=
  if isScoped then derivedContext env else return env.context

def runBlock (I : Interp) (env : Env) (id : String) (isScoped isRequired : Bool) : Eval Output := do
  let hasParent := (← frame env.frame).parent.isSome
  if env.top && hasParent then return {}
  let target ← blockContext env isScoped
  let stack := ((← context env.context).blocks.find? id).getD []
  if isRequired && stack.length ≤ 1 then throw (.broken ("Required block " ++ Text.quoted id ++ " not found"))
  match stack with
  | fn :: _ => deeper 1 (I.block fn target)
  | [] => fail .noKey

def addBlocks (blocks : Table String (List BlockFn)) (t : Script) : List Block → Table String (List BlockFn)
  | [] => blocks
  | b :: rest => addBlocks (blocks.insert b.id ((blocks.find? b.id).getD [] ++ [⟨t, b.id⟩])) t rest

def runExtends (I : Interp) (env : Env) (template : Expr) : Eval Unit := do
  if !env.top then fail .wrongType
  if (← frame env.frame).parent.isSome then throw (.broken "extended multiple times")
  let t ← getTemplate (← evaluate I env template)
  modifyFrame env.frame fun f => { f with parent := some t }
  match ← compiled? (.file t) with
  | some c => modifyContext env.context fun x => { x with blocks := addBlocks x.blocks (.file t) c.blocks }
  | none => pure ()

def soughtTemplate (I : Interp) (env : Env) (template : Expr) : Eval Ref := do
  getOrSelect I (← evaluate I env template)

def includedTemplate? (I : Interp) (env : Env) (template : Expr) (ignoreMissing : Bool) : Eval (Option Ref) := do
  recover (do return some (← I.sought env template ignoreMissing)) fun f =>
    if ignoreMissing && isNotFound f then return none else throw f

def runInclude (I : Interp) (env : Env) (template : Expr) (ignoreMissing withContext : Bool) : Eval Output := do
  match ← includedTemplate? I env template ignoreMissing with
  | none => return {}
  | some t =>
    if withContext then
      let r ← freshContext (.file t) (← visibleNames env)
      deeper 1 (I.template (.file t) r)
    else
      match ← object? (← defaultModule I t) with
      | some (.module m) => return if env.captures then m.body.pastAll else m.body
      | _ => return {}

def importedModule (I : Interp) (env : Env) (template : Expr) (withContext : Bool) : Eval Ref := do
  let t ← getTemplate (← evaluate I env template)
  if withContext then makeModule I t (← visibleNames env) else defaultModule I t

def runImportAs (I : Interp) (env : Env) (template : Expr) (id : String) (withContext : Bool) : Eval Unit := do
  storeImport env id (.module (← importedModule I env template withContext))

def notExported (env : Env) (source : Option String) (id : String) (line : Nat) : Eval Value := do
  let shown := match source with
    | some s => Text.quoted s
    | none => "None"
  newMissing (.name id) ("the template " ++ shown ++ " (imported on " ++ (← positionText env Text.quoted line) ++
    ") does not export the requested name " ++ Text.quoted id)

def moduleAt (r : Ref) : Eval Module := do
  match ← object? r with
  | some (.module m) => return m
  | _ => fail .wrongType

def runImportNames (I : Interp) (env : Env) (template : Expr) (names : List (String × String)) (withContext : Bool)
    (line : Nat) : Eval Unit := do
  let m ← moduleAt (← importedModule I env template withContext)
  names.forM fun e => do
    match m.exports.find? e.1 with
    | some v => storeImport env e.2 v
    | none => storeImport env e.2 (← notExported env m.name e.1 line)

mutual

def run (I : Interp) (env : Env) : Node → Eval Output
  | .output pieces => do
    if ← isDropped env then return {} else return .ofText (← runPieces I env pieces)
  | .assign target value => do
    checkNamespaces env target
    assignTo I env target (← evaluate I env value)
    return {}
  | .capture target filter body => do
    inScope env (Scopes.plain env.scopes body) fun inner => do
      let inner := { inner with dropping := none, captures := true }
      let out ← runAll I inner body
      assignTo I env target (← capturedValue I inner filter out)
      return out.leaked env.captures
  | .forLoop target iterable test isRecursive body otherwise =>
    runForLoop I env ⟨env, target, test, body, otherwise⟩ isRecursive iterable
  | .ifElse condition body branches otherwise => do
    if ← truth I (← evaluate I env condition) then runAll I env body
    else
      match ← runBranches I env branches with
      | some out => return out
      | none => runAll I env otherwise
  | .withVars bindings body => do
    inScope env (Scopes.withBody env.scopes (bindings.map Prod.fst) body) fun inner => do
      bindings.forM fun b => do assignTo I inner b.1 (← evaluate I env b.2)
      runAll I inner body
  | .macroDef id params body _ => do
    runMacroDef env id params body
    return {}
  | .callBlock params call body _ => runCallBlock I env params call body
  | .tagBlock id markup body => do
    match (← currentRegistry).getTag? id with
    | some tag => I.tag env tag markup body
    | none => fail .noKey
  | .filterBlock filter body => do
    inScope env (Scopes.filterBody env.scopes body filter) fun inner => do
      let inner := { inner with captures := true }
      let out ← runAll I inner body
      return out.leaked env.captures ++ rawOutput (← applyChain I inner (← capturedText I inner out) filter)
  | .autoescape value settled body => do
    inScope env (Scopes.autoescapeBody env.scopes value body) fun inner => do
      let before ← escapeValue inner.context
      setEscape inner (← evaluate I inner value)
      let out ← runAll I { inner with escape := inner.escape.changed settled } body
      setEscape inner before
      return out
  | .block id isScoped isRequired _ _ => runBlock I env id isScoped isRequired
  | .extendsFrom template _ => do
    runExtends I env template
    return {}
  | .includeFile template ignoreMissing withContext => runInclude I env template ignoreMissing withContext
  | .importAs template id withContext => do
    runImportAs I env template id withContext
    return {}
  | .importNames template names withContext line => do
    runImportNames I env template names withContext line
    return {}
  | .collect => do
    collectNames env
    return {}

def runAll (I : Interp) (env : Env) : List Node → Eval Output
  | [] => return {}
  | n :: rest => do
    let out ← run I env n
    return out ++ (← runAll I env rest)

def runBranches (I : Interp) (env : Env) : List (Expr × List Node) → Eval (Option Output)
  | [] => return none
  | (condition, body) :: rest => do
    if ← truth I (← evaluate I env condition) then return some (← runAll I env body)
    else runBranches I env rest

end

def giveSpecial (env : Env) (body : List Node) (id : String) (v : Eval Value) : Eval Unit := do
  if isFree id body then giveName env id (← v)

def runToParent (I : Interp) (env : Env) (body : List Node) : Eval Output := do
  enter env
  let out ← runAll I env body
  match (← frame env.frame).parent with
  | some parent => return out ++ (← deeper 1 (I.template (.file parent) env.context))
  | none => return out

def runTemplate (I : Interp) (t : Script) (r : Ref) : Eval Output := do
  match ← compiled? t with
  | none => return {}
  | some c =>
    let f ← newFrame { base := 0, outer := none }
    let env : Env :=
      { script := t, context := r, frame := f, scopes := Scopes.unit ["self"] c.body,
        escape := ⟨(← currentSettings).escape, false⟩, top := true, dropping := if c.inherits then some f else none }
    giveSpecial env c.body "self" (return .blocks r)
    runToParent I env c.body

def superBlock (fn : BlockFn) (r : Ref) : Eval Value := do
  let stack := ((← context r).blocks.find? fn.id).getD []
  match stack.findIdx? (·.same fn) with
  | some height => parentBlock fn.id r stack height
  | none => parentBlock fn.id r [] 0

def runBlockFn (I : Interp) (fn : BlockFn) (r : Ref) : Eval Output := do
  let wanted := Text.normal fn.id
  match (← compiled? fn.script).bind fun c => c.blocks.reverse.find? fun b => Text.normal b.id == wanted with
  | none => return {}
  | some b =>
    let f ← newFrame { base := 0, outer := none }
    let env : Env :=
      { script := fn.script, context := r, frame := f, scopes := Scopes.unit ["self", "super"] b.body,
        escape := ⟨(← currentSettings).escape, false⟩ }
    giveSpecial env b.body "self" (return .blocks r)
    giveSpecial env b.body "super" (superBlock fn r)
    enter env
    runAll I env b.body

end Stencil.Engine
