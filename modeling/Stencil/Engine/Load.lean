import Stencil.Engine.Call
import Stencil.Engine.Filter
import Stencil.Engine.Prepare
import Stencil.Template.Parser.Statement

/-!
# Compiled templates

A template is compiled apart from all runs: what comes of its text depends on the settings and the known tags only.
Texts are compiled once and kept in a cache. Template files are found in one folder by names with slashes, and are
compiled again when they have changed.
-/

set_option autoImplicit false

namespace Stencil.Engine

open Stencil.Template

def addTemplate (c : Compiled) : Eval Ref :=
  modifyGet fun w => (w.templates.size, { w with templates := w.templates.push c })

def earlyStage (I : Interp) : Interp :=
  { exhausted with next := nextValue I, drain := drainIter I, seek := seekIter I, filter := applyFilter I }

def compiledText (settings : Settings) (tags : List String) (name file : Option String) (source : String) :
    Except Fault Compiled :=
  match parse settings.layout tags source with
  | .ok body => ((prepare (tied earlyStage plenty) name file body).run { settings, texts := .ofSize 0 }).1
  | .error flaw => .error (.ofFlaw flaw name file)

def compile (name file : Option String) (source : String) : Eval Compiled := do
  liftExcept (compiledText (← currentSettings) (← currentRegistry).listTags name file source)

def shownName (name : String) : String := if name.isEmpty then "<string>" else name

def compilation (name source : String) : LogLine :=
  ⟨.debug, "Compiled template '" ++ shownName name ++ "' (" ++ toString source.length ++ " chars)"⟩

def compilingDepth : Nat := 17

def compileText (name source : String) : Eval Compiled := do
  match (← get).texts.find? name source with
  | some (c, texts) =>
    modify fun w => { w with texts }
    return c
  | none =>
    let c ← compile none none source
    needRoom compilingDepth
    modify fun w => { w with texts := w.texts.insert name source c }
    writeLog (compilation name source)
    return c

def nameParts? (name : String) : Option (List String) :=
  let parts := Path.slashParts name
  if parts.contains ".." then none else some (parts.filter Path.keepsPart)

def readTemplate (folder : Path) (name : String) : Eval LoadedFile := do
  match nameParts? name with
  | none => throw (.notFound name)
  | some parts =>
    let place : Path := ⟨folder.slashes, folder.parts ++ parts⟩
    match (← currentFiles).content place with
    | .error (.refused refusal) => throw (.unreadable refusal)
    | .error _ => throw (.notFound (Text.quoted name ++ " not found in search path: " ++ Text.quoted folder.text))
    | .ok (bytes, revision) =>
      match FileTree.decodeText bytes with
      | .error f => throw (.undecodable f)
      | .ok source => return ⟨← addTemplate (← compile (some name) (some place.text) source), place, revision⟩

def currentLoaded : Eval (Cache String LoadedFile) := do return (← get).loaded

def setLoaded (loaded : Cache String LoadedFile) : Eval Unit := modify fun w => { w with loaded }

def isCurrent (file : LoadedFile) : Eval Bool := do
  return (← currentFiles).revision? file.place == some file.revision

def keptFile? (name : String) : Eval (Option LoadedFile) := do
  match (← currentLoaded).find? name with
  | some (file, loaded) =>
    setLoaded loaded
    return some file
  | none => return none

def reloaded (folder : Path) (name : String) : Eval Ref := do
  let file ← readTemplate folder name
  setLoaded ((← currentLoaded).insert name file)
  return file.template

def loadTemplate (name : String) : Eval Ref := do
  match (← currentSettings).folder with
  | none => fail .wrongType
  | some folder =>
    match ← keptFile? name with
    | some file => if ← isCurrent file then return file.template else reloaded folder name
    | none => reloaded folder name

def getTemplate (v : Value) : Eval Ref := do
  if (← currentSettings).folder.isNone then fail .wrongType
  match v with
  | .text name => loadTemplate name
  | .safe name => loadTemplate name
  | .missing m => failMissing m
  | .bytes _ => fail .wrongType
  | v =>
    needKey v
    fail .noAttribute

def isAbsent : Fault → Bool
  | .notFound _ => true
  | .noneFound _ => true
  | .undefined _ => true
  | _ => false

def firstTemplate? : List Value → Eval (Option Ref)
  | [] => return none
  | v :: rest =>
    recover (do return some (← getTemplate v)) fun f =>
      if isAbsent f then firstTemplate? rest else throw f

def candidateText (I : Interp) (v : Value) : Eval String :=
  match v with
  | .missing m => return m.message
  | v => display I v

def needLast (v : Value) : Eval Unit := do
  match v with
  | .list _ => return ()
  | .tuple _ => return ()
  | .dict r => if (findKey? (.int (-1)) (← dictEntries r)).isNone then fail .noKey
  | _ => fail .wrongType

def selectTemplate (I : Interp) (v : Value) : Eval Ref := do
  if !(← truth I v) then throw (.noneFound "Tried to select from an empty list of templates.")
  let candidates ← itemsOf I v
  match ← firstTemplate? candidates with
  | some t => return t
  | none =>
    needLast v
    throw (.noneFound ("none of the templates given were found: " ++
      ", ".intercalate (← candidates.mapM (candidateText I))))

def getOrSelect (I : Interp) (v : Value) : Eval Ref := do
  match v with
  | .text _ => getTemplate v
  | .safe _ => getTemplate v
  | .missing _ => getTemplate v
  | v => selectTemplate I v

def blockTable (t : Script) (blocks : List Block) : Table String (List BlockFn) :=
  .ofList (blocks.map fun b => (b.id, [⟨t, b.id⟩]))

def freshContext (t : Script) (given : Table String Value) : Eval Ref := do
  let cell ← newEscape (.bool (← currentSettings).escape)
  let c := (← compiled? t).getD ⟨none, none, [], [], false⟩
  newContext { name := c.name, parent := given, blocks := blockTable t c.blocks, escape := some cell }

def derivedContext (env : Env) : Eval Ref := do
  let c ← context env.context
  newContext { c with parent := ← visibleNames env, vars := {}, exported := [] }

def makeModule (I : Interp) (t : Ref) (given : Table String Value) : Eval Ref := do
  let r ← freshContext (.file t) given
  let body ← deeper 3 (I.template (.file t) r)
  let c ← context r
  let exports := c.exported.filterMap fun id => (c.vars.find? id).map (id, ·)
  alloc (.module ⟨c.name, .ofList exports, body⟩)

def keptModule? (t : Ref) : Eval (Option Ref) := do return (← get).modules.find? t

def keepModule (t r : Ref) : Eval Unit := modify fun w => { w with modules := w.modules.insert t r }

def defaultModule (I : Interp) (t : Ref) : Eval Ref := do
  match ← keptModule? t with
  | some r => return r
  | none =>
    let r ← makeModule I t globals
    keepModule t r
    return r

def renderTemplate (I : Interp) (t : Script) (vars : Table String Value) : Eval String := do
  let r ← freshContext t (globals.update vars)
  (← I.template t r).joined

def renderSource (I : Interp) (name : String) (vars : Table String Value) (source : String) : Eval String := do
  let c ← compileText name source
  deeper 3 (renderTemplate I (.text c) vars)

end Stencil.Engine
