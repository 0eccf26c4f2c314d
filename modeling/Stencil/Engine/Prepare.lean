import Stencil.Engine.Fold
import Stencil.Template.Brackets

/-!
# Preparing a template

A template is checked and folded before it runs. Filters and tests must exist, unless they stand in a condition or a
branch of one, where a missing one is only noticed when it is used. `loop` cannot be assigned inside a loop,
inheritance is declared at the top level, and the name of a block is used once. The first broken rule in the order of
the walk is reported.

The statements are then carried out as indented lines of code. Lines may be indented and brackets nested only so deep,
a name may be given to one argument only, and only so many loops may stand in each other; what goes beyond that is
noted on the way and reported when no rule is broken.
-/

set_option autoImplicit false

namespace Stencil.Engine

open Stencil.Template

structure Position where
  scopes : Scopes
  mode : EscapeMode
  top : Bool := false
  root : Bool := false
  soft : Bool := false
  dropsOutput : Bool := false
  inLoop : Bool := false
  inBlock : Bool := false
  buffered : Bool := false
  indent : Nat := 1
  loops : Nat := 0

namespace Position

def inner (p : Position) (scopes : Scopes) : Position :=
  { p with scopes, top := false, root := false, soft := false, inLoop := false, inBlock := false }

def function (p : Position) (scopes : Scopes) : Position :=
  { p.inner scopes with dropsOutput := false, buffered := true, indent := p.indent + 1, loops := 0 }

def conditional (p : Position) : Position := { p with root := false, soft := true }

def deeper (p : Position) (n : Nat) : Position := { p with indent := p.indent + n }

end Position

structure Progress where
  certain : Bool := false
  count : Nat := 0
  stopped : Bool := false
  unreadable : Option Mishap := none
  refused : Bool := false

abbrev Preparing := StateT Progress Eval

structure Subject where
  name : Option String
  file : Option String
  context : Ref

def Subject.env (s : Subject) (p : Position) : Env :=
  { script := .file 0, context := s.context, frame := 0, scopes := p.scopes, escape := p.mode }

def Subject.flaw {α : Type} (s : Subject) (problem : Problem) (line : Nat) : Preparing α :=
  throw (.ofFlaw ⟨problem, line⟩ s.name s.file)

def indentLimit : Nat := 99

def bracketLimit : Nat := 200

def loopLimit : Nat := 20

def heightLimit : Nat := 320

def noteUnreadable (m : Mishap) : Preparing Unit :=
  modify fun s => { s with unreadable := s.unreadable.or (some m) }

def noteRefused : Preparing Unit := modify fun s => { s with refused := true }

def noteIndent (p : Position) (more : Nat) : Preparing Unit := do
  if indentLimit < p.indent + more then noteUnreadable .badIndentation

def noteBrackets (n : Nat) : Preparing Unit := do if bracketLimit < n then noteUnreadable .badSyntax

def noteLoops (n : Nat) : Preparing Unit := do if loopLimit < n then noteRefused

def repeatsName (ids : List String) : Bool :=
  let shared := ids.map Text.normal
  shared.eraseDups.length != shared.length

def reservedName : String := "__debug__"

def noteArguments (ids more : List String) : Preparing Unit := do
  if !passedAsMap ids && (repeatsName (ids ++ more) || (ids.map Text.normal).contains reservedName) then noteRefused

def callNames (p : Position) : List String :=
  (if p.inLoop then ["_loop_vars"] else []) ++ (if p.inBlock then ["_block_vars"] else [])

def checkConstant (d : Data) : Preparing Unit := do if d.hasTooLong then fail .badValue

def isSlice : Expr → Bool
  | .slice _ _ _ => true
  | _ => false

def noteChoice (s : Subject) (hasOther : Bool) : Preparing Unit := do
  if !hasOther && (s.name.any fun id => (Text.quoted id).toList.contains '"') then noteUnreadable .badSyntax

mutual

def checkExpr (s : Subject) (p : Position) : Expr → Preparing Unit
  | .literal d => checkConstant d
  | .folded d _ => checkConstant d
  | .name id _ => do if (p.scopes.find? id).isNone then throw (.unboundName id)
  | .list items => checkList s p items
  | .tuple items => do
    checkList s p items
    if items.any isSlice then noteUnreadable .badSyntax
  | .dict entries => checkEntries s p entries
  | .attribute e _ => checkExpr s p e
  | .item e i => do
    checkExpr s p e
    checkExpr s p i
  | .slice start stop stride => do
    checkOption s p start
    checkOption s p stop
    checkOption s p stride
  | .call f args named more moreNamed => do
    checkExpr s p f
    checkList s p args
    checkNamed s p named
    checkOption s p more
    checkOption s p moreNamed
    noteArguments (named.map Prod.fst) (callNames p)
  | .filter e id args named more moreNamed line => do
    if !p.soft && !filterNames.contains id then s.flaw (.unknownFilter id) line
    checkOption s p e
    checkList s p args
    checkNamed s p named
    checkOption s p more
    checkOption s p moreNamed
    noteArguments (named.map Prod.fst) []
  | .test e id args named more moreNamed line => do
    if !p.soft && !testNames.contains id then s.flaw (.unknownTest id) line
    checkExpr s p e
    checkList s p args
    checkNamed s p named
    checkOption s p more
    checkOption s p moreNamed
    noteArguments (named.map Prod.fst) []
  | .negative e => checkExpr s p e
  | .positive e => checkExpr s p e
  | .not e => checkExpr s p e
  | .and a b => do
    checkExpr s p a
    checkExpr s p b
  | .or a b => do
    checkExpr s p a
    checkExpr s p b
  | .binary _ a b => do
    checkExpr s p a
    checkExpr s p b
  | .compare e rest => do
    checkExpr s p e
    checkCompared s p rest
  | .concat items => checkList s p items
  | .choose condition yes no _ => do
    checkExpr s { p with soft := true } yes
    checkExpr s { p with soft := true } condition
    checkOption s { p with soft := true } no
    noteChoice s no.isSome

def checkList (s : Subject) (p : Position) : List Expr → Preparing Unit
  | [] => return ()
  | e :: rest => do
    checkExpr s p e
    checkList s p rest

def checkOption (s : Subject) (p : Position) : Option Expr → Preparing Unit
  | none => return ()
  | some e => checkExpr s p e

def checkEntries (s : Subject) (p : Position) : List (Expr × Expr) → Preparing Unit
  | [] => return ()
  | (k, e) :: rest => do
    checkExpr s p k
    checkExpr s p e
    checkEntries s p rest

def checkNamed (s : Subject) (p : Position) : List (String × Expr) → Preparing Unit
  | [] => return ()
  | (_, e) :: rest => do
    checkExpr s p e
    checkNamed s p rest

def checkCompared (s : Subject) (p : Position) : List (CompareOp × Expr) → Preparing Unit
  | [] => return ()
  | (_, e) :: rest => do
    checkExpr s p e
    checkCompared s p rest

end

def folded (I : Interp) (s : Subject) (p : Position) (e : Expr) : Preparing Expr := do
  if heightLimit < e.height then fail .tooDeep
  if p.mode.unsure then return e else fold I (s.env p) e

mutual

def prepareExpr (I : Interp) (s : Subject) (p : Position) : Expr → Preparing Expr
  | .list items => do return .list (← prepareExprs I s p items)
  | .tuple items => do
    let items ← prepareExprs I s p items
    if items.any isSlice then noteUnreadable .badSyntax
    return .tuple items
  | .dict entries => do return .dict (← prepareEntries I s p entries)
  | e => do
    let e ← folded I s p e
    checkExpr s p e
    return e

def prepareExprs (I : Interp) (s : Subject) (p : Position) : List Expr → Preparing (List Expr)
  | [] => return []
  | e :: rest => do
    let e ← prepareExpr I s p e
    return e :: (← prepareExprs I s p rest)

def prepareEntries (I : Interp) (s : Subject) (p : Position) : List (Expr × Expr) → Preparing (List (Expr × Expr))
  | [] => return []
  | (k, e) :: rest => do
    let k ← prepareExpr I s p k
    let e ← prepareExpr I s p e
    return (k, e) :: (← prepareEntries I s p rest)

end

def prepareIn (I : Interp) (s : Subject) (p : Position) (around : Nat) (e : Expr) : Preparing Expr := do
  let e ← prepareExpr I s p e
  noteBrackets (around + e.brackets p.scopes)
  return e

def prepareOption (I : Interp) (s : Subject) (p : Position) (around : Nat) : Option Expr → Preparing (Option Expr)
  | none => return none
  | some e => do return some (← prepareIn I s p around e)

def fixedHeight : Nat := 950

def fixPiece (I : Interp) (s : Subject) (p : Position) : Piece → Preparing Piece
  | .data text => return if p.mode.unsure then .data text else .fixed text none
  | .value e => do
    if fixedHeight < e.height then return .value e
    match ← fixedText? I (s.env p) e with
    | some text => return .fixed text (some e)
    | none => return .value e
  | .fixed text source => return .fixed text source

def isFixed : Piece → Bool
  | .fixed _ _ => true
  | _ => false

def pieceCount : List Piece → Nat
  | [] => 0
  | a :: b :: rest => (if isFixed a && isFixed b then 0 else 1) + pieceCount (b :: rest)
  | [_] => 1

def preparePieces (I : Interp) (s : Subject) (p : Position) (pieces : List Piece) : Preparing (List Piece) := do
  let pieces ← pieces.mapM (fixPiece I s p)
  let around := 1 + (if !p.buffered then 0 else if pieceCount pieces = 1 then 1 else 2)
  pieces.mapM fun
    | .value e => do return .value (← prepareIn I s p around e)
    | piece => return piece

def prepareWhen (I : Interp) (s : Subject) (p : Position) (now : Bool) (around : Nat) (e : Expr) : Preparing Expr :=
  if now then prepareIn I s p around e else return e

def prepareTest (I : Interp) (s : Subject) (p : Position) (target : Target) : Option Expr → Preparing (Option Expr)
  | none => return none
  | some e => do
    noteIndent p 3
    return some (← prepareIn I s (p.inner (Scopes.loopTest p.scopes target e)) 0 e)

def checkLoopTarget (s : Subject) (assigned : List (String × Nat)) : Preparing Unit :=
  match assigned.find? (·.1 == "loop") with
  | some (_, line) => s.flaw .loopTarget line
  | none => return ()

def prepareParams (I : Interp) (s : Subject) (p : Position) (params : Params) (body : List Node) (line : Nat) :
    Preparing Params := do
  if isFree "caller" body then
    match params.names.findIdx? (· == "caller") with
    | some index => if (params.default? index).isNone then s.flaw .callerParameter line
    | none => pure ()
  if repeatsName params.names then noteRefused
  noteIndent p (if params.names.isEmpty then 0 else 1)
  return { params with defaults := ← params.defaults.mapM (prepareIn I s p 0) }

def prepareCall (I : Interp) (s : Subject) (p : Position) (call : Expr) : Preparing Expr := do
  let call ← prepareIn I s p (if p.buffered then 1 else 0) call
  match call with
  | .call _ _ named _ _ => noteArguments (named.map Prod.fst) ("caller" :: callNames p)
  | _ => pure ()
  return call

def prepareExtends (I : Interp) (s : Subject) (p : Position) (template : Expr) (line : Nat) : Preparing Expr := do
  if !p.top then s.flaw .lateExtends line
  let progress ← get
  if 0 < progress.count && progress.certain then
    set { progress with stopped := true }
    return template
  else
    let template ← prepareIn I s p 1 template
    noteIndent p 1
    noteLoops (p.loops + 1)
    modify fun s => { s with certain := s.certain || p.root, count := s.count + 1 }
    return template

def noteBlock (p : Position) (isRequired : Bool) : Preparing Unit := do
  let progress ← get
  if !(p.top && progress.certain) then
    let p := if p.top && 0 < progress.count then p.deeper 1 else p
    noteIndent p (if isRequired || p.buffered then 1 else 0)
    noteLoops (p.loops + if p.buffered then 1 else 0)

def noteInclude (p : Position) (ignoreMissing withContext : Bool) : Preparing Unit := do
  noteIndent p ((if ignoreMissing then 1 else 0) + (if withContext then 1 else 0))
  noteLoops (p.loops + if ignoreMissing then 2 else if withContext then 1 else 0)

def inEscape {α : Type} (I : Interp) (s : Subject) (p : Position) (value : Expr) (act : Position → Preparing α) :
    Preparing (Option Bool × α) := do
  match ← ((constOf I (s.env p) value).run : Eval (Option Value)) with
  | none => return (none, ← act { p with mode := { p.mode with unsure := true } })
  | some v =>
    let on ← (truth I v : Eval Bool)
    let before ← (escapeValue s.context : Eval Value)
    setEscape (s.env p) (.bool on)
    let a ← act { p with mode := { p.mode with on } }
    setEscape (s.env p) before
    return (some on, a)

mutual

def prepareNode (I : Interp) (s : Subject) (p : Position) : Node → Preparing Node
  | .output pieces => do
    if p.dropsOutput && (← get).certain then return .output pieces
    noteIndent p (if p.dropsOutput then 1 else 0)
    return .output (← preparePieces I s p pieces)
  | .assign target value => do
    noteIndent p (if target.namespaces.isEmpty then 0 else 1)
    return .assign target (← prepareIn I s p 0 value)
  | .capture target filter body => do
    let inner := { p.inner (Scopes.plain p.scopes body) with dropsOutput := false, buffered := true }
    let body ← prepareBody I s inner body
    return .capture target (← prepareOption I s inner 1 filter) body
  | .forLoop target iterable test isRecursive body otherwise => do
    let test ← prepareTest I s p target test
    checkLoopTarget s (target.names ++ assignedIn body ++ assignedIn otherwise)
    let counted := countsTurns isRecursive body otherwise
    let around := (if counted then 1 else 0) + (if test.isSome then 1 else 0)
    let iterable ← prepareWhen I s p (!isRecursive) around iterable
    let outer := { if isRecursive then p.function p.scopes else p with dropsOutput := p.dropsOutput }
    let inner := outer.inner (Scopes.loopBody p.scopes counted target body)
    let behind := (outer.inner (Scopes.plain p.scopes otherwise)).deeper 1
    noteLoops (outer.loops + 1)
    let body ← prepareBody I s { inner.deeper 1 with inLoop := true, loops := outer.loops + 1 } body
    let otherwise ← if otherwise.isEmpty then pure [] else prepareBody I s behind otherwise
    let iterable ← prepareWhen I s p isRecursive (if p.buffered then 2 else 1) iterable
    return .forLoop target iterable test isRecursive body otherwise
  | .ifElse condition body branches otherwise => do
    let p := p.conditional
    let condition ← prepareIn I s p 0 condition
    let body ← prepareBody I s (p.deeper 1) body
    let branches ← prepareBranches I s p branches
    let otherwise ← if otherwise.isEmpty then pure [] else prepareBody I s (p.deeper 1) otherwise
    return .ifElse condition body branches otherwise
  | .withVars bindings body => do
    let bindings ← bindings.mapM fun b => do return (b.1, ← prepareIn I s p 0 b.2)
    return .withVars bindings (← prepareBody I s (p.inner (Scopes.withBody p.scopes (bindings.map Prod.fst) body)) body)
  | .macroDef id params body line => do
    let inner := p.function (Scopes.functionBody p.scopes params body)
    let params ← prepareParams I s inner params body line
    return .macroDef id params (← prepareBody I s inner body) line
  | .callBlock params call body line => do
    let inner := p.function (Scopes.functionBody p.scopes params body)
    let params ← prepareParams I s inner params body line
    let body ← prepareBody I s inner body
    return .callBlock params (← prepareCall I s p call) body line
  | .tagBlock tag markup body => do
    let params : Params := ⟨[bodyLocals], []⟩
    let inner := p.function (Scopes.functionBody p.scopes params body)
    noteIndent inner 1
    return .tagBlock tag markup (← prepareBody I s inner body)
  | .filterBlock filter body => do
    let inner := { p.inner (Scopes.filterBody p.scopes body filter) with buffered := true }
    let body ← prepareBody I s inner body
    return .filterBlock (← prepareIn I s inner (if p.buffered then 1 else 0) filter) body
  | .autoescape value _ body => do
    let inner := p.inner (Scopes.autoescapeBody p.scopes value body)
    let value ← prepareIn I s inner 0 value
    let (settled, body) ← inEscape I s inner value fun inner => prepareBody I s inner body
    return .autoescape value settled body
  | .block id isScoped isRequired body line => do
    noteBlock p isRequired
    return .block id isScoped isRequired body line
  | .extendsFrom template line => do return .extendsFrom (← prepareExtends I s p template line) line
  | .includeFile template ignoreMissing withContext => do
    let template ← prepareIn I s p 1 template
    noteInclude p ignoreMissing withContext
    return .includeFile template ignoreMissing withContext
  | .importAs template id withContext => do return .importAs (← prepareIn I s p 1 template) id withContext
  | .importNames template names withContext line => do
    let template ← prepareIn I s p 1 template
    noteIndent p 1
    return .importNames template names withContext line
  | .collect => return .collect

def prepareBody (I : Interp) (s : Subject) (p : Position) : List Node → Preparing (List Node)
  | [] => do
    noteIndent p 0
    modify fun s => { s with stopped := false }
    return []
  | n :: rest => do
    noteIndent p 0
    let n ← prepareNode I s p n
    if (← get).stopped then
      modify fun s => { s with stopped := false }
      return n :: rest
    else return n :: (← prepareBody I s p rest)

def prepareBranches (I : Interp) (s : Subject) (p : Position) :
    List (Expr × List Node) → Preparing (List (Expr × List Node))
  | [] => return []
  | (condition, body) :: rest => do
    let condition ← prepareIn I s p 0 condition
    let body ← prepareBody I s (p.deeper 1) body
    return (condition, body) :: (← prepareBranches I s p rest)

end

def checkBlockNames (s : Subject) (seen : List String) : List Block → Preparing Unit
  | [] => return ()
  | b :: rest =>
    if seen.contains b.id then s.flaw (.blockTwice b.id) b.line else checkBlockNames s (b.id :: seen) rest

def prepareBlock (I : Interp) (s : Subject) (mode : EscapeMode) (b : Block) : Preparing Block := do
  let place : Position := { scopes := Scopes.unit ["self", "super"] b.body, mode, inBlock := true }
  return { b with body := ← prepareBody I s place b.body }

def prepare (I : Interp) (name file : Option String) (body : List Node) : Eval Compiled := do
  let escape := (← get).settings.escape
  let cell ← newEscape (.bool escape)
  let s : Subject := ⟨name, file, ← newContext { name, parent := {}, escape := some cell }⟩
  let mode : EscapeMode := ⟨escape, false⟩
  let blocks := blocksOf body
  let inherits := anyExtends body
  let walk : Preparing Compiled := do
    checkBlockNames s [] blocks
    let place : Position :=
      { scopes := Scopes.unit ["self"] body, mode, top := true, root := true, dropsOutput := inherits }
    let prepared ← prepareBody I s place body
    return ⟨name, file, prepared, ← blocks.mapM (prepareBlock I s mode), inherits⟩
  let (c, progress) ← walk.run {}
  match progress.unreadable with
  | some m => fail m
  | none => if progress.refused then fail .badSyntax else return c

end Stencil.Engine
