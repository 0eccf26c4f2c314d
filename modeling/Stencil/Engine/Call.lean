import Stencil.Engine.Iteration

/-!
# Calls

What can be called: macros, the bodies of call blocks, the functions that every template knows, methods, loops that
recur, and named blocks.
-/

set_option autoImplicit false

namespace Stencil.Engine

open Stencil.Template

def globals : Table String Value :=
  ⟨[("range", .builtin .range), ("dict", .builtin .dict), ("lipsum", .builtin .lipsum),
    ("cycler", .builtin .cycler), ("joiner", .builtin .joiner), ("namespace", .builtin .namespace)]⟩

def newMacro (env : Env) (name : Option String) (params : Params) (body : List Node) : Eval Macro := do
  return ⟨name, params, body, env, ← escapeValue env.context, anyLeaks body⟩

def takeNamed (named : Named) : List String → List (String × Option Value) × Named
  | [] => ([], named)
  | id :: rest =>
    let taken := takeNamed (named.filter (·.1 != id)) rest
    ((id, named.lookup id) :: taken.1, taken.2)

def callerValue (named : Named) : Eval Value :=
  match named.lookup "caller" with
  | none => newMissing (.name "caller") "No caller defined"
  | some .null => newMissing (.name "caller") "No caller defined"
  | some v => return v

abbrev Bound := List (String × Option Value)

def bindCaller (wanted : Bool) (named : Named) : Eval Bound := do
  if wanted then return [("caller", some (← callerValue named))] else return []

def bindKwargs (wanted : Bool) (named : Named) : Eval Bound := do
  if wanted then return [("kwargs", some (← newDict (namedEntries named)))]
  else if named.isEmpty then return [] else fail .wrongType

def bindVarargs (wanted : Bool) (names : List String) (args : List Value) : Eval Bound := do
  if wanted then return [("varargs", some (.tuple (args.drop names.length)))]
  else if args.length ≤ names.length then return [] else fail .wrongType

def wantsCaller (m : Macro) (args : List Value) (byName : Bound) : Bool :=
  isFree "caller" m.body &&
    !(if m.params.names.length ≤ args.length then m.params.names.contains "caller" else byName.any (·.1 == "caller"))

def bindArguments (m : Macro) (args : List Value) (named : Named) : Eval Bound := do
  let names := m.params.names
  let special := Scopes.specialParams m.params m.body
  let byPlace := (names.zip args).map fun e => (e.1, some e.2)
  let (byName, left) := takeNamed named (names.drop args.length)
  let wantsCaller := wantsCaller m args byName
  if wantsCaller && names.contains "caller" then fail .wrongType
  let caller ← bindCaller wantsCaller left
  let kwargs ← bindKwargs (special.contains "kwargs") (left.filter fun e => !wantsCaller || e.1 != "caller")
  let varargs ← bindVarargs (special.contains "varargs") names args
  return byPlace ++ byName ++ caller ++ kwargs ++ varargs

def fillDefaults (I : Interp) (env : Env) (params : Params) : Nat → List String → Eval Unit
  | _, [] => return ()
  | index, id :: rest => do
    if (← lookup? env id).isNone then
      match params.default? index with
      | some e => giveName env id (← evaluate I env e)
      | none =>
        giveName env id (← newMissing (.name id) ("parameter " ++ Text.quoted id ++ " was not provided"))
    fillDefaults I env params (index + 1) rest

def runMacroBody (I : Interp) (m : Macro) (bound : Bound) : Eval Output := do
  let inner ← newFrame { base := m.env.scopes.nextDepth, outer := some m.env.frame }
  let scopes := Scopes.functionBody m.env.scopes m.params m.body
  let env := { m.env.inner scopes with frame := inner, dropping := none, captures := true }
  bound.forM fun e => match e.2 with
    | some v => giveName env e.1 v
    | none => return ()
  enter env
  fillDefaults I env m.params 0 m.params.names
  I.nodes env m.body

def macroResult (I : Interp) (m : Macro) (bound : Bound) : Eval Value :=
  if m.leaks then newIter (.leaking m bound) else deeper 4 do return .text (← (← I.body m bound).joined)

def callMacro (I : Interp) (m : Macro) (escape : Value) (args : List Value) (named : Named) : Eval Value := do
  let bound ← bindArguments m args named
  let result ← macroResult I m bound
  if ← truth I escape then return .safe (← display I result) else return result

def callRange (args : List Value) (named : Named) : Eval Value := do
  if !named.isEmpty then fail .wrongType
  match ← args.mapM needInt with
  | [stop] => return .range 0 stop 1
  | [start, stop] => return .range start stop 1
  | [start, stop, stride] => if stride = 0 then fail .badValue else return .range start stop stride
  | _ => fail .wrongType

def callBuiltin (I : Interp) (b : Builtin) (args : List Value) (named : Named) : Eval Value := do
  match b with
  | .range => callRange args named
  | .dict => newDict (← buildEntries I args named)
  | .namespace => return .namespace (← alloc (.namespace (← buildEntries I args named)))
  | _ => fail .wrongType

def callBlockRef (I : Interp) (context : Ref) (stack : List BlockFn) (height : Nat) : Eval Value := do
  match stack[height]? with
  | none => fail .wrongType
  | some fn =>
    let text ← deeper 3 do (← I.block fn context).joined
    if ← truth I (← escapeValue context) then return .safe text else return .text text

def callAgain (I : Interp) (l : Loop) (args : List Value) (named : Named) : Eval Value := do
  let g ← Signature.bind ⟨["iterable"], 1⟩ args named
  match l.fn with
  | some fn => deeper 3 (callLoop I fn (l.depth0 + 1) (g.get "iterable" .null))
  | none => fail .wrongType

def keptBack : List String := ["_block_vars", "_loop_vars"]

def callValue (I : Interp) (env : Env) (f : Value) (args : List Value) (named : Named) : Eval Value := do
  let named := named.filter fun e => !keptBack.contains e.1
  match f with
  | .missing m => failMissing m
  | .macroFn r =>
    match ← object? r with
    | some (.macroFn m) => callMacro I m (← escapeValue env.context) args named
    | _ => fail .wrongType
  | .builtin b => callBuiltin I b args named
  | .method owner id => callMethod I owner id args named
  | .loop r =>
    match ← loop? r with
    | some l => callAgain I l args named
    | none => fail .wrongType
  | .blockRef _ context stack height =>
    noArguments args named
    callBlockRef I context stack height
  | _ => fail .wrongType

end Stencil.Engine
