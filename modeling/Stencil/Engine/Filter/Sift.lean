import Stencil.Engine.Filter.Basic
import Stencil.Engine.Test

/-!
# Filters that go through items one by one

Some filters give an iterator. They look at their arguments when the first item is asked for, and at each item only
when it is its turn.
-/

set_option autoImplicit false

namespace Stencil.Engine

open Stencil.Template

def siftNames : List String := ["map", "select", "reject", "selectattr", "rejectattr", "unique"]

def sift (env : Env) (id : String) (args : List Value) (named : Named) : Eval Value := do
  if id == "unique" then discard (Signature.bind ⟨["value", "case_sensitive", "attribute"], 1⟩ args named)
  if args.isEmpty then fail .wrongType
  newIter (.sifted id env args named none [])

def unknownCallable {α : Type} (kind : String) (v : Value) : Eval α := do
  needKey v
  let start := "No " ++ kind ++ " named " ++ (← writable v).spelled ++ "."
  throw (.broken (match missingOf? v with
    | some m => start ++ " (" ++ m.message ++ "; did you forget to quote the callable name?)"
    | none => start))

def mapByPath (args : List Value) (named : Named) : Bool := args.isEmpty && (named.lookup "attribute").isSome

def checkSift (id : String) (args : List Value) (named : Named) : Eval Unit := do
  match id with
  | "map" =>
    if mapByPath args named then
      match named.find? fun e => e.1 != "attribute" && e.1 != "default" with
      | some e => throw (.filterArgument ("Unexpected keyword argument " ++ Text.quoted e.1))
      | none => pure ()
    else if args.isEmpty then throw (.filterArgument "map requires a filter argument")
  | "selectattr" | "rejectattr" =>
    if args.isEmpty then throw (.filterArgument "Missing parameter for attribute name")
  | _ => pure ()

def orDefault (default found : Value) : Value :=
  match found with
  | .missing m =>
    match default with
    | .null => .missing m
    | d => d
  | found => found

def followWithDefault (I : Interp) (default : Value) (item : Value) (parts : List Value) : Eval Value :=
  parts.foldlM (fun v part => do return orDefault default (← getElement I v part)) item

def mapItem (I : Interp) (env : Env) (args : List Value) (named : Named) (item : Value) : Eval Value := do
  match args with
  | [] =>
    let parts ← pathParts ((named.lookup "attribute").getD .null)
    followWithDefault I ((named.lookup "default").getD .null) item parts
  | v :: rest =>
    match textOf? v with
    | some id => if filterNames.contains id then I.filter env id (item :: rest) named else unknownCallable "filter" v
    | none => unknownCallable "filter" v

def passes (I : Interp) (args : List Value) (named : Named) (subject : Value) : Eval Bool := do
  match args with
  | [] => truth I subject
  | v :: rest =>
    match textOf? v with
    | some id => if testNames.contains id then applyTest I id (subject :: rest) named else unknownCallable "test" v
    | none => unknownCallable "test" v

def passesAt (I : Interp) (args : List Value) (named : Named) (item : Value) : Eval Bool := do
  match args with
  | [] => truth I item
  | path :: rest => passes I rest named (← followPath I item (← pathParts path))

def siftItem (I : Interp) (env : Env) (id : String) (args : List Value) (named : Named) (seen : List Value)
    (item : Value) : Eval (Option Value × List Value) := do
  let keep (b : Bool) : Option Value × List Value := (if b then some item else none, seen)
  match id with
  | "map" => return (some (← mapItem I env args named item), seen)
  | "select" => return keep (← passes I args named item)
  | "reject" => return keep (!(← passes I args named item))
  | "selectattr" => return keep (← passesAt I args named item)
  | "rejectattr" => return keep (!(← passesAt I args named item))
  | _ =>
    let g ← Signature.bind ⟨["case_sensitive", "attribute"], 0⟩ args named
    let exact ← truth I (g.get "case_sensitive" (.bool false))
    let key ← itemKey I exact (← pathParts (g.get "attribute" .null)) item
    needKey key
    if seen.any (keyEqual key) then return (none, seen) else return (some item, key :: seen)

def startSift (I : Interp) (id : String) (args : List Value) (named : Named) : Eval (Option Ref) := do
  match args with
  | [] => return none
  | v :: rest =>
    if id != "unique" then
      if !(← truth I v) then return none
      checkSift id rest named
    return some (← iterate v)

end Stencil.Engine
