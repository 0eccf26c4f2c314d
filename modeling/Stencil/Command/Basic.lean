import Stencil.Command.Arguments
import Stencil.Run

/-!
# Commands

What can be asked on the command line: to render a target, or to list what a project has.
-/

set_option autoImplicit false

namespace Stencil

inductive Command where
  | render (root target : String) (dataFiles bindings : List String) (out : Option String) (checkJson : Bool)
  | list (root : String) (what : Run.Listing)
  deriving DecidableEq, Repr

namespace Command

structure Invocation where
  verbose : Bool
  command : Command
  deriving DecidableEq, Repr

def programName : String := "rerender"

def helpSwitch : Switch := ⟨["-h", "--help"], .help⟩

def mainGrammar : Grammar where
  program := programName
  switches := [helpSwitch, ⟨["--version"], .version⟩, ⟨["--verbose"], .flag⟩]
  operand := ⟨"cmd", ["render", "list"], true⟩

def renderGrammar : Grammar where
  program := programName ++ " render"
  switches := [helpSwitch, ⟨["--root"], .value⟩, ⟨["--data"], .value⟩, ⟨["--var"], .value⟩, ⟨["--out"], .value⟩,
    ⟨["--check-json"], .flag⟩]
  operand := ⟨"target", [], false⟩

def listGrammar : Grammar where
  program := programName ++ " list"
  switches := [helpSwitch, ⟨["--root"], .value⟩]
  operand := ⟨"what", [Run.Listing.plugins.label, Run.Listing.tags.label], false⟩

def Reading.first (r : Reading) : String := (r.operand.getD []).headD ""

def Reading.root (r : Reading) : String := (r.last? "--root").getD "."

def ofRender (r : Reading) : Command :=
  .render r.root r.first (r.values "--data") (r.values "--var") (r.last? "--out") (r.has "--check-json")

def ofList (r : Reading) : Command := .list r.root (if r.first == Run.Listing.tags.label then .tags else .plugins)

def readCommand (name : String) (arguments : List String) : Except Stop (Command × List String) := do
  if name == "list" then
    let r ← readArguments listGrammar arguments
    return (ofList r, r.unwanted)
  else
    let r ← readArguments renderGrammar arguments
    return (ofRender r, r.unwanted)

def parse (arguments : List String) : Except Stop Invocation := do
  let r ← readArguments mainGrammar arguments
  let (command, unwanted) ← readCommand r.first ((r.operand.getD []).drop 1)
  let unwanted := r.unwanted ++ unwanted
  if !unwanted.isEmpty then throw (.fault programName (.unrecognized unwanted))
  return ⟨r.has "--verbose", command⟩

end Command

end Stencil
