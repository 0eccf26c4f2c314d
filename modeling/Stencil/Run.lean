import Stencil.Json.Writer
import Stencil.Variables

/-!
# Runs

A run loads a project's configuration, sets up its processor, and renders one target or lists what there is.
-/

set_option autoImplicit false

namespace Stencil.Run

structure Options where
  dataFiles : List String := []
  bindings : Table String String := {}
  checkJson : Bool := false

def inputTarget : String := "-"

def inputName : String := "<stdin>"

def inputText (bytes : List UInt8) : Except Failure String :=
  (FileTree.decodeText bytes).mapError fun f =>
    .processing ⟨"Failed to read template from stdin: " ++ f.message, inputName, some .undecodable⟩

def checkJson (target text : String) : Except Failure Unit :=
  match Json.read text.toList with
  | .ok _ => .ok ()
  | .error (.malformed f) => .error (.notJson target (f.message text.toList))
  | .error (.mishap m) => .error (.mishap m)

def processor (files : FileTree) (root : Path) (config : Config) : Task Processor := do
  return (← Task.ofOutcome (← Task.ofExcept (Processor.setUp config files (some root)))).2

def render (files : FileTree) (input : List UInt8) (root : Path) (target : String) (o : Options) : Task String := do
  let config ← Config.load files root
  let p ← processor files root config
  let vars ← Variables.build files root config o.dataFiles o.bindings
  let (text, _) ←
    if target == inputTarget then do
      Task.ofOutcome (p.renderText inputName vars (← Task.ofExcept (inputText input)))
    else Task.ofOutcome (p.renderFile target vars)
  Task.note .debug ("Rendered '" ++ target ++ "' -> " ++ toString text.length ++ " chars")
  if o.checkJson then Task.ofExcept (checkJson target text)
  return text

inductive Listing where
  | plugins
  | tags
  deriving DecidableEq, Repr

def Listing.label : Listing → String
  | .plugins => "plugins"
  | .tags => "tags"

def list (files : FileTree) (root : Path) (what : Listing) : Task (List String) := do
  let config ← Config.load files root
  let p ← processor files root config
  return match what with
    | .plugins => p.listPlugins
    | .tags => p.listTags

end Stencil.Run
