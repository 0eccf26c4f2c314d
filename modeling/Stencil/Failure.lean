import Stencil.Config.Basic
import Stencil.Engine.Fault
import Stencil.FileTree
import Stencil.Plugin.Catalogue

/-!
# Failures of an operation

What can go wrong between a request and its answer. Some failures are told to the user in a sentence; the others
are known by their kind only.
-/

set_option autoImplicit false

namespace Stencil

inductive DataFault where
  | notFound (path : String)
  | unsupported (suffix path : String)
  | unparsable (path : String) (reason : Option String)
  | notMapping (path : String)
  | badBinding (item : String)
  deriving DecidableEq, Repr

def DataFault.message : DataFault → String
  | .notFound path => "Data file not found: " ++ path
  | .unsupported suffix path => "Unsupported data file type '" ++ suffix ++ "': " ++ path
  | .unparsable path none => "Failed to parse data file " ++ path
  | .unparsable path (some reason) => "Failed to parse data file " ++ path ++ ": " ++ reason
  | .notMapping path => "Data file " ++ path ++ " must contain a mapping at the top level"
  | .badBinding item => "Invalid variable '" ++ item ++ "'. Expected 'KEY=VALUE'"

inductive Cause where
  | undecodable
  | unreadable
  | noModule
  | badValue
  deriving DecidableEq, Repr

structure ProcessingFault where
  reason : String
  templateName : String
  cause : Option Cause
  deriving DecidableEq, Repr

def ProcessingFault.message (f : ProcessingFault) : String :=
  "Template processing error in '" ++ f.templateName ++ "': " ++ f.reason

inductive Failure where
  | config (f : Config.Fault)
  -- a fault in the configuration file
  | configFile (f : Config.Fault)
  | data (f : DataFault)
  | notJson (target reason : String)
  | processing (f : ProcessingFault)
  | template (f : Engine.Fault)
  | pluginTwice (name : String)
  | undecodable (f : Text.DecodeFault)
  | mishap (m : Mishap)
  | write (f : FileTree.WriteFault)

def toolVersion : String := "0.1.0"

def configFileName : String := "rerender.yaml"

def Failure.userMessage? : Failure → Option String
  | .config f => some f.message
  | .configFile f => some (configFileName ++ ": " ++ f.message)
  | .data f => some f.message
  | .notJson target reason => some ("Rendered output of '" ++ target ++ "' is not valid JSON: " ++ reason)
  | .processing f => some f.message
  | _ => none

def Failure.twiceText (name : String) : String := "Plugin '" ++ name ++ "' already registered"

def Failure.ofConfig (inFile : Bool) (f : Config.Fault) : Failure :=
  match f with
  | .unsortableKeys => .mishap .wrongType
  | f => if f.isUntold then .mishap .badValue else if inFile then .configFile f else .config f

def Failure.ofLoad (f : Catalogue.LoadFault) : Failure :=
  match f with
  | .outline => .mishap .wrongType
  | .relative => .mishap .wrongType
  | .missing _ _ _ => .processing ⟨f.message, "", some .noModule⟩
  | f => .processing ⟨f.message, "", none⟩

end Stencil
