import Stencil.Mishap
import Stencil.Template.Fault
import Stencil.Text.Utf8

/-!
# Failures of a run

Each failure is a cause. Those of ordinary operations on values are told apart only by kind; the others carry what
their message needs.
-/

set_option autoImplicit false

namespace Stencil.Engine

inductive Fault where
  -- a flaw in a template's text, with the name and the file of the template as they are reported
  | flawed (flaw : Template.Flaw) (name file : Option String)
  | undefined (message : String)
  | notFound (message : String)
  | noneFound (message : String)
  | broken (message : String)
  | filterArgument (message : String)
  | mishap (m : Mishap)
  -- a plugin was called before it was connected
  | unconnected
  -- a name stands where no scope looks for names
  | unboundName (id : String)
  | undecodable (f : Text.DecodeFault)
  -- a file may not be read
  | unreadable (refusal : String)
  | outOfFuel
  deriving DecidableEq, Repr

def Fault.message : Fault → String
  | .flawed flaw _ _ => flaw.problem.message
  | .undefined m => m
  | .notFound m => m
  | .noneFound m => m
  | .broken m => m
  | .filterArgument m => m
  | .mishap _ => ""
  | .unconnected => "Handlers must be set before use"
  | .unboundName id => "Tried to resolve a name to a reference that was unknown to the frame (" ++ Text.quoted id ++ ")"
  | .undecodable f => f.message
  | .unreadable refusal => refusal
  | .outOfFuel => ""

def isNotFound : Fault → Bool
  | .notFound _ => true
  | .noneFound _ => true
  | _ => false

def Fault.ofFlaw (flaw : Template.Flaw) (name file : Option String) : Fault :=
  match flaw.problem with
  | .mishap m => .mishap m
  | .openComment => .flawed flaw file none
  | .openRaw => .flawed flaw file none
  | _ => .flawed flaw name file

end Stencil.Engine
