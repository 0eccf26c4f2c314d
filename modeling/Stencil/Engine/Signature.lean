import Stencil.Engine.Basic

/-!
# Arguments and parameters

Arguments are matched to parameters by position and then by name. Too many arguments, an unknown name, a parameter
given twice and a required one not given are all refused.
-/

set_option autoImplicit false

namespace Stencil.Engine

structure Signature where
  names : List String
  required : Nat

abbrev Given := List (String × Value)

def matchPositional : List String → List Value → Option Given
  | _, [] => some []
  | [], _ :: _ => none
  | id :: ids, v :: vs => (matchPositional ids vs).map ((id, v) :: ·)

def matchNamed (names : List String) (given : Given) : Named → Option Given
  | [] => some given
  | (id, v) :: rest =>
    if names.contains id && !given.any (·.1 == id) then matchNamed names (given ++ [(id, v)]) rest else none

def Signature.given? (s : Signature) (args : List Value) (named : Named) : Option Given := do
  let given ← matchNamed s.names (← matchPositional s.names args) named
  if (s.names.take s.required).all fun id => given.any (·.1 == id) then some given else none

def Signature.bind (s : Signature) (args : List Value) (named : Named) : Eval Given :=
  liftOption .wrongType (s.given? args named)

def Given.get (g : Given) (id : String) (default : Value) : Value := (g.lookup id).getD default

end Stencil.Engine
