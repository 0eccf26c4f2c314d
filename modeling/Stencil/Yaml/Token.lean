import Stencil.Mishap

/-!
# Tokens of a YAML text

The indentation of blocks and the keys that no mark announces have tokens of their own.
-/

set_option autoImplicit false

namespace Stencil.Yaml

inductive Fault where
  | invalid
  | mishap (m : Mishap)
  deriving DecidableEq, Repr

inductive Version where
  | oneOne
  | oneTwo
  deriving DecidableEq, Repr

inductive Token where
  | version (major minor : Nat)
  | tagPrefix (handle start : String)
  -- a directive without a meaning
  | otherDirective
  | documentStart
  | documentEnd
  | streamEnd
  | blockSequenceStart
  | blockMappingStart
  | blockEnd
  | flowSequenceStart
  | flowSequenceEnd
  | flowMappingStart
  | flowMappingEnd
  | blockEntry
  | flowEntry
  | key
  | value
  | sameAs (id : String)
  | anchor (id : String)
  | tag (handle : Option String) (suffix : String)
  | scalar (text : String) (isPlain : Bool)
  deriving DecidableEq, Repr

def Token.isDirective : Token → Bool
  | .version _ _ => true
  | .tagPrefix _ _ => true
  | .otherDirective => true
  | _ => false

end Stencil.Yaml
