/-!
# Operations that fail

Operations on values that cannot be carried out are told apart by kind only.
-/

set_option autoImplicit false

namespace Stencil

inductive Mishap where
  | wrongType
  | divisionByZero
  | badValue
  | tooLarge
  | noAttribute
  | noKey
  | noIndex
  | changedWhileRead
  | outOfMemory
  -- nested or called deeper than is borne
  | tooDeep
  -- a name that means nothing in the code that was made
  | noName
  | badSyntax
  | badIndentation
  | exhausted
  | failedCheck (message : String)
  | system
  deriving DecidableEq, Repr

end Stencil
