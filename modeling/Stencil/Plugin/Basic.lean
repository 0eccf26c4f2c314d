/-!
# Plugins and their tags

A plugin is a named bundle of block tags. A tag has a name, which is also the word that opens it, and an action that
makes its output from a call.
-/

set_option autoImplicit false

namespace Stencil

inductive Priority where
  | block
  | standard
  | low
  deriving DecidableEq, Repr

def Priority.weight : Priority → Nat
  | .block => 100
  | .standard => 50
  | .low => 10

inductive Action where
  -- renders the body and then the text it gave, once more
  | renderTwice
  | body
  | upper
  | bodyTwice
  | skip
  | markup
  | name
  -- renders the text of the body with the variables that the body left
  | again
  -- as `again`, with the variables as they were before the body
  | snapshot
  -- as `again`, and its result once more without a template name
  | triple
  | number
  -- reports the call and gives the body
  | record
  deriving DecidableEq, Repr

structure Tag where
  name : String
  owner : String
  action : Action
  deriving DecidableEq, Repr

structure Plugin where
  name : String
  priority : Priority := .standard
  tags : List (String × Action) := []
  announces : Bool := false
  probe : Option String := none
  deriving DecidableEq, Repr

def Plugin.ownTags (p : Plugin) : List Tag := p.tags.map fun t => ⟨t.1, p.name, t.2⟩

end Stencil
