import Stencil.Cache
import Stencil.Data.Basic
import Stencil.FileTree
import Stencil.Plugin.Registry
import Stencil.Template.Lexer
import Stencil.Template.Scope

/-!
# Live values and the state of a renderer

Values that can change, and those with an identity, are references to objects in the `World`. The world also holds
the frames of running bodies, the contexts of templates, compiled templates and everything else that outlives a
render.
-/

set_option autoImplicit false

namespace Stencil.Engine

open Stencil.Template

abbrev Ref := Nat

inductive Builtin where
  | range
  | dict
  | namespace
  | lipsum
  | cycler
  | joiner
  deriving DecidableEq, Repr

structure Compiled where
  name : Option String
  file : Option String
  body : List Node
  blocks : List Block
  inherits : Bool

inductive Script where
  | file (ref : Ref)
  | text (c : Compiled)

structure BlockFn where
  script : Script
  id : String

def BlockFn.same (a b : BlockFn) : Bool :=
  a.id == b.id && match a.script, b.script with
    | .file r, .file q => r == q
    | .text _, .text _ => true
    | _, _ => false

inductive ViewKind where
  | keys
  | values
  | items
  deriving DecidableEq, Repr

inductive Value where
  | null
  | bool (b : Bool)
  | int (n : Int)
  | float (x : Float)
  -- a float that is no number, told from others by its mark
  | nan (mark : Nat)
  | complex (z : Number.Complex)
  | text (s : String)
  | safe (s : String)
  | bytes (content : List UInt8)
  | date (d : Date)
  | moment (m : Moment)
  | tuple (items : List Value)
  | list (ref : Ref)
  | dict (ref : Ref)
  | set (ref : Ref)
  | range (start stop stride : Int)
  | slice (start stop stride : Value)
  | view (kind : ViewKind) (ref : Ref)
  | missing (m : Missing)
  | namespace (ref : Ref)
  | loop (ref : Ref)
  | iterator (ref : Ref)
  | macroFn (ref : Ref)
  | module (ref : Ref)
  | builtin (b : Builtin)
  | method (owner : Value) (id : String)
  -- the blocks of the template that is being rendered
  | blocks (context : Ref)
  -- a block at some height of its inheritance
  | blockRef (id : String) (context : Ref) (stack : List BlockFn) (height : Nat)
  deriving Inhabited

structure EscapeMode where
  on : Bool
  unsure : Bool := false
  deriving DecidableEq, Repr

structure Env where
  script : Script
  context : Ref
  frame : Ref
  scopes : Scopes
  escape : EscapeMode
  -- assignments here are seen by importers
  top : Bool := false
  -- the frame whose template drops output once it has a parent
  dropping : Option Ref := none
  -- output is kept back, to be used as a whole
  captures : Bool := false

structure Frame where
  base : Nat
  outer : Option Ref
  starts : Table Slot Value := {}
  values : Table Slot Value := {}
  parent : Option Ref := none

structure Context where
  name : Option String
  parent : Table String Value
  vars : Table String Value := {}
  exported : List String := []
  blocks : Table String (List BlockFn) := {}
  -- the cell that says whether results are escaped now
  escape : Option Ref := none

structure Macro where
  name : Option String
  params : Params
  body : List Node
  env : Env
  -- what decides whether results are marked safe when nobody else does
  escape : Value
  -- the body writes past its own result, which is then a row of texts
  leaks : Bool

structure LoopFn where
  env : Env
  target : Target
  test : Option Expr
  body : List Node
  otherwise : List Node

inductive Iter where
  | items (typeName : String) (rest : List Value)
  -- a list that may grow meanwhile
  | growing (list : Ref) (index : Nat)
  -- a list from some place backwards
  | backward (list : Ref) (left : Nat)
  -- a map that had the given number of entries, so many of which are left, from a place on or behind a key
  | entries (dict : Ref) (kind : ViewKind) (size left place : Nat) (last : Option Value)
  -- the entries of a map, or the items of a set, that had the given number of them
  | guarded (typeName : String) (owner : Value) (size : Nat) (rest : List Value)
  | counting (next stride : Int) (left : Nat)
  -- the items of a loop, each with the loop itself
  | turns (loop : Ref)
  -- the blocks of a template, which cannot be counted off
  | blocks
  -- the items of another source that pass the test of a loop; once started, with what names start with there
  | tested (source : Value) (started : Option (Ref × Table Slot Value)) (env : Env) (target : Target) (test : Expr)
  -- the items that a filter lets pass or makes, one by one; nothing is done before the first one is taken
  | sifted (id : String) (env : Env) (args : List Value) (named : List (String × Value)) (source : Option Ref)
      (seen : List Value)
  -- the texts that the body of a macro writes past its own result, given what its parameters are bound to
  | leaking (m : Macro) (bound : List (String × Option Value))

structure Loop where
  iterable : Value
  source : Ref
  fn : Option Ref
  depth0 : Nat
  turns : Nat := 0
  ahead : Option Value := none
  before : Option Value := none
  current : Option Value := none
  length : Option Nat := none
  lastChanged : Option (List Value) := none

structure Output where
  text : String := ""
  -- something that is no text was written
  spoiled : Bool := false
  past : String := ""
  pastSpoiled : Bool := false

structure Module where
  name : Option String
  exports : Table String Value
  body : Output

inductive Object where
  | list (items : List Value)
  | dict (entries : List (Value × Value)) (insists : Bool)
  | set (items : List Value)
  | namespace (entries : List (Value × Value))
  | loop (l : Loop)
  | iter (it : Iter)
  | macroFn (m : Macro)
  | loopFn (f : LoopFn)
  | module (m : Module)

structure LoadedFile where
  template : Ref
  place : Path
  revision : Nat

inductive Event where
  | init (r : InitReport)
  | call (tag markup : String) (templateName : Option String) (before : List (String × Data))
      (result : Option (String × List (String × Data)))

structure Settings where
  escape : Bool
  strict : Bool
  layout : Layout
  -- where template files are, if there are any
  folder : Option Path

def firstMark : Nat := 1099511627776

structure World where
  settings : Settings
  registry : Registry := {}
  files : FileTree := {}
  objects : Array Object := #[]
  frames : Array Frame := #[]
  contexts : Array Context := #[]
  escapes : Array Value := #[]
  templates : Array Compiled := #[]
  texts : TextCache Compiled
  loaded : Cache String LoadedFile := ⟨400, []⟩
  modules : Table Ref Ref := {}
  -- the mark of the next value that has to be told from others
  mark : Nat := firstMark
  -- how deep the calls are that are being made
  depth : Nat := 0
  log : List LogLine := []
  events : List Event := []

end Stencil.Engine
