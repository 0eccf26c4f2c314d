import Stencil.Table
import Stencil.Template.Mention
import Stencil.Text.Normal

/-!
# Scopes

A scope knows each of its names and how the name starts when the scope is entered: as a parameter, with what the
context holds, with the value of an outer scope, or without a value. A name that is assigned anywhere in a scope
belongs to it from the start. Branches of an `if` share the scope they stand in; a name assigned in a branch starts
with its outer value, since the branch may not be taken.
-/

set_option autoImplicit false

namespace Stencil.Template

structure Slot where
  depth : Nat
  id : String
  deriving DecidableEq, Repr

inductive Origin where
  | param
  | resolve
  | outer (slot : Slot)
  | unset
  deriving DecidableEq, Repr

structure Scope where
  depth : Nat
  names : Table String Origin := {}
  stored : List String := []

abbrev Scopes := List Scope

def slotAt (depth : Nat) (id : String) : Slot := ⟨depth, Text.normal id⟩

def Scopes.find? (scopes : Scopes) (id : String) : Option Slot :=
  match scopes with
  | [] => none
  | s :: outer => if s.names.has id then some (slotAt s.depth id) else find? outer id

def Scopes.depth (scopes : Scopes) : Nat :=
  match scopes with
  | [] => 0
  | s :: _ => s.depth

def Scopes.nextDepth (scopes : Scopes) : Nat :=
  match scopes with
  | [] => 0
  | s :: _ => s.depth + 1

namespace Scope

def noteStored (s : Scope) (id : String) : Scope :=
  if s.stored.contains id then s else { s with stored := s.stored ++ [id] }

def define (s : Scope) (id : String) (origin : Origin) : Scope := { s with names := s.names.insert id origin }

def declare (s : Scope) (id : String) : Scope := (s.noteStored id).define id .param

def load (outer : Scopes) (s : Scope) (id : String) : Scope :=
  if s.names.has id || (outer.find? id).isSome then s else s.define id .resolve

def loadAll (outer : Scopes) (s : Scope) (ids : List String) : Scope := ids.foldl (load outer) s

def store (outer : Scopes) (s : Scope) (id : String) : Scope :=
  let s := s.noteStored id
  if s.names.has id then s
  else match outer.find? id with
    | some slot => s.define id (.outer slot)
    | none => s.define id .unset

def storeAll (outer : Scopes) (s : Scope) (ids : List String) : Scope := ids.foldl (store outer) s

def declareAll (s : Scope) (ids : List String) : Scope := ids.foldl declare s

def join (outer : Scopes) (s : Scope) (branches : List Scope) : Scope :=
  let fresh := (branches.flatMap (·.stored)).filter (!s.stored.contains ·)
  let names := branches.foldl (fun t b => t.update b.names) s.names
  let joined : Scope := { s with names, stored := s.stored }
  let joined := (branches.flatMap (·.stored)).foldl noteStored joined
  fresh.foldl (fun j id => j.define id (match outer.find? id with
    | some slot => .outer slot
    | none => .resolve)) joined

def storeTarget (outer : Scopes) (s : Scope) (target : Target) : Scope :=
  (s.storeAll outer (target.names.map Prod.fst)).loadAll outer target.namespaces

end Scope

mutual

def Node.scan (outer : Scopes) : Scope → Node → Scope
  | s, .output pieces => s.loadAll outer (pieces.flatMap Piece.names)
  | s, .assign target value => (s.loadAll outer value.names).storeTarget outer target
  | s, .capture target _ _ => s.storeTarget outer target
  | s, .forLoop _ iterable _ _ _ _ => s.loadAll outer iterable.names
  | s, .ifElse condition body branches otherwise =>
    let s := s.loadAll outer condition.names
    s.join outer [scanAll outer s body, scanBranches outer s branches, scanAll outer s otherwise]
  | s, .withVars bindings _ => s.loadAll outer (bindings.flatMap fun b => b.2.names)
  | s, .macroDef id _ _ _ => s.store outer id
  | s, .callBlock _ call _ _ => s.loadAll outer call.names
  | s, .tagBlock _ _ _ => s.load outer "loop"
  | s, .filterBlock filter _ => s.loadAll outer filter.names
  | s, .autoescape _ _ _ => s
  | s, .block _ _ _ _ _ => s
  | s, .extendsFrom template _ => s.loadAll outer template.names
  | s, .includeFile template _ _ => s.loadAll outer template.names
  | s, .importAs template id _ => (s.loadAll outer template.names).store outer id
  | s, .importNames template names _ _ => (s.loadAll outer template.names).storeAll outer (names.map Prod.snd)
  | s, .collect => s.load outer bodyLocals

def scanAll (outer : Scopes) : Scope → List Node → Scope
  | s, [] => s
  | s, n :: rest => scanAll outer (n.scan outer s) rest

def scanBranches (outer : Scopes) : Scope → List (Expr × List Node) → Scope
  | s, [] => s
  | s, (condition, body) :: rest =>
    let s := s.loadAll outer condition.names
    scanBranches outer (s.join outer [scanAll outer s body, s, s]) rest

end

namespace Scopes

def empty (outer : Scopes) : Scope := { depth := outer.nextDepth }

def unit (specials : List String) (body : List Node) : Scopes :=
  let s := (empty []).declareAll (specials.filter (isFree · body))
  [scanAll [] s body]

def plain (outer : Scopes) (body : List Node) : Scopes := scanAll outer (empty outer) body :: outer

def filterBody (outer : Scopes) (body : List Node) (filter : Expr) : Scopes :=
  (scanAll outer (empty outer) body).loadAll outer filter.names :: outer

def autoescapeBody (outer : Scopes) (value : Expr) (body : List Node) : Scopes :=
  scanAll outer ((empty outer).loadAll outer value.names) body :: outer

def withBody (outer : Scopes) (targets : List Target) (body : List Node) : Scopes :=
  let s := (empty outer).declareAll (targets.flatMap fun t => t.names.map Prod.fst)
  scanAll outer s body :: outer

def loopBody (outer : Scopes) (counted : Bool) (target : Target) (body : List Node) : Scopes :=
  let s := (empty outer).declareAll ((if counted then ["loop"] else []) ++ target.names.map Prod.fst)
  scanAll outer s body :: outer

def loopTest (outer : Scopes) (target : Target) (test : Expr) : Scopes :=
  ((empty outer).declareAll (target.names.map Prod.fst)).loadAll outer test.names :: outer

def specialParams (params : Params) (body : List Node) : List String :=
  ["caller", "kwargs", "varargs"].filter fun id => !params.names.contains id && isFree id body

def functionBody (outer : Scopes) (params : Params) (body : List Node) : Scopes :=
  let s := ((empty outer).declareAll params.names).loadAll outer (namesOfList params.defaults)
  (scanAll outer s body).declareAll (specialParams params body) :: outer

def visible (scopes : Scopes) : List (String × Slot) :=
  let ids := scopes.flatMap fun s => s.stored.mergeSort (fun a b => a ≤ b)
  let distinct := ids.foldl (fun seen id => if seen.contains id then seen else seen ++ [id]) []
  distinct.filterMap fun id => (scopes.find? id).map (id, ·)

end Scopes

end Stencil.Template
