import Stencil.Data.Basic

/-!
# Templates as trees

Expressions, the targets that values are assigned to, and the statements of a template. Lines are kept where a
message may need them. What is computed before a template runs stands beside the expression it was computed from.
-/

set_option autoImplicit false

namespace Stencil.Template

inductive BinaryOp where
  | add
  | sub
  | mul
  | div
  | floorDiv
  | mod
  | pow
  deriving DecidableEq, Repr

inductive CompareOp where
  | eq
  | ne
  | lt
  | le
  | gt
  | ge
  | member
  | notMember
  deriving DecidableEq, Repr

inductive Expr where
  | literal (value : Data)
  | folded (value : Data) (source : Expr)
  | name (id : String) (line : Nat)
  | list (items : List Expr)
  | tuple (items : List Expr)
  | dict (entries : List (Expr × Expr))
  | attribute (operand : Expr) (id : String)
  | item (operand index : Expr)
  | slice (start stop stride : Option Expr)
  | call (function : Expr) (args : List Expr) (named : List (String × Expr)) (more moreNamed : Option Expr)
  | filter (operand : Option Expr) (id : String) (args : List Expr) (named : List (String × Expr))
      (more moreNamed : Option Expr) (line : Nat)
  | test (operand : Expr) (id : String) (args : List Expr) (named : List (String × Expr))
      (more moreNamed : Option Expr) (line : Nat)
  | negative (operand : Expr)
  | positive (operand : Expr)
  | not (operand : Expr)
  | and (left right : Expr)
  | or (left right : Expr)
  | binary (op : BinaryOp) (left right : Expr)
  | compare (first : Expr) (rest : List (CompareOp × Expr))
  | concat (items : List Expr)
  | choose (condition positive : Expr) (negative : Option Expr) (line : Nat)

instance : Inhabited Expr := ⟨.literal .null⟩

inductive Target where
  | name (id : String) (line : Nat)
  | attribute (namespaceId id : String)
  | tuple (items : List Target)

inductive Piece where
  | data (s : String)
  | value (e : Expr)
  | fixed (text : String) (source : Option Expr)

structure Params where
  names : List String
  defaults : List Expr

def Params.default? (p : Params) (index : Nat) : Option Expr :=
  if p.names.length ≤ index + p.defaults.length then p.defaults[index + p.defaults.length - p.names.length]?
  else none

inductive Node where
  | output (pieces : List Piece)
  | assign (target : Target) (value : Expr)
  | capture (target : Target) (filter : Option Expr) (body : List Node)
  | forLoop (target : Target) (iterable : Expr) (test : Option Expr) (isRecursive : Bool) (body otherwise : List Node)
  | ifElse (condition : Expr) (body : List Node) (branches : List (Expr × List Node)) (otherwise : List Node)
  | withVars (bindings : List (Target × Expr)) (body : List Node)
  | macroDef (id : String) (params : Params) (body : List Node) (line : Nat)
  | callBlock (params : Params) (call : Expr) (body : List Node) (line : Nat)
  | tagBlock (tag markup : String) (body : List Node)
  | filterBlock (filter : Expr) (body : List Node)
  | autoescape (value : Expr) (settled : Option Bool) (body : List Node)
  | block (id : String) (isScoped isRequired : Bool) (body : List Node) (line : Nat)
  | extendsFrom (template : Expr) (line : Nat)
  | includeFile (template : Expr) (ignoreMissing withContext : Bool)
  | importAs (template : Expr) (id : String) (withContext : Bool)
  | importNames (template : Expr) (names : List (String × String)) (withContext : Bool) (line : Nat)
  | collect

def Expr.kindName : Expr → String
  | .literal _ => "const"
  | .folded _ _ => "const"
  | .name _ _ => "name"
  | .list _ => "list"
  | .tuple _ => "tuple"
  | .dict _ => "dict"
  | .attribute _ _ => "getattr"
  | .item _ _ => "getitem"
  | .slice _ _ _ => "slice"
  | .call _ _ _ _ _ => "call"
  | .filter _ _ _ _ _ _ _ => "filter"
  | .test _ _ _ _ _ _ _ => "test"
  | .negative _ => "neg"
  | .positive _ => "pos"
  | .not _ => "not"
  | .and _ _ => "and"
  | .or _ _ => "or"
  | .binary .add _ _ => "add"
  | .binary .sub _ _ => "sub"
  | .binary .mul _ _ => "mul"
  | .binary .div _ _ => "div"
  | .binary .floorDiv _ _ => "floordiv"
  | .binary .mod _ _ => "mod"
  | .binary .pow _ _ => "pow"
  | .compare _ _ => "compare"
  | .concat _ => "concat"
  | .choose _ _ _ _ => "condexpr"

mutual

def Expr.toTarget? : Expr → Option Target
  | .name id line => some (.name id line)
  | .tuple items => (toTargets? items).map .tuple
  | _ => none

def toTargets? : List Expr → Option (List Target)
  | [] => some []
  | e :: rest => do
    let t ← e.toTarget?
    return t :: (← toTargets? rest)

end

mutual

def Target.names : Target → List (String × Nat)
  | .name id line => [(id, line)]
  | .attribute _ _ => []
  | .tuple items => targetNames items

def targetNames : List Target → List (String × Nat)
  | [] => []
  | t :: rest => t.names ++ targetNames rest

end

mutual

def Target.namespaces : Target → List String
  | .name _ _ => []
  | .attribute namespaceId _ => [namespaceId]
  | .tuple items => targetNamespaces items

def targetNamespaces : List Target → List String
  | [] => []
  | t :: rest => t.namespaces ++ targetNamespaces rest

end

end Stencil.Template
