import Stencil.Number.Complex
import Stencil.Number.Read
import Stencil.Text.Quoted

/-!
# Finished data

`Data` is the tree that configuration files, data files and recorded variables consist of: it holds nothing that
can still change. Live objects of a run, such as loops and functions, appear in it only as handles. A list or map
that data holds more than once carries a label, so that it becomes one object when the data is brought to life.
-/

set_option autoImplicit false

namespace Stencil

structure Date where
  year : Nat
  month : Nat
  day : Nat
  deriving DecidableEq, Repr

structure Zone where
  minutes : Int
  name : String
  deriving DecidableEq, Repr

structure Moment where
  date : Date
  hour : Nat
  minute : Nat
  second : Nat
  micro : Nat
  zone : Option Zone
  deriving DecidableEq, Repr

inductive Sought where
  | nothing
  | name (s : String)
  | index (n : Int)
  | other
  deriving DecidableEq, Repr

structure Missing where
  strict : Bool
  sought : Sought
  message : String
  mark : Nat := 0
  deriving DecidableEq, Repr

inductive HandleKind where
  | loop (index depth : Nat)
  | macroFn (name : Option String)
  | namespace
  | other (typeName : String)
  deriving DecidableEq, Repr

structure Handle where
  kind : HandleKind
  shown : String
  deriving DecidableEq, Repr

inductive Data where
  | null
  | bool (b : Bool)
  | int (n : Int)
  | float (x : Float)
  | nan (mark : Nat)
  | complex (z : Number.Complex)
  | text (s : String)
  | safe (s : String)
  | bytes (content : List UInt8)
  | date (d : Date)
  | moment (m : Moment)
  | range (start stop stride : Int)
  | list (items : List Data)
  | tuple (items : List Data)
  | set (items : List Data)
  | map (entries : List (Data × Data))
  -- a map that insists on the order of its entries
  | ordered (entries : List (Data × Data))
  | missing (m : Missing)
  | handle (h : Handle)
  | labelled (label : Nat) (d : Data)
  -- the labelled list or map in which this stands
  | again (label : Nat) (isMap : Bool)
  deriving Inhabited

namespace Data

def asText? : Data → Option String
  | .text s => some s
  | .safe s => some s
  | _ => none

def typeName : Data → String
  | .null => "NoneType"
  | .bool _ => "bool"
  | .int _ => "int"
  | .float _ => "float"
  | .nan _ => "float"
  | .complex _ => "complex"
  | .text _ => "str"
  | .safe _ => "Markup"
  | .bytes _ => "bytes"
  | .date _ => "date"
  | .moment _ => "datetime"
  | .range _ _ _ => "range"
  | .list _ => "list"
  | .tuple _ => "tuple"
  | .set _ => "set"
  | .map _ => "dict"
  | .ordered _ => "ordereddict"
  | .missing m => if m.strict then "StrictUndefined" else "Undefined"
  | .handle h => match h.kind with
    | .loop _ _ => "LoopContext"
    | .macroFn _ => "Macro"
    | .namespace => "Namespace"
    | .other t => t
  | .labelled _ d => d.typeName
  | .again _ isMap => if isMap then "dict" else "list"

def dots (isMap : Bool) : Data :=
  .handle ⟨.other (if isMap then "dict" else "list"), if isMap then "\x7b...\x7d" else "[...]"⟩

mutual

def plain : Data → Data
  | .labelled _ d => d.plain
  | .again _ isMap => dots isMap
  | .list items => .list (plainItems items)
  | .tuple items => .tuple (plainItems items)
  | .set items => .set (plainItems items)
  | .map entries => .map (plainEntries entries)
  | .ordered entries => .ordered (plainEntries entries)
  | d => d

def plainItems : List Data → List Data
  | [] => []
  | d :: rest => d.plain :: plainItems rest

def plainEntries : List (Data × Data) → List (Data × Data)
  | [] => []
  | (k, d) :: rest => (k.plain, d.plain) :: plainEntries rest

end

mutual

def isCyclic : Data → Bool
  | .labelled _ d => d.isCyclic
  | .again _ _ => true
  | .list items => anyCyclic items
  | .tuple items => anyCyclic items
  | .set items => anyCyclic items
  | .map entries => anyEntryCyclic entries
  | .ordered entries => anyEntryCyclic entries
  | _ => false

def anyCyclic : List Data → Bool
  | [] => false
  | d :: rest => d.isCyclic || anyCyclic rest

def anyEntryCyclic : List (Data × Data) → Bool
  | [] => false
  | (k, d) :: rest => k.isCyclic || d.isCyclic || anyEntryCyclic rest

end

def longestNumber : Nat := Number.pow10 Number.digitLimit

def isTooLong (n : Int) : Bool := n.natAbs.log2 > 14000 && longestNumber ≤ n.natAbs

mutual

def hasTooLong : Data → Bool
  | .int n => isTooLong n
  | .range a b c => isTooLong a || isTooLong b || isTooLong c
  | .labelled _ d => d.hasTooLong
  | .list items => anyTooLong items
  | .tuple items => anyTooLong items
  | .set items => anyTooLong items
  | .map entries => anyEntryTooLong entries
  | .ordered entries => anyEntryTooLong entries
  | _ => false

def anyTooLong : List Data → Bool
  | [] => false
  | d :: rest => d.hasTooLong || anyTooLong rest

def anyEntryTooLong : List (Data × Data) → Bool
  | [] => false
  | (k, d) :: rest => k.hasTooLong || d.hasTooLong || anyEntryTooLong rest

end

end Data

end Stencil
