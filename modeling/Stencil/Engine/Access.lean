import Stencil.Engine.Print

/-!
# Members and elements

A point asks for a member first and for an element second, brackets the other way round. What is not there is
missing, and its message tells what was asked of what.
-/

set_option autoImplicit false

namespace Stencil.Engine

def dictMethods : List String :=
  ["clear", "copy", "fromkeys", "get", "items", "keys", "pop", "popitem", "setdefault", "update", "values"]

def listMethods : List String :=
  ["append", "clear", "copy", "count", "extend", "index", "insert", "pop", "remove", "reverse", "sort"]

def tupleMethods : List String := ["count", "index"]

def textMethods : List String :=
  ["capitalize", "casefold", "center", "count", "encode", "endswith", "expandtabs", "find", "format", "format_map",
    "index", "isalnum", "isalpha", "isascii", "isdecimal", "isdigit", "isidentifier", "islower", "isnumeric",
    "isprintable", "isspace", "istitle", "isupper", "join", "ljust", "lower", "lstrip", "maketrans", "partition",
    "removeprefix", "removesuffix", "replace", "rfind", "rindex", "rjust", "rpartition", "rsplit", "rstrip", "split",
    "splitlines", "startswith", "strip", "swapcase", "title", "translate", "upper", "zfill"]

def safeMethods : List String := ["escape", "striptags", "unescape"]

def intMethods : List String := ["as_integer_ratio", "bit_count", "bit_length", "conjugate", "from_bytes", "to_bytes"]

def complexMethods : List String := ["conjugate"]

def bytesMethods : List String :=
  ["capitalize", "center", "count", "decode", "endswith", "expandtabs", "find", "fromhex", "hex", "index", "isalnum",
    "isalpha", "isascii", "isdigit", "islower", "isspace", "istitle", "isupper", "join", "ljust", "lower", "lstrip",
    "maketrans", "partition", "removeprefix", "removesuffix", "replace", "rfind", "rindex", "rjust", "rpartition",
    "rsplit", "rstrip", "split", "splitlines", "startswith", "strip", "swapcase", "title", "translate", "upper",
    "zfill"]

def setMethods : List String :=
  ["add", "clear", "copy", "difference", "difference_update", "discard", "intersection", "intersection_update",
    "isdisjoint", "issubset", "issuperset", "pop", "remove", "symmetric_difference", "symmetric_difference_update",
    "union", "update"]

def floatMethods : List String := ["as_integer_ratio", "conjugate", "fromhex", "hex", "is_integer"]

def typeText (v : Value) : Eval String := do
  match v with
  | .null => return "None"
  | .safe _ => return "markupsafe.Markup object"
  | .date _ => return "datetime.date object"
  | .moment _ => return "datetime.datetime object"
  | .namespace _ => return "jinja2.utils.Namespace object"
  | .loop _ => return "jinja2.runtime.LoopContext object"
  | .macroFn _ => return "jinja2.runtime.Macro object"
  | .module _ => return "jinja2.environment.TemplateModule object"
  | .blocks _ => return "jinja2.runtime.TemplateReference object"
  | .blockRef _ _ _ _ => return "jinja2.runtime.BlockReference object"
  | .missing _ => return "jinja2.runtime." ++ (← freeze v).typeName ++ " object"
  | .dict r => return if (← insists r) then "ruamel.yaml.compat.ordereddict object" else "dict object"
  | v => return (← freeze v).typeName ++ " object"

def soughtOf : Value → Sought
  | .text s => .name s
  | .safe s => .name s
  | .int n => .index n
  | _ => .other

def missingMember (owner key : Value) : Eval Value := do
  let type ← typeText owner
  let shown := (← freeze key).spelled
  let message := match key with
    | .text _ => Text.quoted type ++ " has no attribute " ++ shown
    | .safe _ => Text.quoted type ++ " has no attribute " ++ shown
    | _ => type ++ " has no element " ++ shown
  newMissing (soughtOf key) message

def peekLoop (I : Interp) (r : Ref) : Eval (Option Value) := do
  match ← loop? r with
  | none => return none
  | some l =>
    match l.ahead with
    | some v => return some v
    | none =>
      let v ← I.next l.source
      updateLoop r fun l => { l with ahead := v }
      return v

def natValue (n : Nat) : Value := .int n

def loopMember? (I : Interp) (r : Ref) (l : Loop) (id : String) : Eval (Option Value) := do
  match id with
  | "index" => return some (natValue l.turns)
  | "index0" => return some (.int ((l.turns : Int) - 1))
  | "revindex" => return some (.int ((← loopLength I r : Int) - l.turns + 1))
  | "revindex0" => return some (.int ((← loopLength I r : Int) - l.turns))
  | "first" => return some (.bool (l.turns == 1))
  | "last" => return some (.bool (← peekLoop I r).isNone)
  | "length" => return some (natValue (← loopLength I r))
  | "depth" => return some (natValue (l.depth0 + 1))
  | "depth0" => return some (natValue l.depth0)
  | "previtem" =>
    match l.before with
    | some v => if l.turns == 1 then noPrevious else return some v
    | none => noPrevious
  | "nextitem" =>
    match ← peekLoop I r with
    | some v => return some v
    | none => return some (← newMissing .nothing "there is no next item")
  | "cycle" => return some (.method (.loop r) "cycle")
  | "changed" => return some (.method (.loop r) "changed")
  | _ => return none
where
  noPrevious : Eval (Option Value) := do return some (← newMissing .nothing "there is no previous item")

def macroMember? (m : Macro) (id : String) : Option Value :=
  match id with
  | "name" => some (match m.name with
    | some s => .text s
    | none => .null)
  | "arguments" => some (.tuple (m.params.names.map .text))
  | "caller" => some (.bool (Template.isFree "caller" m.body))
  | "catch_kwargs" => some (.bool (!m.params.names.contains "kwargs" && Template.isFree "kwargs" m.body))
  | "catch_varargs" => some (.bool (!m.params.names.contains "varargs" && Template.isFree "varargs" m.body))
  | _ => none

def parentBlock (id : String) (context : Ref) (stack : List BlockFn) (height : Nat) : Eval Value := do
  if height + 1 < stack.length then return .blockRef id context stack (height + 1)
  else newMissing (.name "super") ("there is no parent block called " ++ Text.quoted id ++ ".")

def methodIn (names : List String) (v : Value) (id : String) : Option Value :=
  if names.contains id then some (.method v id) else none

def member? (I : Interp) (v : Value) (id : String) : Eval (Option Value) := do
  match v with
  | .missing m => failMissing m
  | .dict _ => return methodIn dictMethods v id
  | .list _ => return methodIn listMethods v id
  | .tuple _ => return methodIn tupleMethods v id
  | .text _ => return methodIn textMethods v id
  | .safe _ => return methodIn (textMethods ++ safeMethods) v id
  | .bool b => return intMember v (if b then 1 else 0)
  | .int n => return intMember v n
  | .float _ => return floatMember
  | .nan _ => return floatMember
  | .complex z => return match id with
    | "real" => some (.float z.re)
    | "imag" => some (.float z.im)
    | _ => methodIn complexMethods v id
  | .bytes _ => return methodIn bytesMethods v id
  | .set _ => return methodIn setMethods v id
  | .range a b c => return match id with
    | "start" => some (.int a)
    | "stop" => some (.int b)
    | "step" => some (.int c)
    | _ => methodIn tupleMethods v id
  | .date d => return dateMember d
  | .moment m => return match id with
    | "hour" => some (natValue m.hour)
    | "minute" => some (natValue m.minute)
    | "second" => some (natValue m.second)
    | "microsecond" => some (natValue m.micro)
    | _ => dateMember m.date
  | .namespace r => return findKey? (.text id) (← dictEntries r)
  | .loop r =>
    match ← loop? r with
    | some l => loopMember? I r l id
    | none => return none
  | .macroFn r =>
    match ← object? r with
    | some (.macroFn m) => return macroMember? m id
    | _ => return none
  | .module r =>
    match ← object? r with
    | some (.module m) => return m.exports.find? id
    | _ => return none
  | .blockRef name context stack height =>
    if id == "super" then return some (← parentBlock name context stack height)
    else if id == "name" then return some (.text name)
    else return none
  | _ => return none
where
  intMember (v : Value) (n : Int) : Option Value :=
    match id with
    | "real" => some (.int n)
    | "numerator" => some (.int n)
    | "imag" => some (.int 0)
    | "denominator" => some (.int 1)
    | _ => methodIn intMethods v id
  floatMember : Option Value :=
    match id with
    | "real" => some v
    | "imag" => some (.float 0.0)
    | _ => methodIn floatMethods v id
  dateMember (d : Date) : Option Value :=
    match id with
    | "year" => some (natValue d.year)
    | "month" => some (natValue d.month)
    | "day" => some (natValue d.day)
    | _ => none

def placeIn? (length : Nat) (index : Int) : Option Nat :=
  let i := if index < 0 then index + length else index
  if 0 ≤ i ∧ i < length then some i.toNat else none

def likeText (v : Value) (s : String) : Value :=
  match v with
  | .safe _ => .safe s
  | _ => .text s

def sliceBound (v : Value) : Eval (Option Int) := do
  match v with
  | .null => return none
  | v => return some (← liftOption .wrongType (asIndex? v))

structure Cut where
  start : Int
  stop : Int
  stride : Int

def cutFor (length : Nat) (start stop stride : Value) : Eval Cut := do
  let k := (← sliceBound stride).getD 1
  if k = 0 then fail .badValue
  let n : Int := length
  let (low, high) : Int × Int := if 0 < k then (0, n) else (-1, n - 1)
  let clip (i : Int) : Int := max low (min high (if i < 0 then i + n else i))
  let a := (← sliceBound start).map clip
  let b := (← sliceBound stop).map clip
  return if 0 < k then ⟨a.getD low, b.getD high, k⟩ else ⟨a.getD high, b.getD low, k⟩

def Cut.places (c : Cut) : List Nat :=
  (List.range (rangeLength c.start c.stop c.stride)).map fun (i : Nat) => (c.start + c.stride * i).toNat

def pickPlaces {α : Type} (items : List α) (places : List Nat) : List α :=
  let row := items.toArray
  places.filterMap (row[·]?)

def slicedItems {α : Type} (items : List α) (start stop stride : Value) : Eval (List α) := do
  return pickPlaces items (← cutFor items.length start stop stride).places

def sliceOf (v start stop stride : Value) : Eval Value := do
  match v with
  | .missing m => failMissing m
  | .list r => newList (← slicedItems (← listItems r) start stop stride)
  | .tuple items => return .tuple (← slicedItems items start stop stride)
  | .text s => return .text (String.ofList (← slicedItems s.toList start stop stride))
  | .safe s => return .safe (String.ofList (← slicedItems s.toList start stop stride))
  | .bytes content => return .bytes (← slicedItems content start stop stride)
  | .range a b c =>
    let cut ← cutFor (rangeLength a b c) start stop stride
    return .range (a + c * cut.start) (a + c * cut.stop) (c * cut.stride)
  | _ => fail .wrongType

def isAbsence : Fault → Bool
  | .mishap .wrongType => true
  | .mishap .noKey => true
  | .mishap .noIndex => true
  | .mishap .noAttribute => true
  | _ => false

def spot (key : Value) (length : Nat) : Option Nat := (asIndex? key).bind (placeIn? length)

def keyed? (key : Value) (find : Eval (Option Value)) : Eval (Option Value) :=
  match keyFault? key with
  | none => find
  | some f => if isAbsence f then return none else throw f

def held? (v key : Value) : Eval (Option Value) := do
  match v with
  | .dict r => keyed? key do return findKey? key (← dictEntries r)
  | .list r =>
    let items ← listItems r
    return (spot key items.length).bind (items[·]?)
  | .tuple items => return (spot key items.length).bind (items[·]?)
  | .text s => return (spot key s.length).bind fun i => s.toList[i]?.map fun c => .text (String.singleton c)
  | .safe s => return (spot key s.length).bind fun i => s.toList[i]?.map fun c => .safe (String.singleton c)
  | .bytes content => return (spot key content.length).bind fun i => content[i]?.map fun b => .int b.toNat
  | .range a b c => return (spot key (rangeLength a b c)).map (rangeItem a c)
  | .blocks r =>
    keyed? key do
      match textOf? key with
      | some id => return ((← context r).blocks.find? id).map fun stack => .blockRef id r stack 0
      | none => return none
  | _ => return none

def element? (v key : Value) : Eval (Option Value) :=
  match missingOf? v with
  | some m => failMissing m
  | none =>
    match key with
    | .slice start stop stride =>
      recover (do return some (← sliceOf v start stop stride)) fun f => if isAbsence f then return none else throw f
    | key => held? v key

def getMember (I : Interp) (v : Value) (id : String) : Eval Value := do
  match ← member? I v id with
  | some found => return found
  | none =>
    match ← element? v (.text id) with
    | some found => return found
    | none => missingMember v (.text id)

def memberAt? (I : Interp) (v key : Value) : Eval (Option Value) :=
  match textOf? key with
  | some id => member? I v id
  | none => return none

def getElement (I : Interp) (v key : Value) : Eval Value := do
  match ← element? v key with
  | some found => return found
  | none =>
    match ← memberAt? I v key with
    | some found => return found
    | none => missingMember v key

end Stencil.Engine
