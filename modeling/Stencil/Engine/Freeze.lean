import Stencil.Data.Order
import Stencil.Data.Shown
import Stencil.Engine.Basic

/-!
# Live values as finished data

A value is frozen to be shown or reported. A list or map that contains itself is shown by dots where it occurs again.
Data comes to life the other way round; a list or map that data holds more than once becomes one object.
-/

set_option autoImplicit false

namespace Stencil.Engine

def depthLimit : Nat := 100000

def Builtin.typeName : Builtin → String
  | .lipsum => "function"
  | _ => "type"

def Builtin.shown : Builtin → String
  | .range => "<class 'range'>"
  | .dict => "<class 'dict'>"
  | .namespace => "<class 'jinja2.utils.Namespace'>"
  | .lipsum => "<function generate_lorem_ipsum>"
  | .cycler => "<class 'jinja2.utils.Cycler'>"
  | .joiner => "<class 'jinja2.utils.Joiner'>"

def ViewKind.typeName (kind : ViewKind) (insists : Bool) : String :=
  (if insists then "odict_" else "dict_") ++ (match kind with
    | .keys => "keys"
    | .values => "values"
    | .items => "items")

def rangeItem (start stride : Int) (index : Nat) : Value := .int (start + stride * index)

def rangeItems (start stop stride : Int) : List Value :=
  (List.range (rangeLength start stop stride)).map (rangeItem start stride)

def ViewKind.pick : ViewKind → Value × Value → Value
  | .keys, (k, _) => k
  | .values, (_, v) => v
  | .items, (k, v) => .tuple [k, v]

def viewItems (kind : ViewKind) (entries : List (Value × Value)) : List Value := entries.map kind.pick

def fitsWord (n : Int) : Bool := -9223372036854775808 ≤ n && n ≤ 9223372036854775807

def Iter.typeName : Iter → String
  | .items typeName _ => typeName
  | .growing _ _ => "list_iterator"
  | .backward _ _ => "list_reverseiterator"
  | .entries _ .keys _ _ _ _ => "dict_keyiterator"
  | .entries _ .values _ _ _ _ => "dict_valueiterator"
  | .entries _ .items _ _ _ _ => "dict_itemiterator"
  | .guarded typeName _ _ _ => typeName
  | .counting next stride left =>
    if fitsWord next && fitsWord stride && fitsWord (next + stride * left) then "range_iterator"
    else "longrange_iterator"
  | .turns _ => "LoopContext"
  | .blocks => "iterator"
  | .tested _ _ _ _ _ => "generator"
  | .sifted _ _ _ _ _ _ => "generator"
  | .leaking _ _ => "generator"

def ownSafeMethods : List String :=
  ["capitalize", "casefold", "center", "escape", "expandtabs", "format", "format_map", "join", "ljust", "lower",
    "lstrip", "partition", "removeprefix", "removesuffix", "replace", "rjust", "rpartition", "rsplit", "rstrip",
    "split", "splitlines", "strip", "striptags", "swapcase", "title", "translate", "unescape", "upper", "zfill"]

def methodType (owner : Value) (id : String) : String :=
  match owner with
  | .loop _ => "method"
  | .safe _ => if ownSafeMethods.contains id then "method" else "builtin_function_or_method"
  | _ => "builtin_function_or_method"

def World.lengthOf? (w : World) : Value → Option Nat
  | .list r => some (w.listItems r).length
  | .dict r => some (w.dictEntries r).length
  | .set r => some (w.setItems r).length
  | .view _ r => some (w.dictEntries r).length
  | .tuple items => some items.length
  | .text s => some s.length
  | .safe s => some s.length
  | .bytes content => some content.length
  | .range a b c => some (rangeLength a b c)
  | _ => none

def World.loopLength (w : World) (l : Loop) : Nat := l.length.getD ((w.lengthOf? l.iterable).getD l.turns)

def otherHandle (typeName shown : String) : Data := .handle ⟨.other typeName, shown⟩

def World.loopHandle (w : World) (r : Ref) : Data :=
  match w.objects[r]? with
  | some (.loop l) =>
    .handle ⟨.loop l.turns (l.depth0 + 1),
      "<LoopContext " ++ toString l.turns ++ "/" ++ toString (w.loopLength l) ++ ">"⟩
  | _ => .null

def World.macroHandle (w : World) (r : Ref) : Data := w.read r .null fun
  | .macroFn m =>
    let shown := match m.name with
      | some id => Text.quoted id
      | none => "anonymous"
    .handle ⟨.macroFn m.name, "<Macro " ++ shown ++ ">"⟩
  | _ => .null

def World.moduleHandle (w : World) (r : Ref) : Data := w.read r .null fun
  | .module m =>
    let shown := match m.name with
      | some id => Text.quoted id
      | none => "memory"
    otherHandle "TemplateModule" ("<TemplateModule " ++ shown ++ ">")
  | _ => .null

def World.blocksHandle (w : World) (r : Ref) : Data :=
  let shown := match (w.contexts[r]?).bind Context.name with
    | some id => Text.quoted id
    | none => "None"
  otherHandle "TemplateReference" ("<TemplateReference " ++ shown ++ ">")

def World.iterHandle (w : World) (r : Ref) : Data :=
  let typeName := match w.objects[r]? with
    | some (.iter it) => it.typeName
    | _ => "generator"
  otherHandle typeName ("<" ++ typeName ++ " object>")

def World.freezeIn (w : World) : Nat → List Ref → Value → Data
  | 0, _, _ => .null
  | n + 1, active, v =>
    let entries (r : Ref) : List (Data × Data) :=
      (w.dictEntries r).map fun e => (w.freezeIn n (r :: active) e.1, w.freezeIn n (r :: active) e.2)
    match v with
    | .null => .null
    | .bool b => .bool b
    | .int k => .int k
    | .float x => .float x
    | .nan mark => .nan mark
    | .complex z => .complex z
    | .text s => .text s
    | .safe s => .safe s
    | .bytes content => .bytes content
    | .date d => .date d
    | .moment m => .moment m
    | .tuple items => .tuple (items.map (w.freezeIn n active))
    | .list r =>
      if active.contains r then .again 0 false
      else .list ((w.listItems r).map (w.freezeIn n (r :: active)))
    | .dict r =>
      if active.contains r then .again 0 true
      else if w.insists r then .ordered (entries r)
      else .map (entries r)
    | .set r => .set ((w.setItems r).map (w.freezeIn n active))
    | .range a b c => .range a b c
    | .slice _ _ _ => otherHandle "slice" "slice"
    | .view kind r =>
      let typeName := kind.typeName (w.insists r)
      let items := (viewItems kind (w.dictEntries r)).map (w.freezeIn n active)
      otherHandle typeName (typeName ++ "(" ++ (Data.list items).spelled ++ ")")
    | .missing m => .missing m
    | .namespace r =>
      let shown := if active.contains r then "\x7b...\x7d" else (Data.map (entries r)).spelled
      .handle ⟨.namespace, "<Namespace " ++ shown ++ ">"⟩
    | .loop r => w.loopHandle r
    | .iterator r => w.iterHandle r
    | .macroFn r => w.macroHandle r
    | .module r => w.moduleHandle r
    | .builtin b => otherHandle b.typeName b.shown
    | .method owner id => otherHandle (methodType owner id) ("<built-in method " ++ id ++ ">")
    | .blocks r => w.blocksHandle r
    | .blockRef id _ _ _ => otherHandle "BlockReference" ("<BlockReference " ++ id ++ ">")

def World.freeze (w : World) (v : Value) : Data := w.freezeIn depthLimit [] v

def freeze (v : Value) : Eval Data := do return (← get).freeze v

abbrev Labels := List (Nat × Value)

abbrev Thaw := StateT Labels Eval

def labelled? (label : Nat) : Thaw (Option Value) := do return (← get).lookup label

def setLabel (label : Option Nat) (v : Value) : Thaw Unit :=
  match label with
  | some l => modify ((l, v) :: ·)
  | none => return ()

mutual

def thawAs (label : Option Nat) : Data → Thaw Value
  | .null => return .null
  | .bool b => return .bool b
  | .int n => return .int n
  | .float x => return .float x
  | .nan mark => return .nan mark
  | .complex z => return .complex z
  | .text s => return .text s
  | .safe s => return .safe s
  | .bytes content => return .bytes content
  | .date d => return .date d
  | .moment m => return .moment m
  | .range a b c => return .range a b c
  | .list items => do
    let r ← alloc (.list [])
    setLabel label (.list r)
    setObject r (.list (← thawItems items))
    return .list r
  | .tuple items => do return .tuple (← thawItems items)
  | .set items => do
    let r ← alloc (.set (← thawItems items))
    setLabel label (.set r)
    return .set r
  | .map entries => do
    let r ← alloc (.dict [] false)
    setLabel label (.dict r)
    setEntries r (← thawEntries entries)
    return .dict r
  | .ordered entries => do
    let r ← alloc (.dict [] true)
    setLabel label (.dict r)
    setEntries r (← thawEntries entries)
    return .dict r
  | .missing m => return .missing m
  | .handle _ => return .null
  | .labelled l d => do
    match ← labelled? l with
    | some v => return v
    | none => thawAs (some l) d
  | .again l _ => do return (← labelled? l).getD .null

def thawItems : List Data → Thaw (List Value)
  | [] => return []
  | d :: rest => do
    let v ← thawAs none d
    return v :: (← thawItems rest)

def thawEntries : List (Data × Data) → Thaw (List (Value × Value))
  | [] => return []
  | (k, d) :: rest => do
    let key ← thawAs none k
    let v ← thawAs none d
    return (key, v) :: (← thawEntries rest)

end

def thaw (d : Data) : Eval Value := do return (← (thawAs none d).run []).1

end Stencil.Engine
