import Stencil.Table
import Stencil.Yaml.Tag
import Stencil.Yaml.Tokens

/-!
# Documents as graphs

Tokens are read as one document, whose nodes refer to each other by number. An alias stands for the last node that
was given its anchor, and may stand inside that node.
-/

set_option autoImplicit false

namespace Stencil.Yaml

inductive Node where
  | scalar (tag : Tag) (text : String)
  | sequence (tag : Tag) (items : List Nat)
  | mapping (tag : Tag) (entries : List (Nat × Nat)) (taken : Option (List (Nat × Nat)))

instance : Inhabited Node := ⟨.scalar .null ""⟩

structure Reading where
  tokens : List Token
  -- the fault behind the last token
  fault : Option Fault
  version : Version
  depth : Nat := 0
  nodes : Array Node := #[]
  anchors : Table String Nat := {}
  handles : Table String String := {}

abbrev Read := StateT Reading (Except Fault)

namespace Read

def refuse {α : Type} : Read α := throw .invalid

def peek : Read Token := do
  let s ← get
  match s.tokens with
  | t :: _ => return t
  | [] => throw (s.fault.getD .invalid)

def take : Read Token := do
  let t ← peek
  modify fun s => { s with tokens := s.tokens.drop 1 }
  return t

def takeIf (t : Token) : Read Bool := do
  if (← peek) == t then
    discard take
    return true
  else return false

def add (n : Node) : Read Nat := do
  let s ← get
  set { s with nodes := s.nodes.push n }
  return s.nodes.size

def empty : Read Nat := add (.scalar .null "")

def defaultHandles : List (String × String) := [("!", "!"), ("!!", "tag:yaml.org,2002:")]

def fullTag (handle : Option String) (suffix : String) : Read String := do
  match handle with
  | none => return suffix
  | some h =>
    match (← get).handles.find? h with
    | some start => return start ++ suffix
    | none => refuse

def properties : Read (Option String × Option String) := do
  match ← peek with
  | .anchor id =>
    discard take
    match ← peek with
    | .tag handle suffix =>
      discard take
      return (some id, some (← fullTag handle suffix))
    | _ => return (some id, none)
  | .tag handle suffix =>
    discard take
    match ← peek with
    | .anchor id =>
      discard take
      return (some id, some (← fullTag handle suffix))
    | _ => return (none, some (← fullTag handle suffix))
  | _ => return (none, none)

def isGeneral (tag : Option String) : Bool := tag.all (· == "!")

def scalarNode (tag : Option String) (text : String) (isPlain : Bool) : Read Nat := do
  let version := (← get).version
  add (.scalar (match tag with
    | none => if isPlain then Tag.ofPlain version text else .text
    | some "!" => Tag.ofPlain version text
    | some uri => Tag.ofUri uri) text)

def collectionTag (tag : Option String) (default : Tag) : Tag :=
  match tag with
  | none => default
  | some "!" => default
  | some uri => Tag.ofUri uri

def named (anchor : Option String) (id : Nat) : Read Nat := do
  match anchor with
  | some name => modify fun s => { s with anchors := s.anchors.insert name id }
  | none => pure ()
  return id

def deepest : Nat := 487

def collection (anchor : Option String) (start : Node) (rest : Read Node) : Read Nat := do
  let id ← named anchor (← add start)
  let depth := (← get).depth + 1
  if deepest < depth then throw (.mishap .tooDeep)
  modify fun s => { s with depth }
  let whole ← rest
  modify fun s => { s with depth := depth - 1, nodes := s.nodes.setIfInBounds id whole }
  return id

mutual

def node (block loose : Bool) : Nat → Read Nat
  | 0 => refuse
  | n + 1 => do
    match ← peek with
    | .sameAs id =>
      discard take
      match (← get).anchors.find? id with
      | some found => return found
      | none => refuse
    | _ =>
      let (anchor, tag) ← properties
      let sequence (items : Read (List Nat)) : Read Nat :=
        let tag := collectionTag tag .sequence
        collection anchor (.sequence tag []) do return .sequence tag (← items)
      let mapping (entries : Read (List (Nat × Nat))) : Read Nat :=
        let tag := collectionTag tag .mapping
        collection anchor (.mapping tag [] none) do return .mapping tag (← entries) none
      match ← peek with
      | .blockEntry => if loose then sequence (looseItems n) else noContent anchor tag
      | .scalar text isPlain =>
        discard take
        named anchor (← scalarNode tag text isPlain)
      | .flowSequenceStart =>
        discard take
        sequence (flowItems true n)
      | .flowMappingStart =>
        discard take
        mapping (flowEntries true n)
      | .blockSequenceStart =>
        if block then
          discard take
          sequence (blockItems n)
        else noContent anchor tag
      | .blockMappingStart =>
        if block then
          discard take
          mapping (blockEntries n)
        else noContent anchor tag
      | _ => noContent anchor tag

def noContent (anchor tag : Option String) : Read Nat := do
  if anchor.isNone && tag.isNone then refuse
  else named anchor (← scalarNode tag "" (isGeneral tag))

def nodeUnless (stops : List Token) (block loose : Bool) : Nat → Read Nat
  | 0 => refuse
  | n + 1 => do
    if stops.contains (← peek) then empty else node block loose n

def blockItems : Nat → Read (List Nat)
  | 0 => refuse
  | n + 1 => do
    match ← take with
    | .blockEntry =>
      let item ← nodeUnless [.blockEntry, .blockEnd] true false n
      return item :: (← blockItems n)
    | .blockEnd => return []
    | _ => refuse

def looseItems : Nat → Read (List Nat)
  | 0 => refuse
  | n + 1 => do
    if ← takeIf .blockEntry then
      let item ← nodeUnless [.blockEntry, .key, .value, .blockEnd] true false n
      return item :: (← looseItems n)
    else return []

def blockEntries : Nat → Read (List (Nat × Nat))
  | 0 => refuse
  | n + 1 => do
    let stops : List Token := [.key, .value, .blockEnd]
    match ← peek with
    | .key =>
      discard take
      let k ← nodeUnless stops true true n
      let v ← if ← takeIf .value then nodeUnless stops true true n else empty
      return (k, v) :: (← blockEntries n)
    | .value =>
      discard take
      let k ← empty
      let v ← nodeUnless stops true true n
      return (k, v) :: (← blockEntries n)
    | .blockEnd =>
      discard take
      return []
    | _ => refuse

def flowItems (first : Bool) : Nat → Read (List Nat)
  | 0 => refuse
  | n + 1 => do
    if ← takeIf .flowSequenceEnd then return []
    else
      if !first then
        if !(← takeIf .flowEntry) then refuse
      match ← peek with
      | .key =>
        discard take
        let item ← collection none (.mapping .mapping [] none) do
          let k ← nodeUnless [.value, .flowEntry, .flowSequenceEnd] false false n
          let v ← if ← takeIf .value then nodeUnless [.flowEntry, .flowSequenceEnd] false false n else empty
          return .mapping .mapping [(k, v)] none
        return item :: (← flowItems false n)
      | .flowSequenceEnd =>
        discard take
        return []
      | _ =>
        let item ← node false false n
        return item :: (← flowItems false n)

def flowEntries (first : Bool) : Nat → Read (List (Nat × Nat))
  | 0 => refuse
  | n + 1 => do
    if ← takeIf .flowMappingEnd then return []
    else
      if !first then
        if !(← takeIf .flowEntry) then refuse
      match ← peek with
      | .key =>
        discard take
        let k ← nodeUnless [.value, .flowEntry, .flowMappingEnd] false false n
        let v ← if ← takeIf .value then nodeUnless [.flowEntry, .flowMappingEnd] false false n else empty
        return (k, v) :: (← flowEntries false n)
      | .value =>
        if (← get).version == .oneOne then refuse
        discard take
        let k ← empty
        let v ← nodeUnless [.flowEntry, .flowMappingEnd] false false n
        return (k, v) :: (← flowEntries false n)
      | .flowMappingEnd =>
        discard take
        return []
      | _ =>
        let k ← node false false n
        return (k, ← empty) :: (← flowEntries false n)

end

def versionOf (major minor : Nat) : Read Version := do
  if major != 1 then refuse
  else if minor == 1 then return .oneOne
  else if minor == 2 then return .oneTwo
  else throw (.mishap (.failedCheck ("version minor part can only be 2 or 1, got (" ++ toString major ++ ", " ++
    toString minor ++ ")")))

def directives : Nat → Option (Nat × Nat) → Read (Option (Nat × Nat))
  | 0, _ => refuse
  | n + 1, asked => do
    match ← peek with
    | .version major minor =>
      discard take
      if asked.isSome || major != 1 then refuse
      directives n (some (major, minor))
    | .tagPrefix handle start =>
      discard take
      if (← get).handles.has handle then refuse
      modify fun s => { s with handles := s.handles.insert handle start }
      directives n asked
    | .otherDirective =>
      discard take
      directives n asked
    | _ => return asked

def addDefaultHandles : Read Unit :=
  modify fun s => { s with handles := defaultHandles.foldl (fun t e => if t.has e.1 then t else t.insert e.1 e.2) s.handles }

def skipEnds : Nat → Read Unit
  | 0 => return ()
  | n + 1 => do
    if ← takeIf .documentEnd then skipEnds n

def finish (fuel : Nat) : Read Unit := do
  if ← takeIf .documentEnd then
    match ← peek with
    | .streamEnd => return ()
    | _ => refuse
  else
    skipEnds fuel
    if (← peek) != .streamEnd then refuse

def document (fuel : Nat) : Read (Option Nat) := do
  let t ← peek
  if t == .streamEnd then return none
  else if t.isDirective || t == .documentStart then
    let version ← match ← directives fuel none with
      | some (major, minor) => versionOf major minor
      | none => pure .oneTwo
    modify fun s => { s with version }
    addDefaultHandles
    if !(← takeIf .documentStart) then refuse
    let next ← peek
    let stops := next.isDirective || next == .documentStart || next == .documentEnd || next == .streamEnd
    let root ← if stops then empty else node true false fuel
    finish fuel
    return some root
  else
    addDefaultHandles
    let root ← node true false fuel
    finish fuel
    return some root

end Read

structure Document where
  nodes : Array Node
  root : Option Nat
  version : Version

def document? (version : Version) (text : List Char) : Except Fault Document := do
  let (tokens, fault) := tokensOf version text
  let fuel := 4 * tokens.size + 8
  let (root, s) ← (Read.document fuel).run { tokens := tokens.toList, fault, version }
  return ⟨s.nodes, root, s.version⟩

end Stencil.Yaml
