import Stencil.Yaml.Node

/-!
# The value of a document

Values are made node by node, each one once, so that what is met twice is one and the same. A collection is there as
soon as its node is met, and is filled later: those at the top first, in the order in which they were met. Inside a
key everything is filled at once, and a collection met inside itself there is nothing.

A mapping may take over the entries of others; its own entries stand behind them and win. Otherwise its keys must
differ. Lists that are keys become tuples.
-/

set_option autoImplicit false

namespace Stencil.Yaml

inductive Part where
  | data (d : Data)
  | tuple (items : List Part)
  | object (id : Nat)
  deriving Inhabited

inductive Collection where
  | list (items : List Part)
  | map (entries : List (Data × Part))
  | ordered (entries : List (Data × Part))
  | set (items : List Data)
  deriving Inhabited

structure Job where
  tag : Tag
  node : Nat
  object : Nat

structure Workshop where
  version : Version
  nodes : Array Node
  made : Array (Option Part)
  -- the nodes whose values are being made
  underway : List Nat := []
  jobs : List Job := []
  objects : Array Collection := #[]
  isDeep : Bool := false
  -- the next mark for a float that is no number
  mark : Nat

abbrev Make := StateT Workshop (Except Fault)

abbrev Entries := List (Nat × Nat)

namespace Make

def refuse {α : Type} : Make α := throw .invalid

def mishap {α : Type} (m : Mishap) : Make α := throw (.mishap m)

def node (id : Nat) : Make Node := do return (← get).nodes.getD id default

def setNode (id : Nat) (n : Node) : Make Unit := modify fun s => { s with nodes := s.nodes.setIfInBounds id n }

def tagOf (id : Nat) : Make Tag := do
  match ← node id with
  | .scalar tag _ => return tag
  | .sequence tag _ => return tag
  | .mapping tag _ _ => return tag

def entriesOf (id : Nat) : Make Entries := do
  match ← node id with
  | .mapping _ entries _ => return entries
  | _ => return []

def setEntries (id : Nat) (entries : Entries) : Make Unit := do
  match ← node id with
  | .mapping tag _ taken => setNode id (.mapping tag entries taken)
  | _ => pure ()

def asTextKey (id : Nat) : Make Unit := do
  match ← node id with
  | .scalar .value text => setNode id (.scalar .text text)
  | .sequence .value items => setNode id (.sequence .text items)
  | .mapping .value entries taken => setNode id (.mapping .text entries taken)
  | _ => pure ()

mutual

def flatten (id : Nat) : Nat → Make Unit
  | 0 => return ()
  | n + 1 => do
    let taken ← flattenFrom id 0 [] n
    if !taken.isEmpty then
      match ← node id with
      | .mapping tag entries _ => setNode id (.mapping tag (taken ++ entries) (some taken))
      | _ => pure ()

def flattenFrom (id index : Nat) (taken : Entries) : Nat → Make Entries
  | 0 => return taken
  | n + 1 => do
    let entries ← entriesOf id
    match entries[index]? with
    | none => return taken
    | some (key, source) =>
      let tag ← tagOf key
      if tag == .merge then
        if !taken.isEmpty then refuse
        setEntries id (entries.eraseIdx index)
        let more ← takenFrom source n
        flattenFrom id index (taken ++ more) n
      else
        if tag == .value then asTextKey key
        flattenFrom id (index + 1) taken n

def takenFrom (source : Nat) : Nat → Make Entries
  | 0 => return []
  | n + 1 => do
    match ← node source with
    | .mapping _ _ _ =>
      flatten source n
      entriesOf source
    | .sequence _ items => return (← takenFromAll items n).reverse.flatten
    | .scalar _ _ => refuse

def takenFromAll : List Nat → Nat → Make (List Entries)
  | _, 0 => return []
  | [], _ + 1 => return []
  | item :: rest, n + 1 => do
    match ← node item with
    | .mapping _ _ _ =>
      flatten item n
      let entries ← entriesOf item
      return entries :: (← takenFromAll rest n)
    | _ => refuse

end

def scalarText (id : Nat) : Nat → Make String
  | 0 => refuse
  | n + 1 => do
    match ← node id with
    | .scalar _ text => return text
    | .sequence _ _ => refuse
    | .mapping _ entries _ =>
      match ← entries.findM? fun e => do return (← tagOf e.1) == .value with
      | some (_, v) => scalarText v n
      | none => refuse

def object (id : Nat) : Make Collection := do return (← get).objects.getD id default

def setObject (id : Nat) (c : Collection) : Make Unit :=
  modify fun s => { s with objects := s.objects.setIfInBounds id c }

def addObject (c : Collection) : Make Nat := do
  let s ← get
  set { s with objects := s.objects.push c }
  return s.objects.size

mutual

def keyData? : Part → Option Data
  | .data d => if d.isKey then some d else none
  | .tuple items => (keyItems? items).map .tuple
  | .object _ => none

def keyItems? : List Part → Option (List Data)
  | [] => some []
  | p :: rest => do return (← keyData? p) :: (← keyItems? rest)

end

def asKey (p : Part) : Make Part := do
  match p with
  | .object id =>
    match ← object id with
    | .list items => return .tuple items
    | _ => refuse
  | p => return p

def hashed (p : Part) : Make Data := do
  match keyData? p with
  | some d => return d
  | none => mishap .wrongType

def isTooLong : Part → Bool
  | .data d => d.hasTooLong
  | _ => false

def addEntry (unique : Bool) (entries : List (Data × Part)) (key : Data) (value : Part) : Make (List (Data × Part)) :=
  match if unique then Data.lookup? key entries else none with
  | some before => if key.hasTooLong || isTooLong value || isTooLong before then mishap .badValue else refuse
  | none => return Data.put key value entries

def onlyEntry (id : Nat) : Make (Nat × Nat) := do
  match ← node id with
  | .mapping _ [entry] _ => return entry
  | _ => refuse

def isCollectionTag (tag : Tag) : Bool := [Tag.sequence, .mapping, .ordered, .pairs, .set].contains tag

def emptyFor : Tag → Collection
  | .mapping => .map []
  | .ordered => .ordered []
  | .set => .set []
  | _ => .list []

def deeply (deep : Bool) (act : Make Part) : Make Part := do
  if deep then
    let before := (← get).isDeep
    modify fun s => { s with isDeep := true }
    let made ← act
    modify fun s => { s with isDeep := before }
    return made
  else act

def deepestKey : Nat := 195

mutual

def value (deep : Bool) (id : Nat) : Nat → Make Part
  | 0 => refuse
  | n + 1 => do
    let s ← get
    if let some part := (s.made[id]?).join then return part
    if s.underway.contains id then
      if deep then modify fun s => { s with isDeep := true }
      return .data .null
    if deepestKey < s.underway.length then mishap .tooDeep
    deeply deep do
      modify fun s => { s with underway := id :: s.underway }
      let part ← newValue id n
      modify fun s => { s with made := s.made.setIfInBounds id (some part), underway := s.underway.drop 1 }
      return part
termination_by structural x => x

def newValue (id : Nat) : Nat → Make Part
  | 0 => refuse
  | n + 1 => do
    let tag ← tagOf id
    if isCollectionTag tag then
      let object ← addObject (emptyFor tag)
      let job : Job := ⟨tag, id, object⟩
      if (← get).isDeep then fill job n
      else modify fun s => { s with jobs := s.jobs ++ [job] }
      return .object object
    else if tag == .timestamp then
      match ← node id with
      | .scalar _ text => StateT.lift ((timestampValue text).map .data)
      | _ => refuse
    else if [Tag.merge, .value, .unknown].contains tag then refuse
    else
      let text ← scalarText id n
      let s ← get
      set { s with mark := s.mark + 1 }
      StateT.lift ((scalarValue s.version s.mark tag text).map .data)
termination_by structural x => x

def fill (job : Job) : Nat → Make Unit
  | 0 => refuse
  | n + 1 => do
    match job.tag with
    | .mapping => setObject job.object (.map (← mappingEntries job.node n))
    | .set => setObject job.object (.set ((← mappingEntries job.node n).map Prod.fst))
    | .ordered =>
      match ← node job.node with
      | .sequence _ items => fillOrdered job.object items n
      | _ => refuse
    | .pairs =>
      match ← node job.node with
      | .sequence _ items => fillPairs job.object items n
      | _ => refuse
    | _ =>
      match ← node job.node with
      | .sequence _ items => setObject job.object (.list (← values items n))
      | _ => refuse
termination_by structural x => x

def values : List Nat → Nat → Make (List Part)
  | _, 0 => refuse
  | [], _ + 1 => return []
  | id :: rest, n + 1 => do
    let first ← value false id n
    return first :: (← values rest n)
termination_by structural _ x => x

def mappingEntries (id : Nat) : Nat → Make (List (Data × Part))
  | 0 => refuse
  | n + 1 => do
    match ← node id with
    | .mapping _ _ _ =>
      flatten id n
      match ← node id with
      | .mapping _ entries (some taken) =>
        let first ← addEntries false [] taken n
        let second ← addEntries false [] entries n
        return second.foldl (fun made e => Data.put e.1 e.2 made) first
      | .mapping _ entries none => addEntries true [] entries n
      | _ => refuse
    | _ => refuse
termination_by structural x => x

def addEntries (unique : Bool) (made : List (Data × Part)) : Entries → Nat → Make (List (Data × Part))
  | _, 0 => refuse
  | [], _ + 1 => return made
  | (k, v) :: rest, n + 1 => do
    let key ← asKey (← value true k n)
    let part ← value false v n
    let made ← addEntry unique made (← hashed key) part
    addEntries unique made rest n
termination_by structural _ x => x

def fillOrdered (object : Nat) : List Nat → Nat → Make Unit
  | _, 0 => refuse
  | [], _ + 1 => return ()
  | item :: rest, n + 1 => do
    let (k, v) ← onlyEntry item
    let key ← hashed (← value false k n)
    match ← Make.object object with
    | .ordered entries =>
      if (Data.lookup? key entries).isSome then mishap (.failedCheck "")
      let part ← value false v n
      setObject object (.ordered (Data.put key part entries))
      fillOrdered object rest n
    | _ => refuse
termination_by structural _ x => x

def fillPairs (object : Nat) : List Nat → Nat → Make Unit
  | _, 0 => refuse
  | [], _ + 1 => return ()
  | item :: rest, n + 1 => do
    let (k, v) ← onlyEntry item
    let first ← value false k n
    let second ← value false v n
    match ← Make.object object with
    | .list items =>
      setObject object (.list (items ++ [.tuple [first, second]]))
      fillPairs object rest n
    | _ => refuse
termination_by structural _ x => x

end

def fillAll (fuel : Nat) : Nat → Make Unit
  | 0 => return ()
  | n + 1 => do
    let jobs := (← get).jobs
    if !jobs.isEmpty then
      modify fun s => { s with jobs := [] }
      jobs.forM (fill · fuel)
      fillAll fuel n

end Make

def Part.objects : Part → List Nat
  | .data _ => []
  | .tuple items => items.attach.flatMap fun ⟨p, _⟩ => p.objects
  | .object id => [id]

def Collection.inner : Collection → List Nat
  | .list items => items.flatMap Part.objects
  | .map entries => entries.flatMap fun e => e.2.objects
  | .ordered entries => entries.flatMap fun e => e.2.objects
  | .set _ => []

def references (objects : Array Collection) (root : Part) : Array Nat :=
  (root.objects ++ objects.toList.flatMap Collection.inner).foldl (fun counts id => counts.modify id (· + 1))
    (Array.replicate objects.size 0)

def finished (objects : Array Collection) (counts : Array Nat) (first : Nat) : Nat → List Nat → Part → Data
  | 0, _, _ => .null
  | _ + 1, _, .data d => d
  | n + 1, inside, .tuple items => .tuple (items.map (finished objects counts first n inside))
  | n + 1, inside, .object id =>
    let inner := finished objects counts first n (id :: inside)
    let (d, isMap) := match objects.getD id default with
      | .list items => (Data.list (items.map inner), false)
      | .map entries => (Data.map (entries.map fun e => (e.1, inner e.2)), true)
      | .ordered entries => (Data.ordered (entries.map fun e => (e.1, inner e.2)), true)
      | .set items => (Data.set items, false)
    if counts.getD id 0 ≤ 1 then d
    else if inside.contains id then .again (first + id) isMap
    else .labelled (first + id) d

structure Session where
  version : Version := .oneTwo
  next : Nat := 2

def read (session : Session) (text : List Char) : Except Fault (Data × Session) := do
  let document ← document? session.version text
  match document.root with
  | none => return (.null, { session with version := document.version })
  | some root =>
    let size := document.nodes.size
    let fuel := 8 * (text.length + size) + 16
    let start : Workshop :=
      { version := document.version, nodes := document.nodes, made := Array.replicate size none, mark := session.next }
    let (part, s) ← (do
      let part ← Make.value false root fuel
      Make.fillAll fuel (size + 1)
      return part : Make Part).run start
    let counts := references s.objects part
    -- what refers to the root from inside refers to it as to any other collection
    let data := match finished s.objects counts s.mark (size + s.objects.size + 2) [] part with
      | .labelled _ _ => match part with
        | .object id =>
          let inner := finished s.objects counts s.mark (size + s.objects.size + 2) []
          match s.objects.getD id default with
          | .list items => .list (items.map inner)
          | .map entries => .map (entries.map fun e => (e.1, inner e.2))
          | .ordered entries => .ordered (entries.map fun e => (e.1, inner e.2))
          | .set items => .set items
        | _ => .null
      | d => d
    return (data, { version := document.version, next := s.mark + s.objects.size })

end Stencil.Yaml
