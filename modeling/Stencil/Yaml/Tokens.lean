import Stencil.Text.Utf8
import Stencil.Yaml.Scalar

/-!
# Cutting a text into tokens

The indentation of a block is closed by tokens of its own. Whether something is a key is known only when its colon
is met, so the places where a key could have started are remembered, one for each level of brackets, and the mark of
the key is put in front of it afterwards. A key must stand on one line and within 1024 characters.
-/

set_option autoImplicit false

namespace Stencil.Yaml

structure KeyPlace where
  level : Nat
  token : Nat
  isRequired : Bool
  index : Nat
  line : Nat
  column : Nat

structure State where
  cursor : Cursor
  version : Version
  tokens : Array Token := #[]
  -- the indentation of the innermost block, and those around it
  indent : Int := -1
  indents : List Int := []
  keyAllowed : Bool := true
  keys : List KeyPlace := []
  -- the open brackets, innermost first
  brackets : List Char := []
  isDone : Bool := false

abbrev Scan := StateT State (Except Fault)

namespace Scan

def refuse {α : Type} : Scan α := throw .invalid

def cursor : Scan Cursor := do return (← get).cursor

def setCursor (c : Cursor) : Scan Unit := modify fun s => { s with cursor := c }

def level : Scan Nat := do return (← get).brackets.length

def inFlow : Scan Bool := do return !(← get).brackets.isEmpty

def emit (t : Token) : Scan Unit := modify fun s => { s with tokens := s.tokens.push t }

def emitAt (place : Nat) (t : Token) : Scan Unit :=
  modify fun s => { s with tokens := s.tokens.insertIdxIfInBounds place t }

def allowKey (b : Bool) : Scan Unit := modify fun s => { s with keyAllowed := b }

def forward (n : Nat) : Scan Unit := modify fun s => { s with cursor := s.cursor.forward n }

def lift {α : Type} (f : Cursor → Except Fault (α × Cursor)) : Scan α := do
  let (a, c) ← StateT.lift (f (← cursor))
  setCursor c
  return a

def dropStaleKeys : Scan Unit := do
  let s ← get
  let isStale (k : KeyPlace) : Bool := k.line != s.cursor.line || 1024 < s.cursor.index - k.index
  if s.keys.any fun k => isStale k && k.isRequired then refuse
  set { s with keys := s.keys.filter (!isStale ·) }

def dropKey : Scan Unit := do
  let s ← get
  let here := s.brackets.length
  if s.keys.any fun k => k.level == here && k.isRequired then refuse
  set { s with keys := s.keys.filter (·.level != here) }

def saveKey : Scan Unit := do
  let s ← get
  if s.keyAllowed then
    dropKey
    let c := s.cursor
    let isRequired := s.brackets.isEmpty && s.indent == c.column
    let place : KeyPlace := ⟨s.brackets.length, s.tokens.size, isRequired, c.index, c.line, c.column⟩
    modify fun s => { s with keys := place :: s.keys }

def unwindFrom : Int → List Int → Int → Nat → Int × List Int × Nat
  | indent, [], column, closed => if column < indent then (-1, [], closed + 1) else (indent, [], closed)
  | indent, outer :: rest, column, closed =>
    if column < indent then unwindFrom outer rest column (closed + 1) else (indent, outer :: rest, closed)

def unwind (column : Int) : Scan Unit := do
  let s ← get
  if s.brackets.isEmpty then
    let (indent, indents, closed) := unwindFrom s.indent s.indents column 0
    set { s with indent, indents, tokens := s.tokens ++ Array.replicate closed Token.blockEnd }

def deepen (column : Nat) : Scan Bool := do
  let s ← get
  if s.indent < column then
    set { s with indents := s.indent :: s.indents, indent := (column : Int) }
    return true
  else return false

def skipSpace : Nat → Scan Unit
  | 0 => return ()
  | n + 1 => do
    let flow ← inFlow
    let c := (← cursor).skip fun ch => ch == ' ' || (flow && ch == '\t')
    let c := if c.peek == '#' then c.skip (!endsLine ·) else c
    if isBreak c.peek then
      setCursor c.takeBreak.2
      if !flow then allowKey true
      skipSpace n
    else setCursor c

def closeAll : Scan Unit := do
  unwind (-1)
  dropKey
  allowKey false

def isNameChar (c : Char) : Bool := c.isAlphanum || c == '-' || c == '_'

def isDirectiveChar (c : Char) : Bool := isNameChar c || c == ':' || c == '.'

def scanNumber (c : Cursor) : Except Fault (Nat × Cursor) :=
  let (digits, c) := c.span Char.isDigit
  if digits.isEmpty then .error .invalid
  else .ok (digits.foldl (fun n d => n * 10 + (d.toNat - '0'.toNat)) 0, c)

def scanVersion (c : Cursor) : Except Fault (Token × Cursor) := do
  let (major, c) ← scanNumber (c.skip (· == ' '))
  if c.peek != '.' then throw .invalid
  let (minor, c) ← scanNumber c.step
  if !endsItem c.peek then throw .invalid
  return (.version major minor, c)

def scanHandle (c : Cursor) : Except Fault (String × Cursor) := do
  if c.peek != '!' then throw .invalid
  let (id, rest) := c.step.span isNameChar
  if c.peekAt 1 == ' ' then return ("!", c.step)
  else if rest.peek == '!' then return (String.ofList (['!'] ++ id ++ ['!']), rest.step)
  else throw .invalid

def isUriChar (version : Version) (c : Char) : Bool :=
  c.isAlphanum || "-;/?:@&=+$,_.!~*'()[]%".toList.contains c || (c == '#' && version != .oneOne)

def uriBytes : Nat → List Char → Except Fault (List UInt8 × List Char)
  | n + 1, '%' :: rest =>
    match hexCode? (rest.take 2) with
    | some code =>
      if rest.length < 2 then .error .invalid
      else do
        let (bytes, after) ← uriBytes n (rest.drop 2)
        return (UInt8.ofNat code :: bytes, after)
    | none => .error .invalid
  | _, cs => .ok ([], cs)

def checkEscapes : Nat → List Char → Except Fault Unit
  | n + 1, '%' :: rest => do
    let (bytes, after) ← uriBytes (rest.length + 1) ('%' :: rest)
    match Text.decodeUtf8 bytes with
    | .ok _ => checkEscapes n after
    | .error _ => throw .invalid
  | n + 1, _ :: rest => checkEscapes n rest
  | _, _ => .ok ()

def scanUri (version : Version) (c : Cursor) : Except Fault (List Char × Cursor) := do
  let (uri, c) := c.span (isUriChar version)
  if uri.isEmpty then throw .invalid
  checkEscapes (uri.length + 1) uri
  return (uri, c)

def decodeUri : List Char → List Char
  | '%' :: a :: b :: rest => Char.ofNat ((hexCode? [a, b]).getD 0) :: decodeUri rest
  | c :: rest => c :: decodeUri rest
  | [] => []

def scanTagPrefix (version : Version) (c : Cursor) : Except Fault (Token × Cursor) := do
  let (handle, c) ← scanHandle (c.skip (· == ' '))
  if c.peek != ' ' then throw .invalid
  let (start, c) ← scanUri version (c.skip (· == ' '))
  if !endsItem c.peek then throw .invalid
  return (.tagPrefix handle (String.ofList start), c)

def scanDirective (version : Version) (c : Cursor) : Except Fault (Token × Cursor) := do
  let (name, c) := c.step.span isDirectiveChar
  if name.isEmpty || !endsItem c.peek then throw .invalid
  let (token, c) ← match String.ofList name with
    | "YAML" => scanVersion c
    | "TAG" => scanTagPrefix version c
    | _ => pure (.otherDirective, c.skip (!endsLine ·))
  let c := c.skip (· == ' ')
  let c := if c.peek == '#' then c.skip (!endsLine ·) else c
  if !endsLine c.peek then throw .invalid
  return (token, c.takeBreak.2)

def isAnchorChar (c : Char) : Bool :=
  let n := c.toNat
  let isNamed := (0x21 ≤ n && n ≤ 0x7E) || (0xA0 ≤ n && n ≤ 0xFFFD && c != '\ufeff') || 0x10000 ≤ n
  isNamed && !(",[]".toList.contains c) && c != '\x7b' && c != '\x7d'

def endsAnchor (c : Char) : Bool :=
  endsItem c || c == '\t' || "?:,[]%@".toList.contains c || c == '\x7b' || c == '\x7d' || c == '\x60'

def scanAnchorName (c : Cursor) : Except Fault (String × Cursor) :=
  let (id, c) := c.step.span isAnchorChar
  if id.isEmpty || !endsAnchor c.peek then .error .invalid else .ok (String.ofList id, c)

def hasHandle (c : Cursor) : Bool := (c.step.chars.takeWhile (!endsItem ·)).contains '!'

def scanTag (version : Version) (c : Cursor) : Except Fault (Token × Cursor) := do
  let (token, c) ← do
    if c.peekAt 1 == '<' then
      let (uri, c) ← scanUri version (c.forward 2)
      if c.peek != '>' then throw Fault.invalid
      pure (Token.tag none (String.ofList (decodeUri uri)), c.step)
    else if endsWord (c.peekAt 1) then pure (Token.tag none "!", c.step)
    else
      let (handle, c) ← if hasHandle c then scanHandle c else pure ("!", c.step)
      let (suffix, c) ← scanUri version c
      pure (Token.tag (some handle) (String.ofList (decodeUri suffix)), c)
  if !endsItem c.peek then throw .invalid
  return (token, c)

def fetchStreamEnd : Scan Unit := do
  closeAll
  emit .streamEnd
  modify fun s => { s with keys := [], isDone := true }

def fetchDirective : Scan Unit := do
  closeAll
  emit (← lift (scanDirective (← get).version))

def askedVersion (directives : List Token) : Version :=
  if directives.any (· == .version 1 1) then .oneOne else .oneTwo

def fetchSeparator (t : Token) : Scan Unit := do
  closeAll
  forward 3
  let before := (← get).tokens.toList
  if t == .documentStart && before.all Token.isDirective then
    modify fun s => { s with version := askedVersion before }
  emit t

def fetchOpening (bracket : Char) (t : Token) : Scan Unit := do
  saveKey
  modify fun s => { s with brackets := bracket :: s.brackets }
  allowKey true
  forward 1
  emit t

def fetchClosing (t : Token) : Scan Unit := do
  dropKey
  modify fun s => { s with brackets := s.brackets.drop 1 }
  allowKey false
  forward 1
  emit t

def fetchFlowEntry : Scan Unit := do
  allowKey true
  dropKey
  forward 1
  emit .flowEntry

def openBlock (t : Token) : Scan Unit := do
  if !(← get).keyAllowed then refuse
  if ← deepen (← cursor).column then emit t

def fetchBlockEntry : Scan Unit := do
  if !(← inFlow) then openBlock .blockSequenceStart
  allowKey true
  dropKey
  forward 1
  emit .blockEntry

def fetchKey : Scan Unit := do
  let flow ← inFlow
  if !flow then openBlock .blockMappingStart
  allowKey (!flow)
  dropKey
  forward 1
  emit .key

def fetchValue : Scan Unit := do
  let flow ← inFlow
  let here ← level
  match (← get).keys.find? (·.level == here) with
  | some k =>
    modify fun s => { s with keys := s.keys.filter (·.level != here) }
    emitAt k.token .key
    if !flow then
      if ← deepen k.column then emitAt k.token .blockMappingStart
    allowKey false
  | none =>
    if !flow then openBlock .blockMappingStart
    allowKey (!flow)
    dropKey
  forward 1
  emit .value

def fetchNamed (scan : Cursor → Except Fault (Token × Cursor)) : Scan Unit := do
  saveKey
  allowKey false
  emit (← lift scan)

def fetchBlockScalar : Scan Unit := do
  allowKey true
  dropKey
  let outer := (← get).indent
  emit (.scalar (← lift (scanBlock outer)) false)

def fetchPlain : Scan Unit := do
  saveKey
  allowKey false
  let s ← get
  let (read, c, atStart) :=
    scanPlain s.version (!s.brackets.isEmpty) (s.indent + 1) (s.cursor.chars.length + 1) s.cursor [] [] false
  setCursor c
  if atStart then allowKey true
  emit (.scalar (String.ofList read) true)

def isValueMark (s : State) (pending : Bool) : Bool :=
  let spaced := endsWord (s.cursor.peekAt 1)
  match s.brackets with
  | [] => spaced
  | bracket :: _ =>
    if s.version == .oneOne then true
    else if bracket == '[' || (pending && s.tokens.back? == some .value) then spaced
    else true

def startsNoPlain (c : Char) : Bool :=
  endsWord c || isBreak c || "-?:,[]#&*!|>'\"%@".toList.contains c || c == '\x7b' || c == '\x7d' || c == '\x60'

def isPlainStart (s : State) : Bool :=
  let ch := s.cursor.peek
  let next := s.cursor.peekAt 1
  !startsNoPlain ch || (ch == '-' && !endsWord next) ||
    (ch == ':' && s.version != .oneOne && !s.brackets.isEmpty && !isBlank next) ||
    ((ch == '?' || ch == ':') && s.brackets.isEmpty && !endsWord next)

def fetchHere (pending : Bool) : Scan Unit := do
  let s ← get
  let c := s.cursor
  let ch := c.peek
  let flow := !s.brackets.isEmpty
  let spaced := endsWord (c.peekAt 1)
  if c.chars.isEmpty then fetchStreamEnd
  else if ch == '%' && c.column == 0 then fetchDirective
  else if c.column == 0 && c.atSeparator then fetchSeparator (if ch == '-' then .documentStart else .documentEnd)
  else if ch == '[' then fetchOpening '[' .flowSequenceStart
  else if ch == '\x7b' then fetchOpening '\x7b' .flowMappingStart
  else if ch == ']' then fetchClosing .flowSequenceEnd
  else if ch == '\x7d' then fetchClosing .flowMappingEnd
  else if ch == ',' then fetchFlowEntry
  else if ch == '-' && spaced then fetchBlockEntry
  else if ch == '?' && (flow || spaced) then fetchKey
  else if ch == ':' && isValueMark s pending then fetchValue
  else if ch == '*' then fetchNamed fun c => do
    let (id, c) ← scanAnchorName c
    return (.sameAs id, c)
  else if ch == '&' then fetchNamed fun c => do
    let (id, c) ← scanAnchorName c
    return (.anchor id, c)
  else if ch == '!' then fetchNamed (scanTag s.version)
  else if (ch == '|' || ch == '>') && !flow then fetchBlockScalar
  else if ch == '\'' || ch == '"' then fetchNamed fun c => do
    let (text, c) ← scanQuoted (ch == '"') c
    return (.scalar text false, c)
  else if isPlainStart s then fetchPlain
  else refuse

def fetch : Scan Unit := do
  dropStaleKeys
  let pending := !(← get).keys.isEmpty
  skipSpace ((← cursor).chars.length + 1)
  dropStaleKeys
  unwind (← cursor).column
  fetchHere pending

end Scan

def fetchAll : Nat → State → Array Token × Option Fault
  | 0, s => (s.tokens, some .invalid)
  | n + 1, s =>
    if s.isDone then (s.tokens, none)
    else
      match Scan.fetch.run s with
      | .ok ((), next) => fetchAll n next
      | .error f => (s.tokens, some f)

def tokensOf (version : Version) (text : List Char) : Array Token × Option Fault :=
  if !text.all isAllowed then (#[], some .invalid)
  else
    let start : Cursor := { chars := text }
    let start := if start.peek == '\ufeff' then start.step else start
    fetchAll (text.length + 2) { cursor := start, version }

end Stencil.Yaml
