import Stencil.Yaml.Cursor
import Stencil.Yaml.Token

/-!
# Scalars

Plain scalars end where something else could start, quoted ones at their quote, and block scalars where the
indentation ends. Lines are folded: a single break becomes a blank, further ones stay.
-/

set_option autoImplicit false

namespace Stencil.Yaml

def folded (first : List Char) (more : List Char) : List Char :=
  if first != ['\n'] then first ++ more
  else if more.isEmpty then [' '] else more

section Plain

def isFlowMark (c : Char) : Bool := ",:?[]".toList.contains c || c == '\x7b' || c == '\x7d'

def plainLength (version : Version) (inFlow : Bool) : List Char → Nat
  | [] => 0
  | c :: rest =>
    let next := rest.headD null
    if c == ':' && !endsWord next then plainLength version inFlow rest + 1
    else if c == '?' && version != .oneOne then plainLength version inFlow rest + 1
    else if endsWord c || c == ':' || (inFlow && isFlowMark c) then 0
    else plainLength version inFlow rest + 1

def plainBreaks : Nat → Cursor → List Char → Option (List Char) × Cursor
  | 0, c, _ => (none, c)
  | n + 1, c, breaks =>
    if c.peek == ' ' then plainBreaks n c.step breaks
    else if isBreak c.peek then
      let (br, c) := c.takeBreak
      if c.atSeparator then (none, c) else plainBreaks n c (breaks ++ br)
    else (some breaks, c)

def plainSpaces (c : Cursor) : List Char × Cursor × Bool :=
  let (blanks, c) := c.span (· == ' ')
  if isBreak c.peek then
    let (first, c) := c.takeBreak
    if c.atSeparator then ([], c, true)
    else
      match plainBreaks (c.chars.length + 1) c [] with
      | (some more, c) => (folded first more, c, true)
      | (none, c) => ([], c, true)
  else (blanks, c, false)

def scanPlain (version : Version) (inFlow : Bool) (indent : Int) :
    Nat → Cursor → List Char → List Char → Bool → List Char × Cursor × Bool
  | 0, c, _, read, atStart => (read, c, atStart)
  | n + 1, c, spaces, read, atStart =>
    let length := if c.peek == '#' then 0 else plainLength version inFlow c.chars
    if length = 0 then (read, c, atStart)
    else
      let read := read ++ spaces ++ c.chars.take length
      let (spaces, c, atStart) := plainSpaces (c.forward length)
      if spaces.isEmpty || c.peek == '#' || (!inFlow && (c.column : Int) < indent) then (read, c, atStart)
      else scanPlain version inFlow indent n c spaces read atStart

end Plain

section Quoted

def plainEscape? (c : Char) : Option Char :=
  match c with
  | '0' => some '\x00'
  | 'a' => some '\x07'
  | 'b' => some '\x08'
  | 't' => some '\t'
  | '\t' => some '\t'
  | 'n' => some '\n'
  | 'v' => some '\x0b'
  | 'f' => some '\x0c'
  | 'r' => some '\r'
  | 'e' => some '\x1b'
  | ' ' => some ' '
  | '"' => some '"'
  | '/' => some '/'
  | '\\' => some '\\'
  | 'N' => some '\x85'
  | '_' => some '\xa0'
  | 'L' => some '\u2028'
  | 'P' => some '\u2029'
  | _ => none

def escapeWidth? (c : Char) : Option Nat :=
  match c with
  | 'x' => some 2
  | 'u' => some 4
  | 'U' => some 8
  | _ => none

def hexDigit? (c : Char) : Option Nat :=
  if c.isDigit then some (c.toNat - '0'.toNat)
  else if 'a' ≤ c ∧ c ≤ 'f' then some (c.toNat - 'a'.toNat + 10)
  else if 'A' ≤ c ∧ c ≤ 'F' then some (c.toNat - 'A'.toNat + 10)
  else none

def hexCode? (digits : List Char) : Option Nat :=
  digits.foldlM (fun n c => (hexDigit? c).map (n * 16 + ·)) 0

def codeChar (n : Nat) : Except Fault Char :=
  if n < 0x110000 then .ok (if n.isValidChar then Char.ofNat n else '\ufffd')
  else if n < 0x80000000 then .error (.mishap .badValue)
  else .error (.mishap .tooLarge)

def lowHalf? (c : Cursor) : Option Nat :=
  match c.chars with
  | '\\' :: 'u' :: rest =>
    match hexCode? (rest.take 4) with
    | some n => if rest.length < 4 then none else if 0xDC00 ≤ n ∧ n < 0xE000 then some n else none
    | none => none
  | _ => none

def scanCode (width : Nat) (c : Cursor) : Except Fault (Char × Cursor) :=
  match hexCode? (c.chars.take width) with
  | none => .error .invalid
  | some n =>
    if c.chars.length < width then .error .invalid
    else
      let c := c.forward width
      match if 0xD800 ≤ n ∧ n < 0xDC00 then lowHalf? c else none with
      | some low => do return (← codeChar (0x10000 + (n - 0xD800) * 0x400 + (low - 0xDC00)), c.forward 6)
      | none => do return (← codeChar n, c)

def quotedBreaks : Nat → Cursor → List Char → Except Fault (List Char × Cursor)
  | 0, c, breaks => .ok (breaks, c)
  | n + 1, c, breaks =>
    if c.atSeparator then .error .invalid
    else
      let c := c.skip isBlank
      if isBreak c.peek then
        let (br, c) := c.takeBreak
        quotedBreaks n c (breaks ++ br)
      else .ok (breaks, c)

def stopsQuoted (c : Char) : Bool := endsWord c || isBreak c || c == '\'' || c == '"' || c == '\\'

def scanEscape (c : Cursor) : Except Fault (List Char × Cursor) :=
  match plainEscape? c.peek, escapeWidth? c.peek with
  | some ch, _ => if c.chars.isEmpty then .error .invalid else .ok ([ch], c.step)
  | none, some width => do
    let (ch, c) ← scanCode width c.step
    return ([ch], c)
  | none, none =>
    if isBreak c.peek then quotedBreaks (c.chars.length + 1) c.takeBreak.2 [] else .error .invalid

def quotedRun (double : Bool) : Nat → Cursor → List Char → Except Fault (List Char × Cursor)
  | 0, c, read => .ok (read, c)
  | n + 1, c, read =>
    let (run, c) := c.span (!stopsQuoted ·)
    let read := read ++ run
    let ch := c.peek
    if !double && ch == '\'' && c.peekAt 1 == '\'' then quotedRun double n (c.forward 2) (read ++ ['\''])
    else if (double && ch == '\'') || (!double && (ch == '"' || ch == '\\')) then quotedRun double n c.step (read ++ [ch])
    else if double && ch == '\\' then do
      let (chars, c) ← scanEscape c.step
      quotedRun double n c (read ++ chars)
    else .ok (read, c)

def quotedSpaces (c : Cursor) : Except Fault (List Char × Cursor) :=
  let (blanks, c) := c.span isBlank
  if c.chars.isEmpty then .error .invalid
  else if isBreak c.peek then do
    let (first, c) := c.takeBreak
    let (more, c) ← quotedBreaks (c.chars.length + 1) c []
    return (folded first more, c)
  else .ok (blanks, c)

def quotedRest (double : Bool) (quote : Char) : Nat → Cursor → List Char → Except Fault (List Char × Cursor)
  | 0, _, _ => .error .invalid
  | n + 1, c, read =>
    if c.peek == quote then .ok (read, c.step)
    else do
      let (spaces, c) ← quotedSpaces c
      let (run, c) ← quotedRun double (c.chars.length + 1) c []
      quotedRest double quote n c (read ++ spaces ++ run)

def scanQuoted (double : Bool) (c : Cursor) : Except Fault (String × Cursor) := do
  let quote := c.peek
  let (run, c) ← quotedRun double (c.chars.length + 1) c.step []
  let (read, c) ← quotedRest double quote (c.chars.length + 2) c run
  return (String.ofList read, c)

end Quoted

section Block

inductive Chomping where
  | clip
  | strip
  | keep
  deriving DecidableEq, Repr

def chomping? (c : Char) : Option Chomping :=
  if c == '+' then some .keep else if c == '-' then some .strip else none

def takeIncrement (c : Cursor) : Except Fault (Option Nat × Cursor) :=
  let ch := c.peek
  if ch == '0' then .error .invalid
  else if ch.isDigit then .ok (some (ch.toNat - '0'.toNat), c.step)
  else .ok (none, c)

def takeChomping (c : Cursor) : Option Chomping × Cursor :=
  match chomping? c.peek with
  | some k => (some k, c.step)
  | none => (none, c)

def scanHeader (c : Cursor) : Except Fault ((Chomping × Option Nat) × Cursor) := do
  let (first, c) := takeChomping c
  let (increment, c) ← takeIncrement c
  let (second, c) := if first.isNone && increment.isSome then takeChomping c else (none, c)
  if !endsItem c.peek then throw .invalid
  let c := c.skip (· == ' ')
  let c := if c.peek == '#' then c.skip (!endsLine ·) else c
  if !endsLine c.peek then throw .invalid
  return (((first.orElse fun _ => second).getD .clip, increment), c.takeBreak.2)

def leadingBreaks : Nat → Cursor → List Char → Nat → Option Nat → List Char × Nat × Option Nat × Cursor
  | 0, c, breaks, deepest, first => (breaks, deepest, first, c)
  | n + 1, c, breaks, deepest, first =>
    if c.peek == ' ' then
      let c := c.step
      leadingBreaks n c breaks (max deepest c.column) first
    else if isBreak c.peek then
      let (br, next) := c.takeBreak
      leadingBreaks n next (breaks ++ br) deepest (first.orElse fun _ => some c.column)
    else (breaks, deepest, first, c)

def toIndent (indent : Nat) : Nat → Cursor → Cursor
  | 0, c => c
  | n + 1, c => if c.column < indent && c.peek == ' ' then toIndent indent n c.step else c

def innerBreaks (indent : Nat) : Nat → Cursor → List Char → List Char × Cursor
  | 0, c, breaks => (breaks, c)
  | n + 1, c, breaks =>
    let c := toIndent indent c.chars.length c
    if isBreak c.peek then
      let (br, c) := c.takeBreak
      innerBreaks indent n c (breaks ++ br)
    else (breaks, c)

def blockLines (fold atTop : Bool) (indent : Nat) :
    Nat → Cursor → List Char → List Char → List Char × List Char × List Char × Cursor
  | 0, c, breaks, read => (read, [], breaks, c)
  | n + 1, c, breaks, read =>
    if c.column != indent || c.chars.isEmpty then (read, [], breaks, c)
    else
      let startsText := !isBlank c.peek
      let (line, c) := c.span (!endsLine ·)
      let read := read ++ breaks ++ line
      let (br, c) := c.takeBreak
      let (breaks, c) := innerBreaks indent (c.chars.length + 1) c []
      if (atTop && c.column == 0 && c.atSeparator) || c.column != indent || c.chars.isEmpty then (read, br, breaks, c)
      else if fold && br == ['\n'] && startsText && !isBlank c.peek then
        blockLines fold atTop indent n c breaks (if breaks.isEmpty then read ++ [' '] else read)
      else blockLines fold atTop indent n c breaks (read ++ br)

def scanBlock (outer : Int) (c : Cursor) : Except Fault (String × Cursor) := do
  let fold := c.peek == '>'
  let ((chomping, increment), c) ← scanHeader c.step
  let least := (outer + 1).toNat
  let fuel := c.chars.length + 1
  let (indent, breaks, c) ← match increment with
    | some k =>
      let indent := max least 1 + k - 1
      let (breaks, c) := innerBreaks indent fuel c []
      pure (indent, breaks, c)
    | none =>
      let (breaks, deepest, first, c) := leadingBreaks fuel c [] 0 none
      if first.any fun column => 0 < column && column < deepest then throw .invalid
      pure (max least deepest, breaks, c)
  let (read, last, breaks, c) := blockLines fold (least == 0) indent fuel c breaks []
  let ending := match chomping with
    | .clip => last
    | .strip => []
    | .keep => last ++ breaks
  return (String.ofList (read ++ ending), c)

end Block

end Stencil.Yaml
