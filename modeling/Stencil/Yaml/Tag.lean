import Stencil.Data.Order
import Stencil.Number.Spelled
import Stencil.Text.Base64
import Stencil.Text.Case
import Stencil.Text.Lines
import Stencil.Yaml.Token

/-!
# Tags and the values of scalars

A plain scalar has the tag of the first form it fits; a line break behind it does not count. A scalar whose tag is
given need not fit the form, and may then have no value.
-/

set_option autoImplicit false

namespace Stencil.Yaml

inductive Tag where
  | null
  | bool
  | int
  | float
  | timestamp
  | merge
  | value
  | text
  | binary
  | sequence
  | mapping
  | ordered
  | pairs
  | set
  | unknown
  deriving DecidableEq, Repr

def Tag.ofUri (uri : String) : Tag :=
  match uri with
  | "tag:yaml.org,2002:null" => .null
  | "tag:yaml.org,2002:bool" => .bool
  | "tag:yaml.org,2002:int" => .int
  | "tag:yaml.org,2002:float" => .float
  | "tag:yaml.org,2002:timestamp" => .timestamp
  | "tag:yaml.org,2002:merge" => .merge
  | "tag:yaml.org,2002:value" => .value
  | "tag:yaml.org,2002:str" => .text
  | "tag:yaml.org,2002:binary" => .binary
  | "tag:yaml.org,2002:seq" => .sequence
  | "tag:yaml.org,2002:map" => .mapping
  | "tag:yaml.org,2002:omap" => .ordered
  | "tag:yaml.org,2002:pairs" => .pairs
  | "tag:yaml.org,2002:set" => .set
  | _ => .unknown

section Forms

def dropSign : List Char → List Char
  | '-' :: cs => cs
  | '+' :: cs => cs
  | cs => cs

def isNullForm (s : String) : Bool := s == "" || s == "~" || s == "null" || s == "Null" || s == "NULL"

def isBoolForm (version : Version) (s : String) : Bool :=
  ["true", "True", "TRUE", "false", "False", "FALSE"].contains s ||
    (version == .oneOne && ["y", "Y", "yes", "Yes", "YES", "n", "N", "no", "No", "NO", "on", "On", "ON", "off", "Off",
      "OFF"].contains s)

def isRow (p : Char → Bool) (cs : List Char) : Bool := !cs.isEmpty && cs.all fun c => p c || c == '_'

def isSixties : List Char → Bool
  | ':' :: a :: b :: rest =>
    if b == ':' then a.isDigit && isSixties (':' :: rest)
    else '0' ≤ a && a ≤ '5' && b.isDigit && (rest.isEmpty || isSixties rest)
  | [':', a] => a.isDigit
  | _ => false

def isSexagesimal (whole : Bool) (cs : List Char) : Bool :=
  let isStart (c : Char) := if whole then '1' ≤ c && c ≤ '9' else c.isDigit
  cs.head?.any isStart && isSixties (cs.dropWhile fun c => c.isDigit || c == '_')

def isIntForm (version : Version) (cs : List Char) : Bool :=
  cs.head?.any (fun c => c.isDigit || c == '-' || c == '+') &&
    match version, dropSign cs with
    | _, '0' :: 'b' :: rest => isRow (Number.isDigitOf 2) rest
    | .oneTwo, '0' :: 'o' :: rest => isRow (Number.isDigitOf 8) rest
    | _, '0' :: 'x' :: rest => isRow (Number.isDigitOf 16) rest
    | .oneTwo, rest => isRow Char.isDigit rest
    | .oneOne, rest =>
      isRow (Number.isDigitOf 8) rest || isSexagesimal true rest ||
        (rest.head?.any (fun c => '1' ≤ c && c ≤ '9') && isRow Char.isDigit rest)

def isExponent (signed : Bool) : List Char → Bool
  | e :: rest =>
    (e == 'e' || e == 'E') && (!signed || (dropSign rest).length < rest.length) && !(dropSign rest).isEmpty &&
      (dropSign rest).all Char.isDigit
  | [] => false

def isSexagesimalFloat (cs : List Char) : Bool :=
  let whole := cs.takeWhile (· != '.')
  let fraction := cs.drop whole.length
  !fraction.isEmpty && (fraction.drop 1).all (fun c => c.isDigit || c == '_') && isSexagesimal false whole

def isFloatForm (version : Version) (cs : List Char) : Bool :=
  match dropSign cs with
  | '.' :: rest =>
    let digits := rest.takeWhile fun c => c.isDigit || c == '_'
    let after := rest.drop digits.length
    let word := String.ofList rest
    let isSigned := cs.head? != some '.'
    (!digits.isEmpty && (after.isEmpty || isExponent true after) && !(isSigned && version == .oneOne)) ||
      ["inf", "Inf", "INF"].contains word || (["nan", "NaN", "NAN"].contains word && !isSigned)
  | c :: rest =>
    let after := rest.dropWhile fun c => c.isDigit || c == '_'
    (c.isDigit && (match after with
      | '.' :: more =>
        let behind := more.dropWhile fun c => c.isDigit || c == '_'
        behind.isEmpty || isExponent false behind
      | after => isExponent false after)) || (version == .oneOne && isSexagesimalFloat (c :: rest))
  | [] => false

end Forms

section Timestamps

structure Stamp where
  year : Nat
  month : Nat
  day : Nat
  -- whether month and day have two digits
  isFull : Bool
  time : Option (Nat × Nat × Nat)
  fraction : List Char
  zone : Option Zone

def takeDigits? (least most : Nat) (cs : List Char) : Option (List Char × List Char) :=
  let digits := (cs.takeWhile Char.isDigit).take most
  if digits.length < least then none else some (digits, cs.drop digits.length)

def takeChar? (c : Char) : List Char → Option (List Char)
  | x :: rest => if x == c then some rest else none
  | [] => none

def isBlankChar (c : Char) : Bool := c == ' ' || c == '\t'

def zone? (cs : List Char) : Option (Option Zone) :=
  let written := cs.dropWhile isBlankChar
  let name := String.ofList written
  match written with
  | [] => if cs.isEmpty then some none else none
  | ['Z'] => some (some ⟨0, name⟩)
  | sign :: rest =>
    if sign == '+' || sign == '-' then do
      let (hours, rest) ← takeDigits? 1 2 rest
      let minutes ← match rest with
        | [] => some []
        | rest => do
          let (minutes, rest) ← takeDigits? 2 2 (← takeChar? ':' rest)
          if rest.isEmpty then some minutes else none
      let total : Nat := Number.ofDigits 10 hours * 60 + Number.ofDigits 10 minutes
      some (some ⟨if sign == '-' then -(total : Int) else total, name⟩)
    else none

def stamp? (text : List Char) : Option Stamp := do
  let (year, rest) ← takeDigits? 4 4 (Text.dropFinalNewline text)
  let (month, rest) ← takeDigits? 1 2 (← takeChar? '-' rest)
  let (day, rest) ← takeDigits? 1 2 (← takeChar? '-' rest)
  let number := Number.ofDigits 10
  let date : Stamp :=
    ⟨number year, number month, number day, month.length == 2 && day.length == 2, none, [], none⟩
  match rest with
  | [] => some date
  | c :: more =>
    let rest ← if c == 'T' || c == 't' then some more
      else if isBlankChar c then some (more.dropWhile isBlankChar) else none
    let (hour, rest) ← takeDigits? 1 2 rest
    let (minute, rest) ← takeDigits? 2 2 (← takeChar? ':' rest)
    let (second, rest) ← takeDigits? 2 2 (← takeChar? ':' rest)
    let (fraction, rest) := match rest with
      | '.' :: more => (more.takeWhile Char.isDigit, more.dropWhile Char.isDigit)
      | rest => ([], rest)
    let zone ← zone? rest
    some { date with time := some (number hour, number minute, number second), fraction, zone }

def isTimestampForm (cs : List Char) : Bool := (stamp? cs).any fun s => s.isFull || s.time.isSome

def daysIn (year month : Nat) : Nat :=
  if month == 2 then (if isLeap year then 29 else 28)
  else if [4, 6, 9, 11].contains month then 30 else 31

def date? (s : Stamp) : Option Date :=
  if 1 ≤ s.year && 1 ≤ s.month && s.month ≤ 12 && 1 ≤ s.day && s.day ≤ daysIn s.year s.month then
    some ⟨s.year, s.month, s.day⟩
  else none

def dayAfter (d : Date) : Date :=
  if d.day < daysIn d.year d.month then { d with day := d.day + 1 }
  else if d.month < 12 then ⟨d.year, d.month + 1, 1⟩
  else ⟨d.year + 1, 1, 1⟩

def secondAfter (m : Moment) : Moment :=
  if m.second < 59 then { m with second := m.second + 1 }
  else if m.minute < 59 then { m with minute := m.minute + 1, second := 0 }
  else if m.hour < 23 then { m with hour := m.hour + 1, minute := 0, second := 0 }
  else { m with date := dayAfter m.date, hour := 0, minute := 0, second := 0 }

def micros (fraction : List Char) : Nat :=
  let six := fraction.take 6
  let n := Number.ofDigits 10 (six ++ List.replicate (6 - six.length) '0')
  if (fraction.drop 6).head?.any (fun c => '4' < c) then n + 1 else n

def Stamp.toData (s : Stamp) : Except Fault Data :=
  match date? s, s.time with
  | none, _ => .error (.mishap .badValue)
  | some date, none => .ok (.date date)
  | some date, some (hour, minute, second) =>
    if hour < 24 && minute < 60 && second < 60 && s.zone.all (fun z => z.minutes.natAbs < 1440) then
      let n := micros s.fraction
      if n < 1000000 then .ok (.moment ⟨date, hour, minute, second, n, s.zone⟩)
      else
        let next := secondAfter ⟨date, hour, minute, second, 0, s.zone⟩
        if next.date.year < 10000 then .ok (.moment next) else .error (.mishap .tooLarge)
    else .error (.mishap .badValue)

end Timestamps

def Tag.ofPlain (version : Version) (s : String) : Tag :=
  if s == "\n" then .text
  else
    let cs := Text.dropFinalNewline s.toList
    let word := String.ofList cs
    if isBoolForm version word then .bool
    else if isFloatForm version cs then .float
    else if isIntForm version cs then .int
    else if word == "<<" then .merge
    else if isNullForm word then .null
    else if isTimestampForm cs then .timestamp
    else if word == "=" then .value
    else .text

def withoutUnderscores (s : String) : List Char := s.toList.filter (· != '_')

def splitSign (cs : List Char) : Except Fault (Bool × List Char) :=
  match cs with
  | [] => .error (.mishap .noIndex)
  | '-' :: rest => .ok (true, rest)
  | '+' :: rest => .ok (false, rest)
  | cs => .ok (false, cs)

def readWhole (base : Nat) (cs : List Char) : Except Fault Int :=
  match Number.readInt? base (String.ofList cs) with
  | some n => .ok n
  | none => .error (.mishap .badValue)

def readBroken (cs : List Char) : Except Fault Float :=
  match Number.readFloat? (String.ofList cs) with
  | some x => .ok x
  | none => .error (.mishap .badValue)

def sixtyParts (cs : List Char) : List (List Char) := Text.splitText [':'] (cs.length + 1) cs

def wholeValue (version : Version) (cs : List Char) : Except Fault Int :=
  match cs with
  | '0' :: 'b' :: rest => readWhole 2 rest
  | '0' :: 'x' :: rest => readWhole 16 rest
  | '0' :: 'o' :: rest => readWhole 8 rest
  | cs =>
    if version == .oneTwo || cs == ['0'] then readWhole 10 cs
    else match cs with
      | [] => .error (.mishap .noIndex)
      | '0' :: _ => readWhole 8 cs
      | cs =>
        if cs.contains ':' then do
          let parts ← (sixtyParts cs).mapM (readWhole 10)
          return parts.foldl (fun n part => n * 60 + part) 0
        else readWhole 10 cs

def intValue (version : Version) (s : String) : Except Fault Data := do
  let (negative, cs) ← splitSign (withoutUnderscores s)
  let n ← wholeValue version cs
  return .int (if negative then -n else n)

def sixtiesFloat : List Float → Float → Float → Float
  | [], _, sum => sum
  | part :: rest, weight, sum => sixtiesFloat rest (weight * 60.0) (sum + part * weight)

def sharedMark : Nat := 0

def floatValue (version : Version) (mark : Nat) (s : String) : Except Fault Data := do
  let (negative, cs) ← splitSign ((withoutUnderscores s).map Char.toLower)
  let signed (x : Float) := if negative then -x else x
  match String.ofList cs with
  | ".inf" => return .float (signed Number.infinity)
  | ".nan" => return .nan sharedMark
  | _ =>
    let x ← if version == .oneOne && cs.contains ':' then do
        let parts ← (sixtyParts cs).mapM readBroken
        pure (sixtiesFloat parts.reverse 1.0 0.0)
      else readBroken cs
    return if x.isNaN then .nan mark else .float (signed x)

def boolValue (s : String) : Except Fault Data :=
  match String.ofList (Text.lower s.toList) with
  | "yes" | "y" | "true" | "on" => .ok (.bool true)
  | "no" | "n" | "false" | "off" => .ok (.bool false)
  | _ => .error (.mishap .noKey)

def timestampValue (s : String) : Except Fault Data :=
  match stamp? s.toList with
  | none => .error .invalid
  | some stamp => stamp.toData

def binaryValue (s : String) : Except Fault Data :=
  if s.toList.any fun c => 0x80 ≤ c.toNat then .error .invalid
  else match Text.base64? s.toList with
    | some bytes => .ok (.bytes bytes)
    | none => .error .invalid

def scalarValue (version : Version) (mark : Nat) (tag : Tag) (s : String) : Except Fault Data :=
  match tag with
  | .null => .ok .null
  | .bool => boolValue s
  | .int => intValue version s
  | .float => floatValue version mark s
  | .timestamp => timestampValue s
  | .text => .ok (.text s)
  | .binary => binaryValue s
  | _ => .error .invalid

end Stencil.Yaml
