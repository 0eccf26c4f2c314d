import Stencil.Data.Basic

/-!
# How data is shown

`spelled` is the form in which a value stands inside a list or an error message, `printed` the form in which it
is written out on its own: texts differ by their quotes, and dates by their spelling.
-/

set_option autoImplicit false

namespace Stencil

def padded (width n : Nat) : String :=
  let ds := Number.digitsOf n
  String.ofList (List.replicate (width - ds.length) '0' ++ ds)

def Date.iso (d : Date) : String := padded 4 d.year ++ "-" ++ padded 2 d.month ++ "-" ++ padded 2 d.day

def offsetText (minutes : Int) : String :=
  let m := minutes.natAbs
  (if minutes < 0 then "-" else "+") ++ padded 2 (m / 60) ++ ":" ++ padded 2 (m % 60)

def Moment.iso (separator : String) (m : Moment) : String :=
  m.date.iso ++ separator ++ padded 2 m.hour ++ ":" ++ padded 2 m.minute ++ ":" ++ padded 2 m.second ++
    (if m.micro = 0 then "" else "." ++ padded 6 m.micro) ++
    (match m.zone with
      | none => ""
      | some z => offsetText z.minutes)

def numberList (ns : List Nat) : String :=
  ", ".intercalate (ns.map fun n => String.ofList (Number.digitsOf n))

def Date.spelled (d : Date) : String := "datetime.date(" ++ numberList [d.year, d.month, d.day] ++ ")"

def spanSpelled (minutes : Int) : String :=
  let days := Int.fdiv minutes 1440
  let seconds := (Int.fmod minutes 1440) * 60
  let inner := if minutes = 0 then "0"
    else if days = 0 then "seconds=" ++ Number.intText seconds
    else if seconds = 0 then "days=" ++ Number.intText days
    else "days=" ++ Number.intText days ++ ", seconds=" ++ Number.intText seconds
  "datetime.timedelta(" ++ inner ++ ")"

def Zone.spelled (z : Zone) : String :=
  "datetime.timezone(" ++ spanSpelled z.minutes ++ ", " ++ Text.quoted z.name ++ ")"

def Moment.spelled (m : Moment) : String :=
  let small := if m.micro ≠ 0 then [m.second, m.micro] else if m.second ≠ 0 then [m.second] else []
  "datetime.datetime(" ++ numberList ([m.date.year, m.date.month, m.date.day, m.hour, m.minute] ++ small) ++
    (match m.zone with
      | none => ""
      | some z => ", tzinfo=" ++ z.spelled) ++ ")"

def byteChars (quote : Char) (b : UInt8) : List Char :=
  let c := Char.ofNat b.toNat
  if c == quote || c == '\\' then ['\\', c]
  else if c == '\t' then ['\\', 't']
  else if c == '\n' then ['\\', 'n']
  else if c == '\r' then ['\\', 'r']
  else if b < 0x20 || 0x7F ≤ b then ['\\', 'x'] ++ Text.hexDigits 2 b.toNat
  else [c]

def bytesSpelled (content : List UInt8) : String :=
  let quote := Text.quoteFor (content.map fun b => Char.ofNat b.toNat)
  String.ofList (['b', quote] ++ content.flatMap (byteChars quote) ++ [quote])

def rangeSpelled (start stop stride : Int) : String :=
  let inner := Number.intText start ++ ", " ++ Number.intText stop
  "range(" ++ (if stride = 1 then inner else inner ++ ", " ++ Number.intText stride) ++ ")"

namespace Data

mutual

def spelled : Data → String
  | .null => "None"
  | .bool b => if b then "True" else "False"
  | .int n => Number.intText n
  | .float x => Number.floatText x
  | .nan _ => "nan"
  | .complex z => z.text
  | .text s => Text.quoted s
  | .safe s => "Markup(" ++ Text.quoted s ++ ")"
  | .bytes content => bytesSpelled content
  | .date d => d.spelled
  | .moment m => m.spelled
  | .range a b c => rangeSpelled a b c
  | .list items => "[" ++ ", ".intercalate (spelledItems items) ++ "]"
  | .tuple items => match items with
    | [x] => "(" ++ spelled x ++ ",)"
    | items => "(" ++ ", ".intercalate (spelledItems items) ++ ")"
  | .set [] => "set()"
  | .set items => "\x7b" ++ ", ".intercalate (spelledItems items) ++ "\x7d"
  | .map entries => "\x7b" ++ ", ".intercalate (spelledEntries entries) ++ "\x7d"
  | .ordered [] => "ordereddict()"
  | .ordered entries => "ordereddict([" ++ ", ".intercalate (spelledPairs entries) ++ "])"
  | .missing _ => "Undefined"
  | .handle h => h.shown
  | .labelled _ d => spelled d
  | .again _ isMap => if isMap then "\x7b...\x7d" else "[...]"

def spelledItems : List Data → List String
  | [] => []
  | x :: rest => spelled x :: spelledItems rest

def spelledEntries : List (Data × Data) → List String
  | [] => []
  | (k, v) :: rest => (spelled k ++ ": " ++ spelled v) :: spelledEntries rest

def spelledPairs : List (Data × Data) → List String
  | [] => []
  | (k, v) :: rest => ("(" ++ spelled k ++ ", " ++ spelled v ++ ")") :: spelledPairs rest

end

def printed : Data → String
  | .text s => s
  | .safe s => s
  | .date d => d.iso
  | .moment m => m.iso " "
  | .missing _ => ""
  | d => d.spelled

end Data

end Stencil
