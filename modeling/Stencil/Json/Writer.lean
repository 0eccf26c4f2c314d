import Stencil.Data.Order
import Stencil.Data.Shown
import Stencil.Mishap

/-!
# Writing JSON

One line with a blank after each comma and colon, or an indented layout. Only finished data that the format knows
can be written; everything else is refused.
-/

set_option autoImplicit false

namespace Stencil.Json

structure Style where
  asciiOnly : Bool := false
  sortKeys : Bool := false
  indent : Option String := none

def unicodeEscape (n : Nat) : List Char := ['\\', 'u'] ++ Text.hexDigits 4 n

def escapedChar (asciiOnly : Bool) (c : Char) : List Char :=
  let n := c.toNat
  if c == '"' then ['\\', '"']
  else if c == '\\' then ['\\', '\\']
  else if c == '\n' then ['\\', 'n']
  else if c == '\r' then ['\\', 'r']
  else if c == '\t' then ['\\', 't']
  else if n == 8 then ['\\', 'b']
  else if n == 12 then ['\\', 'f']
  else if n < 0x20 then unicodeEscape n
  else if asciiOnly && 0x7f ≤ n then
    if n < 0x10000 then unicodeEscape n
    else
      let m := n - 0x10000
      unicodeEscape (0xD800 + m / 0x400) ++ unicodeEscape (0xDC00 + m % 0x400)
  else [c]

def writeText (asciiOnly : Bool) (s : String) : String :=
  String.ofList ('"' :: s.toList.flatMap (escapedChar asciiOnly) ++ ['"'])

def writeFloat (x : Float) : String :=
  match Number.view x with
  | .nan => "NaN"
  | .infinite negative => if negative then "-Infinity" else "Infinity"
  | .finite b => String.ofList (Number.binaryChars b)

def writeInt (n : Int) : Except Mishap String :=
  if Data.isTooLong n then .error .badValue else .ok (Number.intText n)

def keyText : Data → Except Mishap String
  | .text s => .ok s
  | .safe s => .ok s
  | .null => .ok "null"
  | .bool b => .ok (if b then "true" else "false")
  | .int n => writeInt n
  | .float x => .ok (writeFloat x)
  | .nan _ => .ok "NaN"
  | _ => .error .wrongType

def sortEntries (style : Style) (entries : List (Data × Data)) : Except Mishap (List (Data × Data)) :=
  if style.sortKeys then
    sortM (fun a b => match Data.related .lt a.1 b.1 with
      | some less => .ok less
      | none => .error .wrongType) entries
  else .ok entries

def enclose (style : Style) (depth : Nat) (opening closing : String) (parts : List String) : String :=
  if parts.isEmpty then opening ++ closing
  else match style.indent with
    | none => opening ++ ", ".intercalate parts ++ closing
    | some step =>
      let margin (d : Nat) := "\n" ++ String.join (List.replicate d step)
      opening ++ margin (depth + 1) ++ ("," ++ margin (depth + 1)).intercalate parts ++ margin depth ++ closing

def deepestWritten : Nat := 980

mutual

def writeAt (style : Style) : Nat → Nat → Data → Except Mishap String
  | 0, _, _ => .error .wrongType
  | n + 1, depth, d =>
    if deepestWritten < depth then .error .tooDeep
    else match d with
    | .null => .ok "null"
    | .bool b => .ok (if b then "true" else "false")
    | .int k => writeInt k
    | .float x => .ok (writeFloat x)
    | .nan _ => .ok "NaN"
    | .text s => .ok (writeText style.asciiOnly s)
    | .safe s => .ok (writeText style.asciiOnly s)
    | .list items => return enclose style depth "[" "]" (← writeItems style n (depth + 1) items)
    | .tuple items => return enclose style depth "[" "]" (← writeItems style n (depth + 1) items)
    | .map entries => do
      let sorted ← sortEntries style entries
      return enclose style depth "\x7b" "\x7d" (← writeEntries style n (depth + 1) sorted)
    | .ordered entries => do
      let sorted ← sortEntries style entries
      return enclose style depth "\x7b" "\x7d" (← writeEntries style n (depth + 1) sorted)
    | .labelled _ d => writeAt style n depth d
    | .again _ _ => .error .badValue
    | _ => .error .wrongType

def writeItems (style : Style) : Nat → Nat → List Data → Except Mishap (List String)
  | 0, _, _ => .error .wrongType
  | _ + 1, _, [] => .ok []
  | n + 1, depth, x :: rest => do
    let first ← writeAt style n depth x
    return first :: (← writeItems style n depth rest)

def writeEntries (style : Style) : Nat → Nat → List (Data × Data) → Except Mishap (List String)
  | 0, _, _ => .error .wrongType
  | _ + 1, _, [] => .ok []
  | n + 1, depth, (k, v) :: rest => do
    let key ← keyText k
    let value ← writeAt style n depth v
    return (writeText style.asciiOnly key ++ ": " ++ value) :: (← writeEntries style n depth rest)

end

mutual

def weight : Data → Nat
  | .list items => itemsWeight items + 2
  | .tuple items => itemsWeight items + 2
  | .map entries => entriesWeight entries + 2
  | .ordered entries => entriesWeight entries + 2
  | .labelled _ d => weight d + 1
  | _ => 1

def itemsWeight : List Data → Nat
  | [] => 1
  | x :: rest => weight x + itemsWeight rest + 1

def entriesWeight : List (Data × Data) → Nat
  | [] => 1
  | (_, v) :: rest => weight v + entriesWeight rest + 1

end

def write (style : Style) (d : Data) : Except Mishap String := writeAt style (weight d) 0 d

end Stencil.Json
