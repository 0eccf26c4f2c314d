import Stencil.Template.Fault
import Stencil.Number.Read
import Stencil.Text.CharName

/-!
# Escapes in string literals

The literal is first spelled in ASCII, every other character by its own escape, and then the escapes are resolved.
A backslash before such a character therefore quotes the backslash of its escape. A backslash before a character
that has no escape stands for itself.
-/

set_option autoImplicit false

namespace Stencil.Template

def simpleEscape? : Char → Option (List Char)
  | '\n' => some []
  | '\\' => some ['\\']
  | '\'' => some ['\'']
  | '"' => some ['"']
  | 'a' => some ['\x07']
  | 'b' => some ['\x08']
  | 'f' => some ['\x0c']
  | 'n' => some ['\n']
  | 'r' => some ['\r']
  | 't' => some ['\t']
  | 'v' => some ['\x0b']
  | _ => none

def isOctal (c : Char) : Bool := Number.isDigitOf 8 c

def charOf (n : Nat) : Char := if 0xD800 ≤ n ∧ n ≤ 0xDFFF then '�' else Char.ofNat n

def hexChar (width : Nat) (short : EscapeProblem) (cs : List Char) : Except EscapeProblem (Char × List Char) :=
  let ds := cs.take width
  if ds.length = width ∧ ds.all (Number.isDigitOf 16) then
    let n := Number.ofDigits 16 ds
    if n ≤ 0x10FFFF then .ok (charOf n, cs.drop width) else .error .beyondRange
  else .error short

def resolveEscapes : Nat → List Char → Except EscapeProblem (List Char)
  | 0, _ => .ok []
  | _ + 1, [] => .ok []
  | n + 1, '\\' :: e :: rest =>
    match simpleEscape? e with
    | some cs => return cs ++ (← resolveEscapes n rest)
    | none =>
      if isOctal e then
        let more := (rest.take 2).takeWhile isOctal
        return charOf (Number.ofDigits 8 (e :: more)) :: (← resolveEscapes n (rest.drop more.length))
      else if e == 'x' then do
        let (c, rest) ← hexChar 2 .truncatedByte rest
        return c :: (← resolveEscapes n rest)
      else if e == 'u' then do
        let (c, rest) ← hexChar 4 .truncatedShort rest
        return c :: (← resolveEscapes n rest)
      else if e == 'U' then do
        let (c, rest) ← hexChar 8 .truncatedLong rest
        return c :: (← resolveEscapes n rest)
      else if e == 'N' then
        let name := (rest.drop 1).takeWhile (· != '\x7d')
        if rest.head? != some '\x7b' || name.isEmpty || rest.length < name.length + 2 then .error .malformedName
        else match Text.charNamed? name with
          | some c => return c :: (← resolveEscapes n (rest.drop (name.length + 2)))
          | none => .error .unknownName
      else return '\\' :: e :: (← resolveEscapes n rest)
  | n + 1, c :: rest => return c :: (← resolveEscapes n rest)

def unescape (cs : List Char) : Except EscapeProblem (List Char) :=
  let spelled := cs.flatMap Text.asciiSpelling
  resolveEscapes (spelled.length + 1) spelled

end Stencil.Template
