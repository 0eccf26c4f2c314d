import Stencil.Text.Blank
import Stencil.Text.Case

/-!
# Taking texts apart and putting them together

Splitting at blanks, at a separator and at line ends, replacing one text by another, and capital letters at the
start of words.
-/

set_option autoImplicit false

namespace Stencil.Text

def splitBlank : Nat → Nat → List Char → List (List Char)
  | 0, _, _ => []
  | fuel + 1, limit, cs =>
    match cs.dropWhile isBlank with
    | [] => []
    | rest =>
      if limit = 0 then [rest]
      else
        let word := rest.takeWhile (!isBlank ·)
        word :: splitBlank fuel (limit - 1) (rest.drop word.length)

def cutAt? (separator : List Char) : List Char → Option (List Char × List Char)
  | [] => none
  | c :: cs =>
    if separator.isPrefixOf (c :: cs) then some ([], (c :: cs).drop separator.length)
    else (cutAt? separator cs).map fun p => (c :: p.1, p.2)

def splitText (separator : List Char) : Nat → List Char → List (List Char)
  | 0, cs => [cs]
  | limit + 1, cs =>
    match cutAt? separator cs with
    | none => [cs]
    | some (before, after) => before :: splitText separator limit after

def replaceText (old new : List Char) (limit : Nat) (cs : List Char) : List Char :=
  if old.isEmpty then
    let spread := (cs.take limit).flatMap fun c => new ++ [c]
    if cs.length < limit then spread ++ new else spread ++ cs.drop limit
  else new.intercalate (splitText old limit cs)

def isLineEnd (c : Char) : Bool :=
  let n := c.toNat
  (10 ≤ n && n ≤ 13) || (28 ≤ n && n ≤ 30) || n == 0x85 || n == 0x2028 || n == 0x2029

def splitLinesFrom (read : List Char) : List Char → List (List Char)
  | [] => if read.isEmpty then [] else [read.reverse]
  | '\r' :: '\n' :: cs => read.reverse :: splitLinesFrom [] cs
  | c :: cs => if isLineEnd c then read.reverse :: splitLinesFrom [] cs else splitLinesFrom (c :: read) cs

def splitLines (cs : List Char) : List (List Char) := splitLinesFrom [] cs

def startsWord (c : Char) : Bool :=
  c == '-' || c == '(' || c == '\x7b' || c == '[' || c == '<' || isBlank c

def titleFrom (tail : Option (List Char)) : List Char → List Char
  | [] => []
  | c :: cs =>
    if startsWord c then upperChar c ++ titleFrom none cs
    else
      match tail with
      | none => upperChar c ++ titleFrom (some []) cs
      | some before =>
        lowerBetween before c (cs.takeWhile fun d => !startsWord d) ++ titleFrom (some (c :: before)) cs

def title (cs : List Char) : List Char := titleFrom none cs

end Stencil.Text
