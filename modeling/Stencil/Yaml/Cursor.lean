/-!
# Places in a text

A cursor holds the text that is left, and where it starts: how many characters, lines and columns went before. Behind
the end of the text stands a null character, which occurs nowhere else.
-/

set_option autoImplicit false

namespace Stencil.Yaml

structure Cursor where
  chars : List Char
  index : Nat := 0
  line : Nat := 0
  column : Nat := 0

def null : Char := '\x00'

def isBreak (c : Char) : Bool := c == '\n' || c == '\r' || c == '\x85' || c == '\u2028' || c == '\u2029'

def endsLine (c : Char) : Bool := c == '\n' || c == '\r' || c == '\x85' || c == null

def isBlank (c : Char) : Bool := c == ' ' || c == '\t'

def endsWord (c : Char) : Bool := endsLine c || isBlank c

def endsItem (c : Char) : Bool := c == null || c == ' ' || isBreak c

def isAllowed (c : Char) : Bool :=
  let n := c.toNat
  n == 0x09 || n == 0x0A || n == 0x0D || (0x20 ≤ n && n ≤ 0x7E) || n == 0x85 || (0xA0 ≤ n && n ≤ 0xFFFD) || 0x10000 ≤ n

namespace Cursor

def peek (c : Cursor) : Char := c.chars.headD null

def peekAt (c : Cursor) (n : Nat) : Char := (c.chars.drop n).headD null

def step (c : Cursor) : Cursor :=
  match c.chars with
  | [] => c
  | ch :: rest =>
    if isBreak ch && !(ch == '\r' && rest.head? == some '\n') then ⟨rest, c.index + 1, c.line + 1, 0⟩
    else if ch == '\ufeff' then ⟨rest, c.index + 1, c.line, c.column⟩
    else ⟨rest, c.index + 1, c.line, c.column + 1⟩

def forward (c : Cursor) : Nat → Cursor
  | 0 => c
  | n + 1 => c.step.forward n

def span (c : Cursor) (p : Char → Bool) : List Char × Cursor :=
  let run := c.chars.takeWhile p
  (run, c.forward run.length)

def skip (c : Cursor) (p : Char → Bool) : Cursor := (c.span p).2

def takeBreak (c : Cursor) : List Char × Cursor :=
  match c.chars with
  | '\r' :: '\n' :: _ => (['\n'], c.forward 2)
  | ch :: _ =>
    if ch == '\u2028' || ch == '\u2029' then ([ch], c.step)
    else if isBreak ch then (['\n'], c.step)
    else ([], c)
  | [] => ([], c)

def atSeparator (c : Cursor) : Bool :=
  (c.chars.take 3 == ['-', '-', '-'] || c.chars.take 3 == ['.', '.', '.']) && endsWord (c.peekAt 3)

end Cursor

end Stencil.Yaml
