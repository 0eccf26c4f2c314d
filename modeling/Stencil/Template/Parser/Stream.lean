import Stencil.Template.Lexer

/-!
# Reading tokens one by one

A reader looks at the current token and moves on. The flaw at which the tokens end is met when the reader moves
past the last good one; after the last token of a sound text stands the ending. Nesting is borne to a certain depth,
to which each kind of construct adds its share.
-/

set_option autoImplicit false

namespace Stencil.Template

structure Stream where
  tokens : List Token
  flaw : Option Flaw
  line : Nat
  depth : Nat := 0

abbrev Parse := StateT Stream (Except Flaw)

def Stream.current (s : Stream) : Token :=
  match s.tokens with
  | t :: _ => t
  | [] => ⟨s.line, .ending⟩

def Stream.start (l : Lexed) : Except Flaw Stream :=
  match l.tokens, l.flaw with
  | [], some flaw => .error flaw
  | tokens, flaw => .ok { tokens, flaw, line := 1 }

namespace Parse

def current : Parse Token := do return (← get).current

def fail {α : Type} (problem : Problem) (line : Nat) : Parse α := throw ⟨problem, line⟩

def failHere {α : Type} (problem : Problem) : Parse α := do fail problem (← current).line

def depthLimit : Nat := 980

def deeper {α : Type} (amount : Nat) (p : Parse α) : Parse α := do
  let outer := (← get).depth
  if depthLimit < outer + amount then failHere (.mishap .tooDeep)
  modify fun s => { s with depth := outer + amount }
  let a ← p
  modify fun s => { s with depth := outer }
  return a

def next : Parse Token := do
  let s ← get
  match s.tokens, s.flaw with
  | [], _ => return s.current
  | [_], some flaw => throw flaw
  | t :: rest, _ =>
    set { s with tokens := rest, line := t.line }
    return t

def skip (n : Nat) : Parse Unit := n.forM fun _ _ => discard next

def look : Parse Token := do
  let s ← get
  discard next
  let t ← current
  set s
  return t

def bound : Parse Nat := do return (← get).tokens.length + 1

def failExpected {α : Type} (wanted : String) : Parse α := do
  let t ← current
  if t.isEnding then fail (.ended wanted) t.line
  else fail (.expected wanted t.kind.description) t.line

def atSymbol (symbol : Symbol) : Parse Bool := do return (← current).isSymbol symbol

def atName (word : String) : Parse Bool := do return (← current).isName word

def atBlockEnd : Parse Bool := do return (← current).isBlockEnd

def expectSymbol (symbol : Symbol) : Parse Token := do
  if ← atSymbol symbol then next else failExpected symbol.text

def expectWord (word : String) : Parse Token := do
  if ← atName word then next else failExpected word

def expectName : Parse (String × Nat) := do
  let t ← current
  match t.kind with
  | .name s =>
    discard next
    return (s, t.line)
  | _ => failExpected "name"

def expectBlockEnd : Parse Token := do
  if ← atBlockEnd then next else failExpected (TokenKind.description .blockEnd)

def expectVariableEnd : Parse Token := do
  match (← current).kind with
  | .variableEnd => next
  | _ => failExpected (TokenKind.description .variableEnd)

def skipSymbol (symbol : Symbol) : Parse Bool := do
  if ← atSymbol symbol then
    discard next
    return true
  else return false

def skipName (word : String) : Parse Bool := do
  if ← atName word then
    discard next
    return true
  else return false

def extend {α : Type} (more : α → Parse (Option α)) : Nat → α → Parse α
  | 0, a => return a
  | n + 1, a => do
    match ← more a with
    | none => return a
    | some b => extend more n b

end Parse

end Stencil.Template
