import Stencil.Template.Token
import Stencil.Template.Unescape
import Stencil.Text.Blank
import Stencil.Text.Decimal
import Stencil.Text.Lines
import Stencil.Text.Word

/-!
# Cutting a template into tokens

The lexer is in one of four places: in literal text, in a comment, in a raw section, or between the delimiters of
an expression or statement. It gives the tokens it found, and the flaw at which it stopped if there was one, so
that a reader of the tokens meets the flaw only when it gets there.
-/

set_option autoImplicit false

namespace Stencil.Template

structure Layout where
  trimBlocks : Bool
  lstripBlocks : Bool
  keepTrailingNewline : Bool
  deriving DecidableEq, Repr

def Layout.prepare (layout : Layout) (source : List Char) : List Char :=
  let cs := Text.unifyLines source
  if layout.keepTrailingNewline then cs else Text.dropFinalNewline cs

inductive Mark where
  | none
  | strip
  | keep
  deriving DecidableEq, Repr

def takeMark : List Char → Mark × List Char
  | '-' :: cs => (.strip, cs)
  | '+' :: cs => (.keep, cs)
  | cs => (.none, cs)

inductive Opening where
  | variable
  | block
  | comment
  deriving DecidableEq, Repr

def opening? : List Char → Option Opening
  | '\x7b' :: '\x7b' :: _ => some .variable
  | '\x7b' :: '%' :: _ => some .block
  | '\x7b' :: '#' :: _ => some .comment
  | _ => none

def splitOpening : List Char → List Char × List Char
  | [] => ([], [])
  | c :: cs =>
    if (opening? (c :: cs)).isSome then ([], c :: cs)
    else
      let (before, rest) := splitOpening cs
      (c :: before, rest)

def dropBlanks (cs : List Char) : List Char := cs.dropWhile Text.isBlank

def dropWord? (word : String) (cs : List Char) : Option (List Char) :=
  if word.toList.isPrefixOf cs then some (cs.drop word.length) else none

def dropTrimmed (layout : Layout) : List Char → List Char
  | '\n' :: cs => if layout.trimBlocks then cs else '\n' :: cs
  | cs => cs

def closing? (layout : Layout) (delimiter : String) (cs : List Char) : Option (List Char) :=
  match cs with
  | '+' :: rest => dropWord? delimiter rest
  | '-' :: rest => (dropWord? delimiter rest).map dropBlanks
  | _ => (dropWord? delimiter cs).map (dropTrimmed layout)

def variableClosing? (cs : List Char) : Option (List Char) :=
  match cs with
  | '-' :: rest => (dropWord? "\x7d\x7d" rest).map dropBlanks
  | _ => dropWord? "\x7d\x7d" cs

def rawOpening? (afterMark : List Char) : Option (List Char) := do
  let cs ← dropWord? "raw" (dropBlanks afterMark)
  match dropBlanks cs with
  | '-' :: rest => (dropWord? "%\x7d" rest).map dropBlanks
  | rest => dropWord? "%\x7d" rest

def rawClosing? (layout : Layout) : List Char → Option (Mark × List Char)
  | '\x7b' :: '%' :: cs =>
    let (mark, cs) := takeMark cs
    match dropWord? "endraw" (dropBlanks cs) with
    | none => none
    | some cs => (closing? layout "%\x7d" (dropBlanks cs)).map (mark, ·)
  | _ => none

def splitAt? {α : Type} (found? : List Char → Option α) : List Char → Option (List Char × α)
  | [] => (found? []).map ([], ·)
  | c :: cs =>
    match found? (c :: cs) with
    | some a => some ([], a)
    | none => (splitAt? found? cs).map fun p => (c :: p.1, p.2)

def stripBefore (layout : Layout) (lineStart isVariable : Bool) (mark : Mark) (cs : List Char) : List Char :=
  match mark with
  | .strip => Text.stripRight cs
  | .keep => cs
  | .none =>
    if layout.lstripBlocks && !isVariable then
      let lastLine := (cs.reverse.takeWhile (· != '\n')).reverse
      let hasNewline := cs.contains '\n'
      if (hasNewline || lineStart) && lastLine.all Text.isBlank then cs.take (cs.length - lastLine.length)
      else cs
    else cs

def digitRow (isDigit : Char → Bool) : List Char → List Char
  | c :: cs =>
    if isDigit c then c :: digitRow isDigit cs
    else match c, cs with
      | '_', d :: rest => if isDigit d then '_' :: d :: digitRow isDigit rest else []
      | _, _ => []
  | [] => []

def isDigit (c : Char) : Bool := (Text.decimal? c).isSome

def leadingDigits (cs : List Char) : List Char :=
  match cs with
  | c :: _ => if isDigit c then digitRow isDigit cs else []
  | [] => []

def fractionRow : List Char → List Char
  | '.' :: cs =>
    let ds := leadingDigits cs
    if ds.isEmpty then [] else '.' :: ds
  | _ => []

def exponentRow : List Char → List Char
  | e :: cs =>
    if e == 'e' || e == 'E' then
      match cs with
      | s :: rest =>
        if s == '+' || s == '-' then
          let ds := leadingDigits rest
          if ds.isEmpty then [] else e :: s :: ds
        else
          let ds := leadingDigits cs
          if ds.isEmpty then [] else e :: ds
      | [] => []
    else []
  | [] => []

abbrev Numeral (α : Type) := Except Mishap α × Nat

def floatLiteral? (cs : List Char) : Option (Numeral Float) :=
  let whole := leadingDigits cs
  if whole.isEmpty then none
  else
    let afterWhole := cs.drop whole.length
    let fraction := fractionRow afterWhole
    let exponent := exponentRow (afterWhole.drop fraction.length)
    if fraction.isEmpty && exponent.isEmpty then none
    else
      let length := whole.length + fraction.length + exponent.length
      if (cs.take length).any (fun c => 128 ≤ c.toNat) then some (.error .badSyntax, length)
      else
        let digits (ds : List Char) := ds.filter Char.isDigit
        let (negative, e) := Number.takeSign (exponent.drop 1)
        let size : Int := Number.ofDigits 10 (digits e)
        let value := Number.decimalFloat false (digits whole) (digits fraction) (if negative then -size else size)
        some (.ok value, length)

def basePrefix? : List Char → Option Nat
  | '0' :: c :: _ =>
    if c == 'b' || c == 'B' then some 2
    else if c == 'o' || c == 'O' then some 8
    else if c == 'x' || c == 'X' then some 16
    else none
  | _ => none

def isDigitIn (base : Nat) (c : Char) : Bool :=
  Number.isDigitOf base c || (10 ≤ base && isDigit c)

def digitsValue (base : Nat) (row : List Char) : Nat :=
  Number.ofDigits base ((row.filter (· != '_')).map Text.asciiDigit)

def intLiteral? (cs : List Char) : Option (Numeral Nat) :=
  let based := do
    let base ← basePrefix? cs
    let row := digitRow (isDigitIn base) (cs.drop 2)
    if row.isEmpty then none else some (.ok (digitsValue base row), row.length + 2)
  match based with
  | some found => some found
  | none =>
    match cs with
    | '0' :: _ => some (.ok 0, (digitRow (· == '0') cs).length)
    | c :: _ => if c.isDigit then
        let row := digitRow isDigit cs
        let value : Except Mishap Nat := if Number.digitLimit < (row.filter (· != '_')).length then .error .badValue
          else .ok (digitsValue 10 row)
        some (value, row.length)
      else none
    | [] => none

def quotedRun (quote : Char) : List Char → Option (List Char)
  | [] => none
  | '\\' :: c :: cs => (quotedRun quote cs).map ('\\' :: c :: ·)
  | c :: cs =>
    if c == quote then some []
    else if c == '\\' then none
    else (quotedRun quote cs).map (c :: ·)

def symbol? : List Char → Option (Symbol × Nat)
  | '/' :: '/' :: _ => some (.floorDiv, 2)
  | '*' :: '*' :: _ => some (.pow, 2)
  | '=' :: '=' :: _ => some (.eq, 2)
  | '!' :: '=' :: _ => some (.ne, 2)
  | '>' :: '=' :: _ => some (.ge, 2)
  | '<' :: '=' :: _ => some (.le, 2)
  | '+' :: _ => some (.add, 1)
  | '-' :: _ => some (.sub, 1)
  | '/' :: _ => some (.div, 1)
  | '*' :: _ => some (.mul, 1)
  | '%' :: _ => some (.mod, 1)
  | '~' :: _ => some (.tilde, 1)
  | '[' :: _ => some (.lbracket, 1)
  | ']' :: _ => some (.rbracket, 1)
  | '(' :: _ => some (.lparen, 1)
  | ')' :: _ => some (.rparen, 1)
  | '\x7b' :: _ => some (.lbrace, 1)
  | '\x7d' :: _ => some (.rbrace, 1)
  | '>' :: _ => some (.gt, 1)
  | '<' :: _ => some (.lt, 1)
  | '=' :: _ => some (.assign, 1)
  | '.' :: _ => some (.dot, 1)
  | ':' :: _ => some (.colon, 1)
  | '|' :: _ => some (.pipe, 1)
  | ',' :: _ => some (.comma, 1)
  | ';' :: _ => some (.semicolon, 1)
  | _ => none

def balance (owed : List Symbol) (symbol : Symbol) : Except Problem (List Symbol) :=
  match symbol with
  | .lbrace => .ok (.rbrace :: owed)
  | .lparen => .ok (.rparen :: owed)
  | .lbracket => .ok (.rbracket :: owed)
  | .rbrace | .rparen | .rbracket =>
    match owed with
    | [] => .error (.unopened symbol.text)
    | wanted :: rest => if wanted = symbol then .ok rest else .error (.mismatched symbol.text wanted.text)
  | _ => .ok owed

inductive Place where
  | text
  | comment
  | raw
  | inside (isBlock : Bool) (owed : List Symbol) (afterDot : Bool)
  deriving Repr

structure Step where
  tokens : List TokenKind
  place : Place
  rest : List Char

def consumed (whole rest : List Char) : List Char := whole.take (whole.length - rest.length)

def endsLine (whole rest : List Char) : Bool := (consumed whole rest).getLast? == some '\n'

def dataTokens (cs : List Char) : List TokenKind := if cs.isEmpty then [] else [.data (String.ofList cs)]

def textStep (layout : Layout) (lineStart : Bool) (cs : List Char) : Step :=
  let (before, rest) := splitOpening cs
  match opening? rest with
  | none => ⟨dataTokens cs, .text, []⟩
  | some kind =>
    let (mark, afterMark) := takeMark (rest.drop 2)
    let data := dataTokens (stripBefore layout lineStart (kind == .variable) mark before)
    match kind with
    | .variable => ⟨data ++ [.variableBegin], .inside false [] false, afterMark⟩
    | .comment => ⟨data, .comment, afterMark⟩
    | .block =>
      match rawOpening? afterMark with
      | some afterRaw => ⟨data, .raw, afterRaw⟩
      | none => ⟨data ++ [.blockBegin], .inside true [] false, afterMark⟩

def commentStep (layout : Layout) (cs : List Char) : Except Problem Step :=
  match splitAt? (closing? layout "#\x7d") cs with
  | some (_, rest) => .ok ⟨[], .text, rest⟩
  | none => .error .openComment

def rawStep (layout : Layout) (lineStart : Bool) (cs : List Char) : Except Problem Step :=
  match splitAt? (rawClosing? layout) cs with
  | some (before, mark, rest) =>
    .ok ⟨dataTokens (stripBefore layout lineStart false mark before), .text, rest⟩
  | none => .error .openRaw

def insideStep (layout : Layout) (isBlock : Bool) (owed : List Symbol) (afterDot : Bool) (offset : Nat)
    (cs : List Char) : Except Problem Step :=
  let closed := if owed.isEmpty then
      if isBlock then closing? layout "%\x7d" cs else variableClosing? cs
    else none
  match closed with
  | some rest => .ok ⟨[if isBlock then .blockEnd else .variableEnd], .text, rest⟩
  | none =>
    let blanks := cs.takeWhile Text.isBlank
    if !blanks.isEmpty then .ok ⟨[], .inside isBlock owed false, cs.drop blanks.length⟩
    else
      let float := if afterDot then none else floatLiteral? cs
      match float with
      | some (.error m, _) => .error (.mishap m)
      | some (.ok x, n) => .ok ⟨[.float x], .inside isBlock owed false, cs.drop n⟩
      | none =>
        match intLiteral? cs with
        | some (.error m, _) => .error (.mishap m)
        | some (.ok k, n) => .ok ⟨[.int k], .inside isBlock owed false, cs.drop n⟩
        | none =>
          let word := cs.takeWhile Text.isWordChar
          if !word.isEmpty then
            if Text.isIdentifier word then
              .ok ⟨[.name (String.ofList word)], .inside isBlock owed false, cs.drop word.length⟩
            else .error .identifier
          else
            let literal := match cs with
              | q :: rest => if q == '"' || q == '\'' then quotedRun q rest else none
              | [] => none
            match literal with
            | some run =>
              match unescape run with
              | .ok value => .ok ⟨[.text (String.ofList value)], .inside isBlock owed false, cs.drop (run.length + 2)⟩
              | .error p => .error (.escape p)
            | none =>
              match symbol? cs with
              | some (symbol, n) => do
                let owed ← balance owed symbol
                return ⟨[.symbol symbol], .inside isBlock owed (symbol == .dot), cs.drop n⟩
              | none => .error (.unexpectedChar (cs.headD ' ') offset)

def step (layout : Layout) (place : Place) (lineStart : Bool) (offset : Nat) (cs : List Char) :
    Except Problem Step :=
  match place with
  | .text => .ok (textStep layout lineStart cs)
  | .comment => commentStep layout cs
  | .raw => rawStep layout lineStart cs
  | .inside isBlock owed afterDot => insideStep layout isBlock owed afterDot offset cs

def placeTokens (line : Nat) (whole rest : List Char) : List TokenKind → List Token
  | [] => []
  | [.data s] => [⟨line, .data s⟩]
  | .data s :: more => ⟨line, .data s⟩ :: more.map (⟨line + Text.countNewlines (consumed whole rest), ·⟩)
  | [k] =>
    match k with
    | .variableBegin => [⟨line + Text.countNewlines (consumed whole rest), k⟩]
    | .blockBegin => [⟨line + Text.countNewlines (consumed whole rest), k⟩]
    | k => [⟨line, k⟩]
  | ks => ks.map (⟨line, ·⟩)

structure Lexed where
  tokens : List Token
  flaw : Option Flaw

def run (layout : Layout) (total : Nat) : Nat → Place → Bool → Nat → List Char → Lexed
  | 0, _, _, line, _ => ⟨[], some ⟨.mishap .tooDeep, line⟩⟩
  | _ + 1, _, _, _, [] => ⟨[], none⟩
  | fuel + 1, place, lineStart, line, cs =>
    match step layout place lineStart (total - cs.length) cs with
    | .error p => ⟨[], some ⟨p, line⟩⟩
    | .ok s =>
      let more := run layout total fuel s.place (endsLine cs s.rest)
        (line + Text.countNewlines (consumed cs s.rest)) s.rest
      ⟨placeTokens line cs s.rest s.tokens ++ more.tokens, more.flaw⟩

def lex (layout : Layout) (source : List Char) : Lexed :=
  let cs := layout.prepare source
  run layout cs.length (cs.length + 1) .text true 1 cs

end Stencil.Template
