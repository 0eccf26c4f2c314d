import Stencil.Template.Parser.Stream
import Stencil.Template.Syntax

/-!
# Reading expressions

From loosest to tightest: a choice by `if`, `or`, `and`, `not`, comparisons, sums, concatenations, products, powers,
signs with filters and tests, and what is selected from or called on a single value. The readers take the reader
of nested expressions as an argument; its flag says whether a choice by `if` is allowed.
-/

set_option autoImplicit false

namespace Stencil.Template

open Parse

abbrev SubExpr := Bool → Parse Expr

structure Arguments where
  args : List Expr := []
  named : List (String × Expr) := []
  more : Option Expr := none
  moreNamed : Option Expr := none

def parseArgument (sub : SubExpr) (line : Nat) (a : Arguments) : Parse Arguments := do
  let ensure (ok : Bool) : Parse Unit := if ok then return () else fail .arguments line
  if ← atSymbol .mul then
    ensure (a.more.isNone && a.moreNamed.isNone)
    discard next
    return { a with more := some (← sub true) }
  else if ← atSymbol .pow then
    ensure a.moreNamed.isNone
    discard next
    return { a with moreNamed := some (← sub true) }
  else
    let isNamed ← match (← current).kind with
      | .name s => do
        if (← look).isSymbol .assign then pure (some s) else pure none
      | _ => pure none
    match isNamed with
    | some key =>
      ensure a.moreNamed.isNone
      skip 2
      return { a with named := a.named ++ [(key, ← sub true)] }
    | none =>
      ensure (a.more.isNone && a.moreNamed.isNone && a.named.isEmpty)
      return { a with args := a.args ++ [← sub true] }

def parseArguments (sub : SubExpr) : Parse Arguments := deeper 3 do
  let opening ← expectSymbol .lparen
  let step (state : Bool × Arguments) : Parse (Option (Bool × Arguments)) := do
    if ← atSymbol .rparen then return none
    if state.1 then
      discard (expectSymbol .comma)
      if ← atSymbol .rparen then return none
    return some (true, ← parseArgument sub opening.line state.2)
  let (_, a) ← extend step (← bound) (false, {})
  discard (expectSymbol .rparen)
  return a

def parseSubscript (sub : SubExpr) : Parse Expr := do
  let atPartEnd : Parse Bool := do
    return (← atSymbol .rbracket) || (← atSymbol .comma)
  let rest (start : Option Expr) : Parse Expr := do
    let stop ← do
      if ← atSymbol .colon then pure none
      else if ← atPartEnd then pure none
      else pure (some (← sub true))
    let stride ← do
      if ← skipSymbol .colon then
        if ← atPartEnd then pure none else pure (some (← sub true))
      else pure none
    return .slice start stop stride
  if ← skipSymbol .colon then rest none
  else
    let e ← sub true
    if ← skipSymbol .colon then rest (some e) else return e

def subscripted (operand : Expr) : List Expr → Expr
  | [part] => .item operand part
  | parts => .item operand (.tuple parts)

def parseMember (sub : SubExpr) (operand : Expr) : Parse Expr := do
  if ← skipSymbol .dot then
    let t ← next
    match t.kind with
    | .name s => return .attribute operand s
    | .int n => return .item operand (.literal (.int n))
    | _ => fail .noMember t.line
  else
    discard (expectSymbol .lbracket)
    let step (parts : List Expr) : Parse (Option (List Expr)) := do
      if ← atSymbol .rbracket then return none
      if !parts.isEmpty then discard (expectSymbol .comma)
      return some (parts ++ [← parseSubscript sub])
    let parts ← deeper 3 (do extend step (← bound) [])
    discard (expectSymbol .rbracket)
    return subscripted operand parts

def parseCall (sub : SubExpr) (function : Expr) : Parse Expr := do
  let a ← parseArguments sub
  return .call function a.args a.named a.more a.moreNamed

def parsePostfix (sub : SubExpr) (e : Expr) : Parse Expr := do
  let step (e : Expr) : Parse (Option Expr) := do
    if (← atSymbol .dot) || (← atSymbol .lbracket) then return some (← parseMember sub e)
    else if ← atSymbol .lparen then return some (← parseCall sub e)
    else return none
  extend step (← bound) e

def parseDottedName : Parse (String × Nat) := do
  let (first, line) ← expectName
  let step (s : String) : Parse (Option String) := do
    if ← skipSymbol .dot then
      let (part, _) ← expectName
      return some (s ++ "." ++ part)
    else return none
  return (← extend step (← bound) first, line)

def parseFilterCall (sub : SubExpr) (operand : Option Expr) : Parse Expr := do
  let (id, line) ← parseDottedName
  let a ← if ← atSymbol .lparen then parseArguments sub else pure {}
  return .filter operand id a.args a.named a.more a.moreNamed line

def parseFilters (sub : SubExpr) (operand : Option Expr) : Parse (Option Expr) := do
  let step (e : Option Expr) : Parse (Option (Option Expr)) := do
    if ← skipSymbol .pipe then return some (some (← parseFilterCall sub e)) else return none
  extend step (← bound) operand

def parseItems (closing : Symbol) (item : Parse Expr) : Parse (List Expr) := do
  let step (state : Bool × List Expr) : Parse (Option (Bool × List Expr)) := do
    if ← atSymbol closing then return none
    if state.1 then
      discard (expectSymbol .comma)
      if ← atSymbol closing then return none
    return some (true, state.2 ++ [← item])
  return (← extend step (← bound) (false, [])).2

def parseEntries (sub : SubExpr) : Parse (List (Expr × Expr)) := do
  let step (state : Bool × List (Expr × Expr)) : Parse (Option (Bool × List (Expr × Expr))) := do
    if ← atSymbol .rbrace then return none
    if state.1 then
      discard (expectSymbol .comma)
      if ← atSymbol .rbrace then return none
    let key ← sub true
    discard (expectSymbol .colon)
    return some (true, state.2 ++ [(key, ← sub true)])
  return (← extend step (← bound) (false, [])).2

def atTupleEnd (endWords : List String) : Parse Bool := do
  let t ← current
  match t.kind with
  | .variableEnd => return true
  | .blockEnd => return true
  | .symbol .rparen => return true
  | .name s => return endWords.contains s
  | _ => return false

def parseRow {α : Type} (item : Parse α) (endWords : List String) : Parse (List α × Bool) := do
  -- the state: items so far, whether a comma was seen, whether another item may follow
  let step (state : List α × Bool × Bool) : Parse (Option (List α × Bool × Bool)) := do
    let (items, isTuple, goOn) := state
    if !goOn then return none
    if !items.isEmpty then discard (expectSymbol .comma)
    if ← atTupleEnd endWords then return none
    let items := items ++ [← item]
    if ← atSymbol .comma then return some (items, true, true) else return some (items, isTuple, false)
  let (items, isTuple, _) ← extend step (← bound) ([], false, true)
  return (items, isTuple)

def parseTuple (sub : SubExpr) (withChoice : Bool) (endWords : List String) (parenthesized : Bool) : Parse Expr := do
  let (items, isTuple) ← parseRow (sub withChoice) endWords
  match items, isTuple with
  | [e], false => return e
  | [], false =>
    if parenthesized then return .tuple []
    else failHere (.noExpression (← current).kind.description)
  | items, _ => return .tuple items

def parseText (first : String) : Parse String := do
  let step (s : String) : Parse (Option String) := do
    match (← current).kind with
    | .text t =>
      discard next
      return some (s ++ t)
    | _ => return none
  extend step (← bound) first

def nameOrLiteral (word : String) (line : Nat) : Expr :=
  match word with
  | "true" | "True" => .literal (.bool true)
  | "false" | "False" => .literal (.bool false)
  | "none" | "None" => .literal .null
  | _ => .name word line

def parsePrimary (sub : SubExpr) : Parse Expr := do
  let t ← current
  match t.kind with
  | .name s =>
    discard next
    return nameOrLiteral s t.line
  | .text s =>
    discard next
    return .literal (.text (← parseText s))
  | .int n =>
    discard next
    return .literal (.int n)
  | .float x =>
    discard next
    return .literal (.float x)
  | .symbol .lparen =>
    discard next
    let e ← deeper 2 (parseTuple sub true [] true)
    discard (expectSymbol .rparen)
    return e
  | .symbol .lbracket =>
    discard next
    let items ← deeper 2 (parseItems .rbracket (sub true))
    discard (expectSymbol .rbracket)
    return .list items
  | .symbol .lbrace =>
    discard next
    let entries ← deeper 2 (parseEntries sub)
    discard (expectSymbol .rbrace)
    return .dict entries
  | kind => fail (.unexpected kind.description) t.line

def startsTestArgument : TokenKind → Bool
  | .name s => s != "else" && s != "or" && s != "and"
  | .text _ => true
  | .int _ => true
  | .float _ => true
  | .symbol .lbracket => true
  | .symbol .lbrace => true
  | _ => false

def parseTest (sub : SubExpr) (operand : Expr) : Parse Expr := do
  let isToken ← next
  let negated ← skipName "not"
  let (id, _) ← parseDottedName
  let a : Arguments ← do
    if ← atSymbol .lparen then parseArguments sub
    else if startsTestArgument (← current).kind then
      if ← atName "is" then failHere .chainedTests
      let e ← parsePostfix sub (← parsePrimary sub)
      pure { args := [e] }
    else pure {}
  let test := Expr.test operand id a.args a.named a.more a.moreNamed isToken.line
  return if negated then .not test else test

def parseFilterExpr (sub : SubExpr) (e : Expr) : Parse Expr := do
  let step (e : Expr) : Parse (Option Expr) := do
    if ← skipSymbol .pipe then return some (← parseFilterCall sub (some e))
    else if ← atName "is" then return some (← parseTest sub e)
    else if ← atSymbol .lparen then return some (← parseCall sub e)
    else return none
  extend step (← bound) e

def parseUnary (sub : SubExpr) : Nat → Bool → Parse Expr
  | 0, _ => failHere (.mishap .tooDeep)
  | n + 1, withFilter => do
    let e ← do
      if ← skipSymbol .sub then pure (.negative (← deeper 1 (parseUnary sub n false)))
      else if ← skipSymbol .add then pure (.positive (← deeper 1 (parseUnary sub n false)))
      else parsePrimary sub
    let e ← parsePostfix sub e
    if withFilter then parseFilterExpr sub e else return e

def parseLeft (operand : Parse Expr) (operator : TokenKind → Option (Expr → Expr → Expr)) : Parse Expr := do
  let step (left : Expr) : Parse (Option Expr) := do
    match operator (← current).kind with
    | none => return none
    | some join =>
      discard next
      return some (join left (← operand))
  let first ← operand
  extend step (← bound) first

def parsePow (sub : SubExpr) : Parse Expr :=
  parseLeft (do parseUnary sub (← bound) true) fun
    | .symbol .pow => some (.binary .pow)
    | _ => none

def parseProduct (sub : SubExpr) : Parse Expr :=
  parseLeft (parsePow sub) fun
    | .symbol .mul => some (.binary .mul)
    | .symbol .div => some (.binary .div)
    | .symbol .floorDiv => some (.binary .floorDiv)
    | .symbol .mod => some (.binary .mod)
    | _ => none

def parseConcat (sub : SubExpr) : Parse Expr := do
  let step (items : List Expr) : Parse (Option (List Expr)) := do
    if ← skipSymbol .tilde then return some (items ++ [← parseProduct sub]) else return none
  let first ← parseProduct sub
  match ← extend step (← bound) [first] with
  | [e] => return e
  | items => return .concat items

def parseSum (sub : SubExpr) : Parse Expr :=
  parseLeft (parseConcat sub) fun
    | .symbol .add => some (.binary .add)
    | .symbol .sub => some (.binary .sub)
    | _ => none

def compareSymbol? : TokenKind → Option CompareOp
  | .symbol .eq => some .eq
  | .symbol .ne => some .ne
  | .symbol .lt => some .lt
  | .symbol .le => some .le
  | .symbol .gt => some .gt
  | .symbol .ge => some .ge
  | _ => none

def parseCompare (sub : SubExpr) : Parse Expr := do
  let step (ops : List (CompareOp × Expr)) : Parse (Option (List (CompareOp × Expr))) := do
    match compareSymbol? (← current).kind with
    | some op =>
      discard next
      return some (ops ++ [(op, ← parseSum sub)])
    | none =>
      if ← skipName "in" then return some (ops ++ [(.member, ← parseSum sub)])
      else if ← atName "not" then
        if (← look).isName "in" then
          skip 2
          return some (ops ++ [(.notMember, ← parseSum sub)])
        else return none
      else return none
  let first ← parseSum sub
  match ← extend step (← bound) [] with
  | [] => return first
  | ops => return .compare first ops

def parseNot (sub : SubExpr) : Nat → Parse Expr
  | 0 => failHere (.mishap .tooDeep)
  | n + 1 => do
    if ← skipName "not" then return .not (← deeper 1 (parseNot sub n)) else parseCompare sub

def parseAnd (sub : SubExpr) : Parse Expr :=
  parseLeft (do parseNot sub (← bound)) fun
    | .name "and" => some .and
    | _ => none

def parseOr (sub : SubExpr) : Parse Expr :=
  parseLeft (parseAnd sub) fun
    | .name "or" => some .or
    | _ => none

def parseChoice (sub : SubExpr) : Nat → Parse Expr
  | 0 => failHere (.mishap .tooDeep)
  | n + 1 => do
    let step (state : Expr × Nat) : Parse (Option (Expr × Nat)) := do
      if ← skipName "if" then
        let condition ← parseOr sub
        let negative ← if ← skipName "else" then pure (some (← deeper 1 (parseChoice sub n))) else pure none
        return some (.choose condition state.1 negative state.2, (← current).line)
      else return none
    let line := (← current).line
    let first ← parseOr sub
    return (← extend step (← bound) (first, line)).1

def expressionWithin : Nat → Bool → Parse Expr
  | 0, _ => failHere (.mishap .tooDeep)
  | n + 1, withChoice =>
    let sub := expressionWithin n
    deeper 11 (if withChoice then do parseChoice sub (← bound) else parseOr sub)

def expression (withChoice : Bool) : Parse Expr := do expressionWithin (← bound) withChoice

end Stencil.Template
