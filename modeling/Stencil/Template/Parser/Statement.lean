import Stencil.Data.Basic
import Stencil.Number.Written
import Stencil.Template.Parser.Expression

/-!
# Reading statements

Statements are introduced by a word. The template language's own words come first, then the tags that are known
when the template is read. The readers take the reader of nested statements as an argument.
-/

set_option autoImplicit false

namespace Stencil.Template

open Parse

abbrev SubBody := Nesting → List String → Parse (List Node)

inductive TargetItem where
  | target (t : Target)
  | expr (e : Expr)

def TargetItem.toTarget? : TargetItem → Option Target
  | .target t => some t
  | .expr e => e.toTarget?

def TargetItem.kindName : TargetItem → String
  | .target _ => "nsref"
  | .expr e => e.kindName

def parseTargetItem (withNamespace : Bool) : Parse TargetItem := do
  let t ← current
  match t.kind with
  | .name s =>
    match nameOrLiteral s t.line with
    | .name id line =>
      discard next
      if withNamespace && (← atSymbol .dot) then
        discard next
        let (member, _) ← expectName
        return .target (.attribute id member)
      else return .expr (.name id line)
    | e =>
      discard next
      return .expr e
  | _ => return .expr (← parsePrimary expression)

def parseTarget (endWords : List String) (withNamespace : Bool) : Parse Target := do
  let line := (← current).line
  let (items, isTuple) ← parseRow (parseTargetItem withNamespace) endWords
  match items, isTuple with
  | [item], false =>
    match item.toTarget? with
    | some t => return t
    | none => fail (.notAssignable item.kindName) line
  | [], false => failHere (.noExpression (← current).kind.description)
  | items, _ =>
    match items.mapM TargetItem.toTarget? with
    | some ts => return .tuple ts
    | none => fail (.notAssignable "tuple") line

def isReserved (word : String) : Bool := ["true", "false", "none", "True", "False", "None"].contains word

def parseNameTarget : Parse (String × Nat) := do
  let (id, line) ← expectName
  if isReserved id then fail (.notAssignable "name") line else return (id, line)

def parseBody (sub : SubBody) (nesting : Nesting) (ends : List String) : Parse (List Node) := do
  discard (skipSymbol .colon)
  discard expectBlockEnd
  let body ← sub { nesting with ends := ends :: nesting.ends } ends
  let t ← current
  if t.isEnding then fail (.unclosed { nesting with ends := ends :: nesting.ends }) t.line
  return body

def parseWholeBody (sub : SubBody) (nesting : Nesting) (ending : String) : Parse (List Node) := do
  let body ← parseBody sub nesting [ending]
  discard next
  return body

def parseSet (sub : SubBody) (nesting : Nesting) : Parse Node := do
  discard next
  let target ← parseTarget [] true
  if ← skipSymbol .assign then return .assign target (← parseTuple expression true [] false)
  else
    let filter ← parseFilters expression none
    return .capture target filter (← parseWholeBody sub nesting "endset")

def parseFor (sub : SubBody) (nesting : Nesting) : Parse Node := do
  discard (expectWord "for")
  let target ← parseTarget ["in"] false
  discard (expectWord "in")
  let iterable ← parseTuple expression false ["recursive"] false
  let test ← if ← skipName "if" then pure (some (← expression true)) else pure none
  let isRecursive ← skipName "recursive"
  let body ← parseBody sub nesting ["endfor", "else"]
  let ending ← next
  let otherwise ← if ending.isName "endfor" then pure [] else parseWholeBody sub nesting "endfor"
  return .forLoop target iterable test isRecursive body otherwise

def parseBranch (sub : SubBody) (nesting : Nesting) : Parse (Expr × List Node) := do
  let condition ← parseTuple expression false [] false
  return (condition, ← parseBody sub nesting ["elif", "else", "endif"])

def parseIf (sub : SubBody) (nesting : Nesting) : Parse Node := do
  discard (expectWord "if")
  let (condition, body) ← parseBranch sub nesting
  let step (branches : List (Expr × List Node)) : Parse (Option (List (Expr × List Node))) := do
    if ← skipName "elif" then return some (branches ++ [← parseBranch sub nesting]) else return none
  let branches ← extend step (← bound) []
  let ending ← next
  let otherwise ← if ending.isName "else" then parseWholeBody sub nesting "endif" else pure []
  return .ifElse condition body branches otherwise

def parseWith (sub : SubBody) (nesting : Nesting) : Parse Node := do
  discard next
  let step (bindings : List (Target × Expr)) : Parse (Option (List (Target × Expr))) := do
    if ← atBlockEnd then return none
    if !bindings.isEmpty then discard (expectSymbol .comma)
    let target ← parseTarget [] false
    discard (expectSymbol .assign)
    return some (bindings ++ [(target, ← expression true)])
  let bindings ← extend step (← bound) []
  return .withVars bindings (← parseWholeBody sub nesting "endwith")

def parseAutoescape (sub : SubBody) (nesting : Nesting) : Parse Node := do
  discard next
  let value ← expression true
  return .autoescape value none (← parseWholeBody sub nesting "endautoescape")

def isBlankData : Node → Bool
  | .output pieces => pieces.all fun
    | .data s => s.toList.all Text.isBlank
    | _ => false
  | _ => false

def parseBlock (sub : SubBody) (nesting : Nesting) : Parse Node := do
  let opening ← next
  let (id, _) ← expectName
  let isScoped ← skipName "scoped"
  let isRequired ← skipName "required"
  if ← atSymbol .sub then failHere .hyphen
  let body ← parseWholeBody sub nesting "endblock"
  if isRequired && !body.all isBlankData then failHere .requiredBlock
  discard (skipName id)
  return .block id isScoped isRequired body opening.line

def parseExtends : Parse Node := do
  let opening ← next
  return .extendsFrom (← expression true) opening.line

def parseContext? : Parse (Option Bool) := do
  let wanted ← match (← current).kind with
    | .name "with" => pure (some true)
    | .name "without" => pure (some false)
    | _ => pure none
  match wanted with
  | none => return none
  | some flag =>
    if (← look).isName "context" then
      skip 2
      return some flag
    else return none

def parseInclude : Parse Node := do
  discard next
  let template ← expression true
  let ignoreMissing ← do
    if ← atName "ignore" then
      if (← look).isName "missing" then
        skip 2
        pure true
      else pure false
    else pure false
  return .includeFile template ignoreMissing ((← parseContext?).getD true)

def parseImport : Parse Node := do
  discard next
  let template ← expression true
  discard (expectWord "as")
  let (id, _) ← parseNameTarget
  return .importAs template id ((← parseContext?).getD false)

structure ImportedNames where
  names : List (String × String) := []
  withContext : Option Bool := none
  finished : Bool := false

def parseImportedName (state : ImportedNames) : Parse ImportedNames := do
  let (id, line) ← parseNameTarget
  if id.startsWith "_" then fail .hiddenImport line
  let given ← if ← skipName "as" then pure (← parseNameTarget).1 else pure id
  let names := state.names ++ [(id, given)]
  match ← parseContext? with
  | some flag => return ⟨names, some flag, true⟩
  | none => return ⟨names, none, !(← atSymbol .comma)⟩

def parseFrom : Parse Node := do
  let opening ← next
  let template ← expression true
  discard (expectWord "import")
  let step (state : ImportedNames) : Parse (Option ImportedNames) := do
    if state.finished then return none
    if !state.names.isEmpty then discard (expectSymbol .comma)
    match (← current).kind with
    | .name _ =>
      match ← parseContext? with
      | some flag => return some { state with withContext := some flag, finished := true }
      | none => return some (← parseImportedName state)
    | _ => failExpected "name"
  let found ← extend step (← bound) {}
  return .importNames template found.names (found.withContext.getD false) opening.line

def parseParams : Parse Params := do
  discard (expectSymbol .lparen)
  let step (p : Params) : Parse (Option Params) := do
    if ← atSymbol .rparen then return none
    if !p.names.isEmpty then discard (expectSymbol .comma)
    let (id, _) ← parseNameTarget
    if ← skipSymbol .assign then return some ⟨p.names ++ [id], p.defaults ++ [← expression true]⟩
    else if !p.defaults.isEmpty then failHere .defaultOrder
    else return some ⟨p.names ++ [id], p.defaults⟩
  let params ← extend step (← bound) ⟨[], []⟩
  discard (expectSymbol .rparen)
  return params

def parseCallBlock (sub : SubBody) (nesting : Nesting) : Parse Node := do
  let opening ← next
  let params ← if ← atSymbol .lparen then parseParams else pure ⟨[], []⟩
  let call ← expression true
  match call with
  | .call _ _ _ _ _ => pure ()
  | _ => fail .notACall opening.line
  return .callBlock params call (← parseWholeBody sub nesting "endcall") opening.line

def parseFilterBlock (sub : SubBody) (nesting : Nesting) : Parse Node := do
  discard next
  let first ← parseFilterCall expression none
  let filter ← parseFilters expression (some first)
  return .filterBlock (filter.getD first) (← parseWholeBody sub nesting "endfilter")

def parseMacro (sub : SubBody) (nesting : Nesting) : Parse Node := do
  let opening ← next
  let (id, _) ← parseNameTarget
  let params ← parseParams
  return .macroDef id params (← parseWholeBody sub nesting "endmacro") opening.line

def parsePrint : Parse Node := do
  discard next
  let step (pieces : List Piece) : Parse (Option (List Piece)) := do
    if ← atBlockEnd then return none
    if !pieces.isEmpty then discard (expectSymbol .comma)
    return some (pieces ++ [.value (← expression true)])
  return .output (← extend step (← bound) [])

def TokenKind.markup : TokenKind → String
  | .data s => s
  | .name s => s
  | .text s => Text.quoted s
  | .int n => toString n
  | .float x => Number.floatText x
  | .symbol s => s.text
  | .variableBegin => "\x7b\x7b"
  | .variableEnd => "\x7d\x7d"
  | .blockBegin => "\x7b%"
  | .blockEnd => "%\x7d"
  | .ending => ""

def TokenKind.isTooLong : TokenKind → Bool
  | .int n => Data.isTooLong n
  | _ => false

def parseMarkup : Parse String := do
  let step (parts : List String) : Parse (Option (List String)) := do
    let t ← current
    if t.isBlockEnd || t.isEnding then return none
    discard next
    if t.kind.isTooLong then fail (.mishap .badValue) t.line
    return some (parts ++ [t.kind.markup])
  return " ".intercalate (← extend step (← bound) [])

def endTag (tag : String) : String := "end" ++ tag

def parseTag (sub : SubBody) (nesting : Nesting) (tag : String) : Parse Node := do
  discard next
  let markup ← parseMarkup
  let body ← parseWholeBody sub nesting (endTag tag)
  return .tagBlock tag markup (body ++ [.collect])

def parseStatement (tags : List String) (sub : SubBody) (outer : Nesting) : Parse Node := do
  let t ← current
  match t.kind with
  | .name word =>
    let nesting := { outer with tags := word :: outer.tags }
    match word with
    | "for" => parseFor sub nesting
    | "if" => parseIf sub nesting
    | "block" => parseBlock sub nesting
    | "extends" => parseExtends
    | "print" => parsePrint
    | "macro" => parseMacro sub nesting
    | "include" => parseInclude
    | "from" => parseFrom
    | "import" => parseImport
    | "set" => parseSet sub nesting
    | "with" => parseWith sub nesting
    | "autoescape" => parseAutoescape sub nesting
    | "call" => parseCallBlock sub nesting
    | "filter" => parseFilterBlock sub nesting
    | _ =>
      if tags.contains word then parseTag sub nesting word
      else fail (.unknownTag word outer) t.line
  | _ => fail .noTagName t.line

def flush (pieces : List Piece) (nodes : List Node) : List Node :=
  if pieces.isEmpty then nodes else nodes ++ [.output pieces]

def parseNodes (tags : List String) :
    Nat → Nesting → List String → List Piece → List Node → Parse (List Node)
  | 0, _, _, _, _ => failHere (.mishap .tooDeep)
  | n + 1, nesting, ends, pieces, nodes => do
    let t ← current
    match t.kind with
    | .ending => return flush pieces nodes
    | .data s =>
      discard next
      parseNodes tags n nesting ends (pieces ++ [.data s]) nodes
    | .variableBegin =>
      discard next
      let e ← parseTuple expression true [] false
      discard expectVariableEnd
      parseNodes tags n nesting ends (pieces ++ [.value e]) nodes
    | .blockBegin =>
      discard next
      let nodes := flush pieces nodes
      match (← current).kind with
      | .name word =>
        if ends.contains word then return nodes
        else
          let sub (nesting : Nesting) (ends : List String) := deeper 4 (parseNodes tags n nesting ends [] [])
          let node ← parseStatement tags sub nesting
          discard expectBlockEnd
          parseNodes tags n nesting ends [] (nodes ++ [node])
      | _ => fail .noTagName (← current).line
    | kind => fail (.unexpected kind.description) t.line

def parse (layout : Layout) (tags : List String) (source : String) : Except Flaw (List Node) := do
  let stream ← Stream.start (lex layout source.toList)
  let (nodes, _) ← (parseNodes tags (2 * stream.tokens.length + 2) {} [] [] []).run stream
  return nodes

end Stencil.Template
