import Stencil.Engine.Filter.Basic
import Stencil.Json.Writer
import Stencil.Text.Word

/-!
# Filters on texts
-/

set_option autoImplicit false

namespace Stencil.Engine

def mapText (I : Interp) (f : List Char → List Char) (v : Value) : Eval Value := do
  let t ← asText I v
  return likeText t (String.ofList (f ((textOf? t).getD "").toList))

def filterTitle (I : Interp) (v : Value) : Eval Value := do
  return .text (String.ofList (Text.title (← display I v).toList))

def filterTrim (I : Interp) (v chars : Value) : Eval Value := do
  let chars ← charsArgument chars
  mapText I (fun cs => stripWith chars cs true true) v

def filterEscape (I : Interp) (v : Value) : Eval Value := do return .safe (← escaped I v)

def filterForceEscape (I : Interp) (v : Value) : Eval Value := do return .safe (Text.htmlEscape (← display I v))

def replaceLimit (count : Value) (cs : List Char) : Eval Nat := do
  match count with
  | .null => return cs.length + 1
  | count => return limitOf cs (← needInt count)

def replaceIn (like : Value) (count : Value) (s old new : String) : Eval Value := do
  let limit ← replaceLimit count s.toList
  return likeText like (String.ofList (Text.replaceText old.toList new.toList limit s.toList))

def filterReplace (I : Interp) (env : Env) (v old new count : Value) : Eval Value := do
  if ← escapesNow I env then
    let subject ← if isSafe old || (isSafe new && !isSafe v) then filterEscape I v else asText I v
    let old ← display I old
    let new ← if isSafe subject then escaped I new else display I new
    replaceIn subject count ((textOf? subject).getD "") old new
  else replaceIn (.text "") count (← display I v) (← display I old) (← display I new)

def filterFormat (I : Interp) (v : Value) (args : List Value) (named : Named) : Eval Value := do
  if !args.isEmpty && !named.isEmpty then
    throw (.filterArgument "can't handle positional and keyword arguments at the same time")
  let template ← asText I v
  if named.isEmpty then formatText I formatKey template (.tuple args)
  else formatText I formatKey template (← newDict (namedEntries named))

def joinLines (separator : Value) (lines : List Value) : Value :=
  match separator with
  | .safe s => .safe (s.intercalate (lines.map fun
    | .safe t => t
    | line => Text.htmlEscape ((textOf? line).getD "")))
  | separator => .text (((textOf? separator).getD "").intercalate (lines.map fun line => (textOf? line).getD ""))

def safeLike (v s : Value) : Value := if isSafe v then .safe ((textOf? s).getD "") else s

def isList : Value → Bool
  | .list _ => true
  | _ => false

def withMargin (I : Interp) (indention line : Value) : Eval Value :=
  if textOf? line == some "" then return line else binaryOp I .add indention line

def indentRest (I : Interp) (newline indention : Value) : List Value → Eval Value
  | [] => return .text ""
  | [line] => return line
  | line :: rest => do
    let block ← binaryOp I .add newline (joinLines newline (← rest.mapM (withMargin I indention)))
    binaryOp I .add line block

def indentBehind (I : Interp) (newline indention blank : Value) (lines : List Value) : Eval Value := do
  if ← truth I blank then return joinLines (← binaryOp I .add newline indention) lines
  else indentRest I newline indention lines

def marginOf (I : Interp) (width : Value) : Eval Value :=
  if isTextValue width then return width else binaryOp I .mul (.text " ") width

def linesOf (text : Value) : List Value :=
  (Text.splitLines ((textOf? text).getD "").toList).map fun line => likeText text (String.ofList line)

def filterIndent (I : Interp) (v width first blank : Value) : Eval Value := do
  let indention := safeLike v (← marginOf I width)
  let newline := safeLike v (.text "\n")
  if isList v then fail .noAttribute
  let text ← binaryOp I .add v newline
  let body ← indentBehind I newline indention blank (linesOf text)
  if ← truth I first then binaryOp I .add indention body else return body

def jsonSafe : Char → List Char
  | '<' => "\\u003c".toList
  | '>' => "\\u003e".toList
  | '&' => "\\u0026".toList
  | '\'' => "\\u0027".toList
  | c => [c]

def jsonIndent (I : Interp) (v indent : Value) : Eval (Option String) := do
  match indent with
  | .null => return none
  | indent =>
    if isTextValue v then return none
    else match textOf? indent with
      | some s => return some s
      | none => return textOf? (← binaryOp I .mul (.text " ") indent)

def filterToJson (I : Interp) (v indent : Value) : Eval Value := do
  let style : Json.Style := { asciiOnly := true, sortKeys := true, indent := ← jsonIndent I v indent }
  match Json.write style (← freeze v) with
  | .ok s => return .safe (String.ofList (s.toList.flatMap jsonSafe))
  | .error m => fail m

def givenPath? (path : Value) : Eval (Option (List Value)) := do
  match path with
  | .null => return none
  | path => return some (← pathParts path)

def followGiven (I : Interp) (parts : Option (List Value)) (item : Value) : Eval Value :=
  match parts with
  | none => return item
  | some parts => followPath I item parts

def joinEscaped (I : Interp) (separator : Value) (items : List Value) : Eval Value := do
  if isSafe separator || items.any isSafe then
    return .safe ((← escaped I separator).intercalate (← items.mapM (escaped I)))
  else return .text ((← display I separator).intercalate (← items.mapM (display I)))

def filterJoin (I : Interp) (env : Env) (v separator path : Value) : Eval Value := do
  let parts ← givenPath? path
  if parts.isSome then discard (iterate v)
  if ← escapesNow I env then joinEscaped I separator (← (← itemsOf I v).mapM (followGiven I parts))
  else
    let plain ← display I separator
    let items ← (← itemsOf I v).mapM (followGiven I parts)
    return .text (plain.intercalate (← items.mapM (display I)))

def countWords : Bool → List Char → Nat
  | _, [] => 0
  | inside, c :: cs =>
    let isWord := Text.isWordChar c
    (if isWord && !inside then 1 else 0) + countWords isWord cs

def filterCenter (I : Interp) (v width : Value) : Eval Value := do
  let n := (← needInt width).toNat
  mapText I (fun cs =>
    let fill := n - cs.length
    let left := fill / 2 + (if fill % 2 = 1 && n % 2 = 1 then 1 else 0)
    List.replicate left ' ' ++ cs ++ List.replicate (fill - left) ' ') v

end Stencil.Engine
