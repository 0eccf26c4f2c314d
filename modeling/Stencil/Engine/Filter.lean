import Stencil.Engine.Filter.Number
import Stencil.Engine.Filter.Sequence
import Stencil.Engine.Filter.Sift
import Stencil.Engine.Filter.Text

/-!
# Filters

A filter is a named function of a value and further arguments.
-/

set_option autoImplicit false

namespace Stencil.Engine

open Stencil.Template

def filterDefault (I : Interp) (v default boolean : Value) : Eval Value := do
  match v with
  | .missing _ => return default
  | v =>
    if ← truth I boolean then
      if ← truth I v then return v else return default
    else return v

def filterItems (v : Value) : Eval Value := do
  match v with
  | .missing _ => newIter (.items "generator" [])
  | .dict r => newIter (.items "generator" (viewItems .items (← dictEntries r)))
  | _ => fail .wrongType

def batches (size : Nat) (fill : Option Value) : Nat → List Value → List (List Value)
  | 0, _ => []
  | _ + 1, [] => []
  | n + 1, items =>
    let piece := items.take size
    let piece := match fill with
      | some v => piece ++ List.replicate (size - piece.length) v
      | none => piece
    piece :: batches size fill n (items.drop size)

def present? : Value → Option Value
  | .null => none
  | v => some v

def filterBatch (I : Interp) (v size fill : Value) : Eval Value := do
  let items ← itemsOf I v
  let n ← needInt size
  newIter (.items "generator" (← (batches (max n.toNat 1) (present? fill) (items.length + 1) items).mapM newList))

def filterLength (I : Interp) (v : Value) : Eval Value := do return natValue (← size I v)

def filterSafe (I : Interp) (v : Value) : Eval Value := do return .safe (← display I v)

def filterWordCount (I : Interp) (v : Value) : Eval Value := do
  return natValue (countWords false (← display I v).toList)

def applyFilter (I : Interp) (env : Env) (id : String) (args : List Value) (named : Named) : Eval Value := do
  let one (f : Value → Eval Value) : Eval Value := do
    f ((← Signature.bind ⟨["value"], 1⟩ args named).get "value" .null)
  let bind (names : List String) (required : Nat) : Eval Given := Signature.bind ⟨"value" :: names, required⟩ args named
  let yes (b : Bool) : Value := .bool b
  match id with
  | "abs" => one filterAbs
  | "attr" =>
    let g ← bind ["name"] 2
    let v := g.get "value" .null
    let id ← display I (g.get "name" .null)
    match ← member? I v id with
    | some found => return found
    | none => missingMember v (.text id)
  | "batch" =>
    let g ← bind ["linecount", "fill_with"] 2
    filterBatch I (g.get "value" .null) (g.get "linecount" .null) (g.get "fill_with" .null)
  | "capitalize" => one (mapText I Text.capitalize)
  | "center" =>
    let g ← bind ["width"] 1
    filterCenter I (g.get "value" .null) (g.get "width" (.int 80))
  | "length" | "count" => one (filterLength I)
  | "default" | "d" =>
    let g ← bind ["default_value", "boolean"] 1
    filterDefault I (g.get "value" .null) (g.get "default_value" (.text "")) (g.get "boolean" (yes false))
  | "dictsort" =>
    let g ← bind ["case_sensitive", "by", "reverse"] 1
    filterDictSort I (g.get "value" .null) (g.get "case_sensitive" (yes false)) (g.get "by" (.text "key"))
      (g.get "reverse" (yes false))
  | "escape" | "e" => one (filterEscape I)
  | "forceescape" => one (filterForceEscape I)
  | "first" => one (filterFirst I)
  | "float" =>
    let g ← bind ["default"] 1
    filterFloat (g.get "value" .null) (g.get "default" (.float 0.0))
  | "format" =>
    match args with
    | [] => fail .wrongType
    | v :: rest => filterFormat I v rest named
  | "indent" =>
    let g ← bind ["width", "first", "blank"] 1
    filterIndent I (g.get "value" .null) (g.get "width" (.int 4)) (g.get "first" (yes false))
      (g.get "blank" (yes false))
  | "int" =>
    let g ← bind ["default", "base"] 1
    filterInt (g.get "value" .null) (g.get "default" (.int 0)) (g.get "base" (.int 10))
  | "items" => one filterItems
  | "join" =>
    let g ← bind ["d", "attribute"] 1
    filterJoin I env (g.get "value" .null) (g.get "d" (.text "")) (g.get "attribute" .null)
  | "last" => one (filterLast I)
  | "list" => one (filterList I)
  | "lower" => one (mapText I Text.lower)
  | "max" =>
    let g ← bind ["case_sensitive", "attribute"] 1
    filterExtreme I .gt (g.get "value" .null) (g.get "case_sensitive" (yes false)) (g.get "attribute" .null)
  | "min" =>
    let g ← bind ["case_sensitive", "attribute"] 1
    filterExtreme I .lt (g.get "value" .null) (g.get "case_sensitive" (yes false)) (g.get "attribute" .null)
  | "replace" =>
    let g ← bind ["old", "new", "count"] 3
    filterReplace I env (g.get "value" .null) (g.get "old" .null) (g.get "new" .null) (g.get "count" .null)
  | "reverse" => one (filterReverse I)
  | "round" =>
    let g ← bind ["precision", "method"] 1
    filterRound I (g.get "value" .null) (g.get "precision" (.int 0)) (g.get "method" (.text "common"))
  | "safe" => one (filterSafe I)
  | "sort" =>
    let g ← bind ["reverse", "case_sensitive", "attribute"] 1
    filterSort I (g.get "value" .null) (g.get "reverse" (yes false)) (g.get "case_sensitive" (yes false))
      (g.get "attribute" .null)
  | "string" => one (asText I)
  | "sum" =>
    let g ← bind ["attribute", "start"] 1
    filterSum I (g.get "value" .null) (g.get "attribute" .null) (g.get "start" (.int 0))
  | "title" => one (filterTitle I)
  | "tojson" =>
    let g ← bind ["indent"] 1
    filterToJson I (g.get "value" .null) (g.get "indent" .null)
  | "trim" =>
    let g ← bind ["chars"] 1
    filterTrim I (g.get "value" .null) (g.get "chars" .null)
  | "upper" => one (mapText I Text.upper)
  | "wordcount" => one (filterWordCount I)
  | _ =>
    if siftNames.contains id then sift env id args named
    else if filterNames.contains id || !named.isEmpty then fail .wrongType
    else throw (.broken ("No filter named " ++ Text.quoted id ++ " found."))

end Stencil.Engine
