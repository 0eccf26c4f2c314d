import Stencil.Engine.Filter.Basic

/-!
# Filters on rows of items
-/

set_option autoImplicit false

namespace Stencil.Engine

def filterFirst (I : Interp) (v : Value) : Eval Value := do
  let it ← iterate v
  match ← I.next it with
  | some x => return x
  | none => newMissing .nothing "No first item, sequence was empty."

def reversed? (v : Value) : Eval (Option Iter) := do
  match v with
  | .list r => return some (.backward r (← listItems r).length)
  | .dict r => return some (← keysBackward r "dict_reversekeyiterator" .keys)
  | .view .keys r => return some (← keysBackward r "dict_reversekeyiterator" .keys)
  | .view .values r => return some (← keysBackward r "dict_reversevalueiterator" .values)
  | .view .items r => return some (← keysBackward r "dict_reverseitemiterator" .items)
  | .range a b c =>
    let n := rangeLength a b c
    return some (.counting (a + c * ((n : Int) - 1)) (-c) n)
  | .tuple items => return some (.items "reversed" items.reverse)
  | .text s => return some (.items "reversed" (charTexts s).reverse)
  | .safe s => return some (.items "reversed" (s.toList.map fun c => Value.safe (String.singleton c)).reverse)
  | .bytes content => return some (.items "reversed" (byteValues content).reverse)
  | .missing m =>
    admitMissing m
    return some (.items "reversed" [])
  | _ => return none
where
  keysBackward (r : Ref) (typeName : String) (kind : ViewKind) : Eval Iter := do
    let entries ← dictEntries r
    let typeName := if (← insists r) then "odict_iterator" else typeName
    return .guarded typeName (.dict r) entries.length (viewItems kind entries).reverse

def filterLast (I : Interp) (v : Value) : Eval Value := do
  let it ← liftOption .wrongType (← reversed? v)
  match ← I.next (← alloc (.iter it)) with
  | some x => return x
  | none => newMissing .nothing "No last item, sequence was empty."

def reverseItems (I : Interp) (v : Value) : Eval Value := do
  match ← reversed? v with
  | some it => newIter it
  | none =>
    recover (do newList (← itemsOf I v).reverse) fun f =>
      if f == .mishap .wrongType then throw (.filterArgument "argument must be iterable") else throw f

def filterReverse (I : Interp) (v : Value) : Eval Value := do
  match v with
  | .text s => return .text (String.ofList s.toList.reverse)
  | .safe s => return .safe (String.ofList s.toList.reverse)
  | v => reverseItems I v

def filterList (I : Interp) (v : Value) : Eval Value := do newList (← itemsOf I v)

def filterSort (I : Interp) (v reverse caseSensitive path : Value) : Eval Value := do
  let exact ← truth I caseSensitive
  let paths ← pathList path
  let items ← itemsOf I v
  let reverse ← reverseFlag reverse
  let keyed ← items.mapM fun item => do
    return (Value.tuple (← paths.mapM fun parts => itemKey I exact parts item), item)
  newList (← sortValues reverse keyed)

def extremeOf (key : Value → Eval Value) (op : OrderOp) (best : Value × Value) : List Value → Eval Value
  | [] => return best.2
  | item :: rest => do
    let x ← key item
    if ← valueRelated op x best.1 then extremeOf key op (x, item) rest else extremeOf key op best rest

def filterExtreme (I : Interp) (op : OrderOp) (v caseSensitive path : Value) : Eval Value := do
  match ← itemsOf I v with
  | [] => newMissing .nothing "No aggregated item, sequence was empty."
  | first :: rest =>
    let exact ← truth I caseSensitive
    let key := itemKey I exact (← pathParts path)
    extremeOf key op (← key first, first) rest

def filterSum (I : Interp) (v path start : Value) : Eval Value := do
  let parts ← pathParts path
  let items ← itemsOf I v
  if isTextValue start then fail .wrongType
  items.foldlM (fun total item => do binaryOp I .add total (← followPath I item parts)) start

def sortPlace (v : Value) : Eval ViewKind := do
  if ← valueEqual v (.text "key") then return .keys
  else if ← valueEqual v (.text "value") then return .values
  else throw (.filterArgument "You can only sort by either \"key\" or \"value\"")

def entriesOf (v : Value) : Eval (List (Value × Value)) :=
  match v with
  | .dict r => dictEntries r
  | .missing m => failMissing m
  | _ => fail .noAttribute

def filterDictSort (I : Interp) (v caseSensitive sortBy reverse : Value) : Eval Value := do
  let place ← sortPlace sortBy
  let entries ← entriesOf v
  let reverse ← reverseFlag reverse
  let keyed ← entries.mapM fun e => do
    let key := place.pick e
    return (if ← truth I caseSensitive then key else ignoreCase key, Value.tuple [e.1, e.2])
  newList (← sortValues reverse keyed)

end Stencil.Engine
