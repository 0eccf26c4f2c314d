import Stencil.Engine.Equality
import Stencil.Text.Html

/-!
# Printing, truth, length and iteration

What every value can be asked for. A missing value prints as nothing, is false, has no items and length zero, unless
it is strict, in which case all this fails.
-/

set_option autoImplicit false

namespace Stencil.Engine

def admitMissing (m : Missing) : Eval Unit := if m.strict then failMissing m else return ()

def charTexts (s : String) : List Value := s.toList.map fun c => .text (String.singleton c)

def byteValues (content : List UInt8) : List Value := content.map fun b => .int b.toNat

def lengthLimit : Int := 4294967296

def length? (v : Value) : Eval (Option Nat) := do
  match v with
  | .list r => return some (← listItems r).length
  | .dict r => return some (← dictEntries r).length
  | .set r => return some (← setItems r).length
  | .view _ r => return some (← dictEntries r).length
  | .tuple items => return some items.length
  | .text s => return some s.length
  | .safe s => return some s.length
  | .bytes content => return some content.length
  | .range a b c =>
    let n := rangeLength a b c
    if fitsWord n then return some n else fail .tooLarge
  | .missing m =>
    admitMissing m
    return some 0
  | _ => return none

def knownItems? (v : Value) : Eval (Option (List Value)) := do
  match v with
  | .list r => return some (← listItems r)
  | .dict r => return some ((← dictEntries r).map Prod.fst)
  | .set r => return some (← setItems r)
  | .view kind r => return some (viewItems kind (← dictEntries r))
  | .tuple items => return some items
  | .text s => return some (charTexts s)
  | .safe s => return some (charTexts s)
  | .bytes content => return some (byteValues content)
  | .range a b c =>
    if lengthLimit < rangeLength a b c then fail .outOfMemory
    return some (rangeItems a b c)
  | .missing m =>
    admitMissing m
    return some []
  | _ => return none

def iterate (v : Value) : Eval Ref := do
  match v with
  | .iterator r => return r
  | .list r => alloc (.iter (.growing r 0))
  | .dict r => iterateEntries r .keys
  | .view kind r => iterateEntries r kind
  | .set r =>
    let items ← setItems r
    alloc (.iter (.guarded "set_iterator" v items.length items))
  | .range a b c => alloc (.iter (.counting a c (rangeLength a b c)))
  | .loop r => alloc (.iter (.turns r))
  | .blocks _ => alloc (.iter .blocks)
  | v => alloc (.iter (.items "iterator" (← liftOption .wrongType (← knownItems? v))))
where
  iterateEntries (r : Ref) (kind : ViewKind) : Eval Ref := do
    let n := (← dictEntries r).length
    alloc (.iter (.entries r kind n n 0 none))

def itemsOf (I : Interp) (v : Value) : Eval (List Value) := do
  match ← knownItems? v with
  | some items => return items
  | none => I.drain (← iterate v)

def takeItems (I : Interp) (r : Ref) : Nat → Eval (List Value)
  | 0 => return []
  | n + 1 => do
    match ← I.next r with
    | none => return []
    | some v => return v :: (← takeItems I r n)

def drainLoop (I : Interp) (l : Loop) : Eval (List Value) := do
  let items ← I.drain l.source
  setObject l.source (.iter (.items "list_iterator" items))
  return items

def countTurns (I : Interp) (l : Loop) : Eval Nat := do
  match ← length? l.iterable with
  | some n => return n
  | none => return (← drainLoop I l).length + l.turns + (if l.ahead.isSome then 1 else 0)

def loopLength (I : Interp) (r : Ref) : Eval Nat := do
  match ← loop? r with
  | none => fail .wrongType
  | some l =>
    match l.length with
    | some n => return n
    | none =>
      let n ← countTurns I l
      updateLoop r fun l => { l with length := some n }
      return n

def writable (v : Value) : Eval Data := do
  let d ← freeze v
  if d.hasTooLong then fail .badValue
  match v with
  | .view kind r =>
    if Data.anyTooLong (← (viewItems kind (← dictEntries r)).mapM freeze) then fail .badValue
  | _ => pure ()
  return d

def display (I : Interp) (v : Value) : Eval String := do
  match v with
  | .text s => return s
  | .safe s => return s
  | .missing m =>
    admitMissing m
    return ""
  | .module r =>
    match ← object? r with
    | some (.module m) => m.body.joined
    | _ => return ""
  | .loop r =>
    discard (loopLength I r)
    return (← freeze v).printed
  | v => return (← writable v).printed

def escaped (I : Interp) (v : Value) : Eval String := do
  match v with
  | .safe s => return s
  | .module _ => display I v
  | v => return Text.htmlEscape (← display I v)

def asText (I : Interp) (v : Value) : Eval Value := do
  match v with
  | .text s => return .text s
  | .safe s => return .safe s
  | v => return .text (← display I v)

def truth (I : Interp) (v : Value) : Eval Bool := do
  match v with
  | .null => return false
  | .bool b => return b
  | .int n => return n != 0
  | .float x => return x != 0.0
  | .complex z => return !z.isZero
  | .range a b c => return rangeLength a b c != 0
  | .loop r => return (← loopLength I r) != 0
  | v =>
    match ← length? v with
    | some n => return n != 0
    | none => return true

def size (I : Interp) (v : Value) : Eval Nat := do
  match v with
  | .loop r => loopLength I r
  | v => liftOption .wrongType (← length? v)

def escapesNow (I : Interp) (env : Env) : Eval Bool := do truth I (← escapeValue env.context)

end Stencil.Engine
