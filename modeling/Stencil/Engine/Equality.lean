import Stencil.Engine.Freeze

/-!
# Equality, order and keys

Values are equal by what they hold; things with an identity of their own only to themselves. What is the same counts
as equal wherever it stands in something else. A strict missing value may not even be compared, and no missing value
has a place in an order. What cannot change can be a key.
-/

set_option autoImplicit false

namespace Stencil.Engine

def identical : Value → Value → Bool
  | .nan a, .nan b => a == b
  | .missing a, .missing b => a.mark == b.mark
  | .list a, .list b => a == b
  | .dict a, .dict b => a == b
  | .set a, .set b => a == b
  | .namespace a, .namespace b => a == b
  | .loop a, .loop b => a == b
  | .iterator a, .iterator b => a == b
  | .macroFn a, .macroFn b => a == b
  | .module a, .module b => a == b
  | .blocks a, .blocks b => a == b
  | .builtin a, .builtin b => a == b
  | _, _ => false

def numOf? : Value → Option Num
  | .bool b => some (.int (if b then 1 else 0))
  | .int n => some (.int n)
  | .float x => some (.float x)
  | .nan _ => some (.float Number.notANumber)
  | .complex z => some (.complex z)
  | _ => none

def asIndex? : Value → Option Int
  | .int n => some n
  | .bool b => some (if b then 1 else 0)
  | _ => none

def textOf? : Value → Option String
  | .text s => some s
  | .safe s => some s
  | _ => none

def missingOf? : Value → Option Missing
  | .missing m => some m
  | _ => none

def plainEqual (a b : Value) : Bool :=
  identical a b || (match textOf? a, textOf? b with
    | some s, some t => s == t
    | _, _ => match numOf? a, numOf? b with
      | some m, some n => m.equal n
      | _, _ => false)

mutual

def keyEqual : Value → Value → Bool
  | .null, .null => true
  | .tuple xs, .tuple ys => keysEqual xs ys
  | .range a b c, .range x y z => rangeEqual a b c x y z
  | .bytes a, .bytes b => a == b
  | .date a, .date b => a == b
  | .moment a, .moment b => a.equal b
  | .missing a, .missing b => a.mark == b.mark || (!a.strict && !b.strict)
  | .method a i, .method b j => i == j && keyEqual a b
  | a, b => plainEqual a b

def keysEqual : List Value → List Value → Bool
  | [], [] => true
  | x :: xs, y :: ys => keyEqual x y && keysEqual xs ys
  | _, _ => false

end

def findKey? (key : Value) : List (Value × Value) → Option Value
  | [] => none
  | (k, v) :: rest => if keyEqual k key then some v else findKey? key rest

def putKey (key value : Value) : List (Value × Value) → List (Value × Value)
  | [] => [(key, value)]
  | (k, v) :: rest => if keyEqual k key then (k, value) :: rest else (k, v) :: putKey key value rest

mutual

def keyFault? : Value → Option Fault
  | .list _ => some (.mishap .wrongType)
  | .dict _ => some (.mishap .wrongType)
  | .set _ => some (.mishap .wrongType)
  | .slice _ _ _ => some (.mishap .wrongType)
  | .view .values _ => none
  | .view _ _ => some (.mishap .wrongType)
  | .missing m => if m.strict then some (.undefined m.message) else none
  | .tuple items => keysFault? items
  | _ => none

def keysFault? : List Value → Option Fault
  | [] => none
  | v :: rest => (keyFault? v).or (keysFault? rest)

end

def needKey (v : Value) : Eval Unit :=
  match keyFault? v with
  | some f => throw f
  | none => return ()

def putEntry (entries : List (Value × Value)) (key value : Value) : Eval (List (Value × Value)) := do
  needKey key
  return putKey key value entries

def compareLimit : Nat := 960

def asSetView? (v : Value) : Eval (Option (List Value)) := do
  match v with
  | .set r => return some (← setItems r)
  | .view .keys r => return some ((← dictEntries r).map Prod.fst)
  | .view .items r => return some (viewItems .items (← dictEntries r))
  | _ => return none

abbrev SameOrEqual := Value → Value → Eval Bool

def equalRows (equal : SameOrEqual) : List Value → List Value → Eval Bool
  | [], [] => return true
  | x :: xs, y :: ys => do
    if ← equal x y then equalRows equal xs ys else return false
  | _, _ => return false

def equalEntries (equal : SameOrEqual) (others : List (Value × Value)) : List (Value × Value) → Eval Bool
  | [] => return true
  | (k, v) :: rest => do
    match findKey? k others with
    | none => return false
    | some w => if ← equal v w then equalEntries equal others rest else return false

def anyItem (equal : SameOrEqual) (v : Value) : List Value → Eval Bool
  | [] => return false
  | x :: rest => do
    if ← equal x v then return true else anyItem equal v rest

def containsAll (equal : SameOrEqual) (ys : List Value) : List Value → Eval Bool
  | [] => return true
  | x :: rest => do
    if ← anyItem equal x ys then containsAll equal ys rest else return false

def equalSets (equal : SameOrEqual) (a b : Value) : Eval Bool := do
  match ← asSetView? a, ← asSetView? b with
  | some xs, some ys => if xs.length == ys.length then containsAll equal ys xs else return false
  | _, _ => return keyEqual a b

def equalMaps (equal : SameOrEqual) (r q : Ref) : Eval Bool := do
  let es ← dictEntries r
  let fs ← dictEntries q
  let ordered := (← insists r) && (← insists q)
  if es.length != fs.length then return false
  else if !(← equalEntries equal fs es) then return false
  else if ordered then equalRows equal (es.map Prod.fst) (fs.map Prod.fst)
  else return true

def equalPresent (equal : SameOrEqual) (a b : Value) : Eval Bool := do
  match a with
  | .nan _ => return false
  | .list r =>
    match b with
    | .list q =>
      let xs ← listItems r
      let ys ← listItems q
      if xs.length == ys.length then equalRows equal xs ys else return false
    | _ => equalSets equal a b
  | .tuple xs =>
    match b with
    | .tuple ys => equalRows equal xs ys
    | _ => equalSets equal a b
  | .dict r =>
    match b with
    | .dict q => equalMaps equal r q
    | _ => equalSets equal a b
  | _ => equalSets equal a b

def equalWithin : Nat → Value → Value → Eval Bool
  | 0, _, _ => fail .tooDeep
  | n + 1, a, b =>
    let inside : SameOrEqual := fun x y => if identical x y then return true else equalWithin n x y
    match missingOf? a, missingOf? b with
    | some m, some k => if m.strict then failMissing m else if k.strict then failMissing k else return true
    | some m, none => if m.strict then failMissing m else return false
    | none, some k => if k.strict then failMissing k else return false
    | none, none => equalPresent inside a b

def valueEqual (a b : Value) : Eval Bool := equalWithin compareLimit a b

def sameOrEqual : SameOrEqual := fun x y => if identical x y then return true else valueEqual x y

def anyEqual (v : Value) (items : List Value) : Eval Bool := anyItem sameOrEqual v items

def relatedRows (related : Value → Value → Eval Bool) (op : OrderOp) : List Value → List Value → Eval Bool
  | [], [] => return op.admits .eq
  | [], _ :: _ => return op.admits .lt
  | _ :: _, [] => return op.admits .gt
  | x :: xs, y :: ys => do
    if ← sameOrEqual x y then relatedRows related op xs ys else related x y

def relatedSets (op : OrderOp) (xs ys : List Value) : Eval Bool := do
  match op with
  | .le => containsAll sameOrEqual ys xs
  | .ge => containsAll sameOrEqual xs ys
  | .lt => if xs.length < ys.length then containsAll sameOrEqual ys xs else return false
  | .gt => if ys.length < xs.length then containsAll sameOrEqual xs ys else return false

def relatedViews (op : OrderOp) (a b : Value) : Eval Bool := do
  match ← asSetView? a, ← asSetView? b with
  | some xs, some ys => relatedSets op xs ys
  | _, _ => fail .wrongType

def relatedPlain (op : OrderOp) (a b : Value) : Eval Bool :=
  match textOf? a, textOf? b with
  | some s, some t => return op.admits (compare s t)
  | _, _ =>
    match numOf? a, numOf? b with
    | some x, some y => liftOption .wrongType (x.related op y)
    | _, _ => relatedViews op a b

def relatedPresent (related : Value → Value → Eval Bool) (op : OrderOp) (a b : Value) : Eval Bool := do
  match a with
  | .list r =>
    match b with
    | .list q => relatedRows related op (← listItems r) (← listItems q)
    | _ => relatedPlain op a b
  | .tuple xs =>
    match b with
    | .tuple ys => relatedRows related op xs ys
    | _ => relatedPlain op a b
  | .date x =>
    match b with
    | .date y => return op.admits (compare x.key y.key)
    | _ => relatedPlain op a b
  | .moment x =>
    match b with
    | .moment y => liftOption .wrongType (x.related op y)
    | _ => relatedPlain op a b
  | .bytes x =>
    match b with
    | .bytes y => return op.admits (compare x y)
    | _ => relatedPlain op a b
  | _ => relatedPlain op a b

def relatedWithin (op : OrderOp) : Nat → Value → Value → Eval Bool
  | 0, _, _ => fail .tooDeep
  | n + 1, a, b =>
    match (missingOf? a).or (missingOf? b) with
    | some m => failMissing m
    | none => relatedPresent (relatedWithin op n) op a b

def valueRelated (op : OrderOp) (a b : Value) : Eval Bool := relatedWithin op compareLimit a b

end Stencil.Engine
