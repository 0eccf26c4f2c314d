import Stencil.Data.Basic
import Stencil.Sort

/-!
# Equality and order of data

Numbers are equal by value whatever their kind, truth values counting as one and zero; texts are equal whether
safe or not. Only numbers, texts, dates and rows of such things are ordered, each with its own kind. What is the same
counts as equal wherever it stands in something else, even if it is not equal to itself.
-/

set_option autoImplicit false

namespace Stencil

inductive Num where
  | int (n : Int)
  | float (x : Float)
  | complex (z : Number.Complex)

namespace Num

def equal : Num → Num → Bool
  | .int a, .int b => a == b
  | .float x, .float y => x == y
  | .int n, .float x => Number.compareInt x n == some .eq
  | .float x, .int n => Number.compareInt x n == some .eq
  | .complex a, .complex b => a.equal b
  | .complex a, .float x => a.im == 0.0 && a.re == x
  | .float x, .complex a => a.im == 0.0 && a.re == x
  | .complex a, .int n => a.im == 0.0 && Number.compareInt a.re n == some .eq
  | .int n, .complex a => a.im == 0.0 && Number.compareInt a.re n == some .eq

def isComplex : Num → Bool
  | .complex _ => true
  | _ => false

def compare : Num → Num → Option Ordering
  | .int a, .int b => some (Ord.compare a b)
  | .float x, .float y => if x < y then some .lt else if x == y then some .eq else if y < x then some .gt else none
  | .int n, .float x => (Number.compareInt x n).map Ordering.swap
  | .float x, .int n => Number.compareInt x n
  | _, _ => none

end Num

inductive OrderOp where
  | lt
  | le
  | gt
  | ge
  deriving DecidableEq, Repr

def OrderOp.admits : OrderOp → Ordering → Bool
  | .lt, o => o == .lt
  | .le, o => o != .gt
  | .gt, o => o == .gt
  | .ge, o => o != .lt

def Num.related (op : OrderOp) (a b : Num) : Option Bool :=
  if a.isComplex || b.isComplex then none
  else some (match a.compare b with
    | some o => op.admits o
    | none => false)

def daysBefore (month : Nat) : Nat := [0, 31, 59, 90, 120, 151, 181, 212, 243, 273, 304, 334].getD (month - 1) 0

def isLeap (year : Nat) : Bool := year % 4 == 0 && (year % 100 != 0 || year % 400 == 0)

def Date.key (d : Date) : Nat :=
  let y := d.year - 1
  y * 365 + y / 4 - y / 100 + y / 400 + daysBefore d.month + (if 2 < d.month && isLeap d.year then 1 else 0) + d.day

def Moment.key (m : Moment) : Int :=
  let minutes : Int := (((m.date.key * 24 + m.hour) * 60 + m.minute : Nat) : Int) - (m.zone.map Zone.minutes).getD 0
  (minutes * 60 + m.second) * 1000000 + m.micro

def Moment.related (op : OrderOp) (a b : Moment) : Option Bool :=
  if a.zone.isSome == b.zone.isSome then some (op.admits (compare a.key b.key)) else none

def Moment.equal (a b : Moment) : Bool := a.zone.isSome == b.zone.isSome && a.key == b.key

def rangeLength (start stop stride : Int) : Nat :=
  if 0 < stride then (Int.fdiv (stop - start + stride - 1) stride).toNat
  else if stride < 0 then (Int.fdiv (start - stop - stride - 1) (-stride)).toNat
  else 0

def rangeEqual (a b c x y z : Int) : Bool :=
  let n := rangeLength a b c
  n == rangeLength x y z && (n == 0 || (a == x && (n == 1 || c == z)))

namespace Data

def asNum? : Data → Option Num
  | .bool b => some (.int (if b then 1 else 0))
  | .int n => some (.int n)
  | .float x => some (.float x)
  | .nan _ => some (.float Number.notANumber)
  | .complex z => some (.complex z)
  | _ => none

def isSame : Data → Data → Bool
  | .nan a, .nan b => a == b
  | .missing a, .missing b => a.mark == b.mark
  | _, _ => false

mutual

def equal : Data → Data → Bool
  | .null, .null => true
  | .list xs, .list ys => equalItems xs ys
  | .tuple xs, .tuple ys => equalItems xs ys
  | .set xs, .set ys => xs.length == ys.length && containsAll ys xs
  | .map es, .map fs => es.length == fs.length && equalEntries es fs
  | .map es, .ordered fs => es.length == fs.length && equalEntries es fs
  | .ordered es, .map fs => es.length == fs.length && equalEntries es fs
  | .ordered es, .ordered fs => equalPairs es fs
  | .range a b c, .range x y z => rangeEqual a b c x y z
  | .bytes a, .bytes b => a == b
  | .missing a, .missing b => a.strict == b.strict
  | .handle a, .handle b => a.kind == b.kind && a.shown == b.shown
  | .date a, .date b => a == b
  | .moment a, .moment b => a.equal b
  | .labelled _ a, b => equal a b
  | a, .labelled _ b => equal a b
  | a, b =>
    match a.asText?, b.asText? with
    | some s, some t => s == t
    | _, _ => match a.asNum?, b.asNum? with
      | some m, some n => m.equal n
      | _, _ => false

def equalItems : List Data → List Data → Bool
  | [], [] => true
  | x :: xs, y :: ys => (isSame x y || equal x y) && equalItems xs ys
  | _, _ => false

def equalEntries : List (Data × Data) → List (Data × Data) → Bool
  | [], _ => true
  | (k, v) :: rest, fs =>
    fs.any (fun f => (isSame k f.1 || equal k f.1) && (isSame v f.2 || equal v f.2)) && equalEntries rest fs

def equalPairs : List (Data × Data) → List (Data × Data) → Bool
  | [], [] => true
  | (k, v) :: es, (l, w) :: fs =>
    (isSame k l || equal k l) && (isSame v w || equal v w) && equalPairs es fs
  | _, _ => false

def containsAll (ys : List Data) : List Data → Bool
  | [] => true
  | x :: xs => ys.any (fun y => isSame x y || equal x y) && containsAll ys xs

end

def sameKey (a b : Data) : Bool := isSame a b || equal a b

mutual

def related (op : OrderOp) : Data → Data → Option Bool
  | .list xs, .list ys => relatedItems op xs ys
  | .tuple xs, .tuple ys => relatedItems op xs ys
  | .date a, .date b => some (op.admits (compare a.key b.key))
  | .moment a, .moment b => a.related op b
  | a, b =>
    match a.asText?, b.asText? with
    | some s, some t => some (op.admits (compare s t))
    | _, _ => match a.asNum?, b.asNum? with
      | some m, some n => m.related op n
      | _, _ => none

def relatedItems (op : OrderOp) : List Data → List Data → Option Bool
  | [], [] => some (op.admits .eq)
  | [], _ :: _ => some (op.admits .lt)
  | _ :: _, [] => some (op.admits .gt)
  | x :: xs, y :: ys => if sameKey x y then relatedItems op xs ys else related op x y

end

def isKey : Data → Bool
  | .list _ => false
  | .map _ => false
  | .ordered _ => false
  | .set _ => false
  | .labelled _ _ => false
  | .again _ _ => false
  | .tuple items => items.attach.all fun ⟨d, _⟩ => d.isKey
  | _ => true

def lookup? {α : Type} (key : Data) : List (Data × α) → Option α
  | [] => none
  | (k, v) :: rest => if sameKey k key then some v else lookup? key rest

def put {α : Type} (key : Data) (value : α) : List (Data × α) → List (Data × α)
  | [] => [(key, value)]
  | (k, v) :: rest => if sameKey k key then (k, value) :: rest else (k, v) :: put key value rest

end Data

end Stencil
