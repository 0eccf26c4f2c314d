import Stencil.Engine.Access
import Stencil.Engine.Format
import Stencil.Template.Syntax

/-!
# Operators

Numbers mix freely. Texts, lists and tuples are joined and repeated; a plain text that is joined to a safe one is
escaped first.
-/

set_option autoImplicit false

namespace Stencil.Engine

open Stencil.Template

def newComplex (r : Except Mishap Number.Complex) : Eval Value :=
  match r with
  | .ok z => return .complex z
  | .error m => fail m

def floatPower (x y : Float) : Eval Value := do
  if x == 0.0 && y < 0.0 && Number.isFinite y then fail .divisionByZero
  if Number.isFinite x && Number.isFinite y then
    if x < 0.0 && y != y.floor then newComplex (Number.Complex.pow (.ofFloat x) (.ofFloat y))
    else
      let r := Float.pow x y
      if Number.isFinite r then return .float r else fail .tooLarge
  else newFloat (Float.pow x y)

def bitLimit : Nat := 17179869184

def unitPower (a : Int) (n : Nat) : Int := if n = 0 then 1 else if a < 0 && n % 2 = 0 then -a else a

def intPower (a b : Int) : Eval Value := do
  if 0 ≤ b then
    if a.natAbs ≤ 1 then return .int (unitPower a b.toNat)
    else if bitLimit < a.natAbs.log2 * b.toNat + b.toNat then fail .outOfMemory
    else return .int (Int.pow a b.toNat)
  else floatPower (← toFloat (.int a)) (← toFloat (.int b))

def toComplex (n : Num) : Eval Number.Complex := do
  match n with
  | .complex z => return z
  | n => return .ofFloat (← toFloat n)

def complexOp (op : BinaryOp) (a b : Number.Complex) : Eval Value :=
  match op with
  | .add => return .complex (a.add b)
  | .sub => return .complex (a.sub b)
  | .mul => return .complex (a.mul b)
  | .div => newComplex (a.div b)
  | .pow => newComplex (a.pow b)
  | _ => fail .wrongType

def floatOp (op : BinaryOp) (x y : Float) : Eval Value := do
  match op with
  | .add => newFloat (x + y)
  | .sub => newFloat (x - y)
  | .mul => newFloat (x * y)
  | .div => if y == 0.0 then fail .divisionByZero else newFloat (x / y)
  | .floorDiv => if y == 0.0 then fail .divisionByZero else newFloat (Number.floorQuotient x y)
  | .mod => if y == 0.0 then fail .divisionByZero else newFloat (Number.floorRemainder x y)
  | .pow => floatPower x y

def intOp (op : BinaryOp) (a b : Int) : Eval Value := do
  match op with
  | .add => return .int (a + b)
  | .sub => return .int (a - b)
  | .mul => return .int (a * b)
  | .div => if b = 0 then fail .divisionByZero else return .float (← liftOption .tooLarge (Number.intQuotient? a b))
  | .floorDiv => if b = 0 then fail .divisionByZero else return .int (Int.fdiv a b)
  | .mod => if b = 0 then fail .divisionByZero else return .int (Int.fmod a b)
  | .pow => intPower a b

def numericOp (op : BinaryOp) (m n : Num) : Eval Value := do
  match m, n with
  | .int a, .int b => intOp op a b
  | m, n =>
    if m.isComplex || n.isComplex then
      if op == .floorDiv || op == .mod then fail .wrongType
      else complexOp op (← toComplex m) (← toComplex n)
    else floatOp op (← toFloat m) (← toFloat n)

def repeatList {α : Type} (xs : List α) (n : Int) : List α := (List.replicate n.toNat xs).flatten

def repeatText (s : String) (n : Int) : String := String.join (List.replicate n.toNat s)

def joinTexts (a b : Value) : Option Value :=
  match a, b with
  | .text s, .text t => some (.text (s ++ t))
  | .safe s, .safe t => some (.safe (s ++ t))
  | .safe s, .text t => some (.safe (s ++ Text.htmlEscape t))
  | .text s, .safe t => some (.safe (Text.htmlEscape s ++ t))
  | _, _ => none

def addValues (a b : Value) : Eval Value := do
  match a with
  | .list r =>
    match b with
    | .list q => newList ((← listItems r) ++ (← listItems q))
    | _ => fail .wrongType
  | .tuple xs =>
    match b with
    | .tuple ys => return .tuple (xs ++ ys)
    | _ => fail .wrongType
  | .bytes x =>
    match b with
    | .bytes y => return .bytes (x ++ y)
    | _ => fail .wrongType
  | a => liftOption .wrongType (joinTexts a b)

def countLimit : Int := 9223372036854775808

def repetitions (length : Nat) (n : Int) : Eval Int := do
  if n < -countLimit || countLimit ≤ n then fail .tooLarge
  else if lengthLimit < length * n then fail .outOfMemory
  else return if length = 0 then 0 else n

def repeatValue? (v : Value) (n : Int) : Eval (Option Value) := do
  match v with
  | .list r =>
    let items ← listItems r
    return some (← newList (repeatList items (← repetitions items.length n)))
  | .tuple xs => return some (.tuple (repeatList xs (← repetitions xs.length n)))
  | .text s => return some (.text (repeatText s (← repetitions s.length n)))
  | .safe s => return some (.safe (repeatText s (← repetitions s.length n)))
  | .bytes content => return some (.bytes (repeatList content (← repetitions content.length n)))
  | _ => return none

def multiplyValues (a b : Value) : Eval Value := do
  match asIndex? b, asIndex? a with
  | some n, _ => liftOption .wrongType (← repeatValue? a n)
  | none, some n => liftOption .wrongType (← repeatValue? b n)
  | none, none => fail .wrongType

def isTextValue : Value → Bool
  | .text _ => true
  | .safe _ => true
  | _ => false

def formatKey (source : Value) (key : String) : Eval Value := do
  match ← element? source (.text key) with
  | some v => return v
  | none =>
    match source with
    | .dict _ => fail .noKey
    | .blocks _ => fail .noKey
    | _ => fail .wrongType

def isSet : Value → Bool
  | .set _ => true
  | _ => false

def isView : Value → Bool
  | .view .keys _ => true
  | .view .items _ => true
  | _ => false

def subtractSets (I : Interp) (a b : Value) : Eval Value := do
  if !(isSet a && isSet b) && !isView a && !isView b then fail .wrongType
  let items ← itemsOf I a
  let others ← itemsOf I b
  (items ++ others).forM needKey
  return .set (← alloc (.set (items.filter fun x => !others.any (keyEqual x))))

def binaryOp (I : Interp) (op : BinaryOp) (a b : Value) : Eval Value := do
  if op == .mod && isTextValue a then formatText I formatKey a b
  else
    match (missingOf? a).or (missingOf? b) with
    | some m => failMissing m
    | none =>
      match numOf? a, numOf? b with
      | some m, some n => numericOp op m n
      | _, _ =>
        match op with
        | .add => addValues a b
        | .mul => multiplyValues a b
        | .sub => subtractSets I a b
        | _ => fail .wrongType

def negate (v : Value) : Eval Value := do
  match v with
  | .missing m => failMissing m
  | v =>
    match numOf? v with
    | some (.int n) => return .int (-n)
    | some (.float x) => newFloat (-x)
    | some (.complex z) => return .complex z.neg
    | none => fail .wrongType

def positive (v : Value) : Eval Value := do
  match v with
  | .missing m => failMissing m
  | .bool b => return .int (if b then 1 else 0)
  | v => if (numOf? v).isSome then return v else fail .wrongType

def occursIn (part : List Char) : List Char → Bool
  | [] => part.isEmpty
  | c :: cs => part.isPrefixOf (c :: cs) || occursIn part cs

def textContains (s : String) (part : Value) : Eval Bool := do
  match textOf? part with
  | some p => return occursIn p.toList s.toList
  | none => fail .wrongType

def bytesContain (content : List UInt8) (part : Value) : Eval Bool := do
  let chars (bs : List UInt8) : List Char := bs.map fun b => Char.ofNat b.toNat
  match part with
  | .bytes p => return occursIn (chars p) (chars content)
  | part =>
    let n ← liftOption .wrongType (asIndex? part)
    if 0 ≤ n && n < 256 then return content.any fun b => (b.toNat : Int) == n else fail .badValue

def pairOf? : Value → Option (Value × Value)
  | .tuple [k, v] => some (k, v)
  | _ => none

def entriesContain (entries : List (Value × Value)) (part : Value) : Eval Bool := do
  match pairOf? part with
  | some (k, v) =>
    needKey k
    match findKey? k entries with
    | some w => sameOrEqual w v
    | none => return false
  | none => return false

def rangeHas (start stop stride n : Int) : Bool :=
  let length := rangeLength start stop stride
  stride != 0 && Int.fmod (n - start) stride == 0 && 0 ≤ Int.fdiv (n - start) stride &&
    Int.fdiv (n - start) stride < length

def contains (I : Interp) (whole part : Value) : Eval Bool := do
  match whole with
  | .text s => textContains s part
  | .safe s => textContains s part
  | .bytes content => bytesContain content part
  | .dict r => hasKey (← dictEntries r)
  | .view .keys r => hasKey (← dictEntries r)
  | .view .items r => entriesContain (← dictEntries r) part
  | .set r =>
    needKey part
    return (← setItems r).any (keyEqual part)
  | .range a b c =>
    match asIndex? part with
    | some n => return rangeHas a b c n
    | none => I.seek (← iterate whole) part
  | .missing m =>
    admitMissing m
    return false
  | whole =>
    match ← knownItems? whole with
    | some items => anyEqual part items
    | none => I.seek (← iterate whole) part
where
  hasKey (entries : List (Value × Value)) : Eval Bool := do
    needKey part
    return (findKey? part entries).isSome

def compareValues (I : Interp) (op : CompareOp) (a b : Value) : Eval Bool := do
  match op with
  | .eq => valueEqual a b
  | .ne => return !(← valueEqual a b)
  | .lt => valueRelated .lt a b
  | .le => valueRelated .le a b
  | .gt => valueRelated .gt a b
  | .ge => valueRelated .ge a b
  | .member => contains I b a
  | .notMember => return !(← contains I b a)

end Stencil.Engine
