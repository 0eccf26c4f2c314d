import Stencil.Engine.Convert
import Stencil.Number.Arithmetic

/-!
# Templates for single texts

A text with percent signs takes values in order, or by name from a map. Each place says how its value is written:
flags, a width, a precision, and a letter for the kind.
-/

set_option autoImplicit false

namespace Stencil.Engine

structure Place where
  key : Option String := none
  alternate : Bool := false
  zero : Bool := false
  left : Bool := false
  blank : Bool := false
  plus : Bool := false
  width : Nat := 0
  precision : Option Nat := none
  kind : Char := 's'

structure Supply where
  rest : List Value
  source : Option Value

def takeValue (s : Supply) : Eval (Value × Supply) :=
  match s.rest with
  | v :: rest => return (v, { s with rest })
  | [] => fail .wrongType

def flagsOf : List Char → Place → Place × List Char
  | '#' :: cs, p => flagsOf cs { p with alternate := true }
  | '0' :: cs, p => flagsOf cs { p with zero := true }
  | '-' :: cs, p => flagsOf cs { p with left := true }
  | ' ' :: cs, p => flagsOf cs { p with blank := true }
  | '+' :: cs, p => flagsOf cs { p with plus := true }
  | cs, p => (p, cs)

def natOf (cs : List Char) : Nat := cs.foldl (fun n c => n * 10 + (c.toNat - '0'.toNat)) 0

def numberOf (isSafe : Bool) (limit : Nat) (cs : List Char) (s : Supply) :
    Eval (Option Int × List Char × Supply) := do
  match cs with
  | '*' :: rest =>
    let (v, s) ← takeValue s
    match asIndex? v with
    | some n =>
      if isSafe then fail .wrongType
      if limit < n.natAbs then fail .tooLarge
      return (some n, rest, s)
    | none => fail .wrongType
  | cs =>
    let ds := cs.takeWhile Char.isDigit
    let n := natOf ds
    if limit < n then fail .badValue
    return (if ds.isEmpty then none else some (n : Int), cs.drop ds.length, s)

def keyOf : Nat → List Char → List Char → Option (String × List Char)
  | _, [], _ => none
  | depth, c :: cs, read =>
    if c == ')' then
      if depth = 0 then some (String.ofList read.reverse, cs) else keyOf (depth - 1) cs (c :: read)
    else if c == '(' then keyOf (depth + 1) cs (c :: read)
    else keyOf depth cs (c :: read)

def pad (p : Place) (s : List Char) : List Char :=
  let fill := List.replicate (p.width - s.length) ' '
  if p.left then s ++ fill else fill ++ s

def padNumber (p : Place) (negative : Bool) (mark digits : List Char) : List Char :=
  let sign := if negative then ['-'] else if p.plus then ['+'] else if p.blank then [' '] else []
  if p.zero && !p.left then
    sign ++ mark ++ List.replicate (p.width - (sign.length + mark.length + digits.length)) '0' ++ digits
  else pad p (sign ++ mark ++ digits)

def upperHex (cs : List Char) : List Char := cs.map Char.toUpper

def basedDigits (base n : Nat) : List Char := Nat.toDigits base n

def withPrecision (p : Place) (ds : List Char) : List Char :=
  match p.precision with
  | some k => List.replicate (k - ds.length) '0' ++ ds
  | none => ds

def formatInt (p : Place) (n : Int) : Eval (List Char) := do
  let m := n.natAbs
  let negative := decide (n < 0)
  let mark (x : Char) : List Char := if p.alternate then ['0', x] else []
  match p.kind with
  | 'x' => return padNumber p negative (mark 'x') (withPrecision p (basedDigits 16 m))
  | 'X' => return padNumber p negative (mark 'X') (withPrecision p (upperHex (basedDigits 16 m)))
  | 'o' => return padNumber p negative (mark 'o') (withPrecision p (basedDigits 8 m))
  | _ =>
    if Data.isTooLong n then fail .badValue
    return padNumber p negative [] (withPrecision p (basedDigits 10 m))

def fixedDigits (b : Number.Binary) (places : Nat) : List Char :=
  Number.fixedChars { b with negative := false } places

def significant (num den count : Nat) : List Char × Int :=
  let place := Number.decimalPlace num den
  let e := place - count
  let n := Number.roundHalfEven (num * Number.pow10 (-e).toNat) (den * Number.pow10 e.toNat)
  let ds := Number.digitsOf n
  -- rounding up may give one digit more
  if count < ds.length then (ds.take count, place + 1) else (ds, place)

def exponentForm (b : Number.Binary) (places : Nat) (alternate : Bool) : List Char :=
  let (ds, place) := if b.mantissa = 0 then (List.replicate (places + 1) '0', (1 : Int))
    else significant b.num b.den (places + 1)
  let mantissa := match ds with
    | [] => []
    | [d] => if alternate then [d, '.'] else [d]
    | d :: rest => d :: '.' :: rest
  mantissa ++ Number.exponentText (place - 1)

def dropZeros (cs : List Char) : List Char :=
  if cs.contains '.' then
    let r := cs.reverse.dropWhile (· == '0')
    (match r with
      | '.' :: rest => rest
      | r => r).reverse
  else cs

def withPoint (cs : List Char) : List Char := if cs.contains '.' then cs else cs ++ ['.']

def generalForm (b : Number.Binary) (precision : Nat) (alternate : Bool) : List Char :=
  let count := max precision 1
  let (ds, place) := if b.mantissa = 0 then (List.replicate count '0', (1 : Int)) else significant b.num b.den count
  if -4 < place ∧ place ≤ count then
    let positional := if place ≤ 0 then ['0', '.'] ++ List.replicate (-place).toNat '0' ++ ds
      else if ds.length ≤ place.toNat then ds ++ List.replicate (place.toNat - ds.length) '0'
      else ds.take place.toNat ++ ['.'] ++ ds.drop place.toNat
    if alternate then withPoint positional else dropZeros positional
  else
    let mantissa := match ds with
      | [] => []
      | [d] => [d]
      | d :: rest => d :: '.' :: rest
    (if alternate then withPoint mantissa else dropZeros mantissa) ++ Number.exponentText (place - 1)

def formatFloat (p : Place) (x : Float) : List Char :=
  let precision := p.precision.getD 6
  let isUpper := p.kind.isUpper
  let shape (cs : List Char) := if isUpper then upperHex cs else cs
  match Number.view x with
  | .nan => padNumber p false [] (shape "nan".toList)
  | .infinite negative => padNumber p negative [] (shape "inf".toList)
  | .finite b =>
    let digits := match p.kind.toLower with
      | 'e' => exponentForm b precision p.alternate
      | 'g' => generalForm b precision p.alternate
      | _ => if p.alternate then withPoint (fixedDigits b precision) else fixedDigits b precision
    padNumber p b.negative [] (shape digits)

def isSafe : Value → Bool
  | .safe _ => true
  | _ => false

def spelledFor? (kind : Char) (d : Data) : Option String :=
  match kind with
  | 'r' => some d.spelled
  | 'a' => some (String.ofList (d.spelled.toList.flatMap Text.asciiSpelling))
  | _ => none

def placeText (I : Interp) (isSafe : Bool) (kind : Char) (v : Value) : Eval (List Char) := do
  if kind == 's' then
    if isSafe then return (← escaped I v).toList else return (← display I v).toList
  else
    let s := (spelledFor? kind (← writable v)).getD ""
    return (if isSafe then Text.htmlEscape s else s).toList

def placeChar (v : Value) : Eval Char :=
  match asIndex? v, textOf? v with
  | some n, _ => if 0 ≤ n ∧ n < 0x110000 then return Char.ofNat n.toNat else fail .tooLarge
  | none, some s => match s.toList with
    | [c] => return c
    | _ => fail .wrongType
  | none, none => fail .wrongType

def placeWhole (isSafe : Bool) (v : Value) : Eval Int :=
  match v with
  | .text _ => if isSafe then wholeOf v else fail .wrongType
  | .safe _ => if isSafe then wholeOf v else fail .wrongType
  | v => wholeOf v

def placeFloat (isSafe : Bool) (v : Value) : Eval Float :=
  match v with
  | .text _ => if isSafe then floatOf v else fail .wrongType
  | .safe _ => if isSafe then floatOf v else fail .wrongType
  | v => floatOf v

inductive Intake where
  | text
  | whole
  -- a whole number in another base
  | based
  | float
  | char

def intake? : Char → Option Intake
  | 's' | 'r' | 'a' => some .text
  | 'd' | 'i' | 'u' => some .whole
  | 'x' | 'X' | 'o' => some .based
  | 'e' | 'E' | 'f' | 'F' | 'g' | 'G' => some .float
  | 'c' => some .char
  | _ => none

def fillPlace (I : Interp) (isSafe : Bool) (p : Place) (v : Value) : Eval (List Char) := do
  if lengthLimit < p.width then fail .outOfMemory
  else match intake? p.kind with
    | some .text =>
      let s ← placeText I isSafe p.kind v
      return pad p (match p.precision with
        | some k => s.take k
        | none => s)
    | some .whole => formatInt p (← placeWhole isSafe v)
    | some .based => if isSafe then fail .wrongType else formatInt p (← liftOption .wrongType (asIndex? v))
    | some .float => return formatFloat p (← placeFloat isSafe v)
    | some .char => if isSafe then fail .wrongType else return pad p [← placeChar v]
    | none => fail .badValue

def widthLimit : Nat := 9223372036854775807

def precisionLimit : Nat := 2147483647

def readKey (lookUp : Value → String → Eval Value) (cs : List Char) (s : Supply) : Eval (List Char × Supply) := do
  match cs with
  | '(' :: rest =>
    match s.source, keyOf 0 rest [] with
    | none, _ => fail .wrongType
    | some _, none => fail .badValue
    | some source, some (key, rest) => return (rest, { s with rest := [← lookUp source key] })
  | cs => return (cs, s)

def Place.withWidth (p : Place) : Option Int → Place
  | some w => { p with width := w.natAbs, left := p.left || decide (w < 0) }
  | none => p

def readPrecision (isSafe : Bool) (p : Place) (cs : List Char) (s : Supply) :
    Eval (Place × List Char × Supply) := do
  match cs with
  | '.' :: rest =>
    let (precision, rest, s) ← numberOf isSafe precisionLimit rest s
    return ({ p with precision := some (precision.getD 0).toNat }, rest, s)
  | cs => return (p, cs, s)

def skipSize : List Char → List Char
  | c :: rest => if c == 'h' || c == 'l' || c == 'L' then rest else c :: rest
  | [] => []

def formatPlace (I : Interp) (isSafe : Bool) (lookUp : Value → String → Eval Value) (cs : List Char) (s : Supply) :
    Eval (List Char × List Char × Supply) := do
  let (cs, s) ← readKey lookUp cs s
  let (p, cs) := flagsOf cs {}
  let (width, cs, s) ← numberOf isSafe widthLimit cs s
  let (p, cs, s) ← readPrecision isSafe (p.withWidth width) cs s
  match skipSize cs with
  | [] => fail .badValue
  | kind :: rest =>
    let (v, s) ← takeValue s
    return (← fillPlace I isSafe { p with kind } v, rest, s)

def formatAll (I : Interp) (isSafe : Bool) (lookUp : Value → String → Eval Value) :
    Nat → List Char → Supply → Eval (List Char × Supply)
  | 0, _, s => return ([], s)
  | _ + 1, [], s => return ([], s)
  | n + 1, '%' :: '%' :: cs, s => do
    let (more, s) ← formatAll I isSafe lookUp n cs s
    return ('%' :: more, s)
  | n + 1, '%' :: cs, s => do
    let (filled, rest, s) ← formatPlace I isSafe lookUp cs s
    let (more, s) ← formatAll I isSafe lookUp n rest s
    return (filled ++ more, s)
  | n + 1, c :: cs, s => do
    let (more, s) ← formatAll I isSafe lookUp n cs s
    return (c :: more, s)

def countsAsMap : Value → Bool
  | .dict _ => true
  | .list _ => true
  | .range _ _ _ => true
  | .bytes _ => true
  | .missing _ => true
  | .blocks _ => true
  | _ => false

def supplyOf (v : Value) : Supply :=
  match v with
  | .tuple items => ⟨items, none⟩
  | v => ⟨[v], if countsAsMap v then some v else none⟩

def formatText (I : Interp) (lookUp : Value → String → Eval Value) (template args : Value) : Eval Value := do
  let text := (textOf? template).getD ""
  let safe := isSafe template
  let (cs, s) ← formatAll I safe lookUp (text.length + 1) text.toList (supplyOf args)
  if s.source.isNone && !s.rest.isEmpty then fail .wrongType
  return if safe then .safe (String.ofList cs) else .text (String.ofList cs)

end Stencil.Engine
