import Stencil.Number.Read
import Stencil.Text.Blank
import Stencil.Text.Decimal
import Stencil.Text.Split

/-!
# Numbers as people write them

Reading numbers from texts allows blanks around them, a sign, and single underscores between digits. A whole number
may carry the mark of its base. Digits of any script will do.
-/

set_option autoImplicit false

namespace Stencil.Number

def isPowerOfTwo (n : Nat) : Bool := [2, 4, 8, 16, 32].contains n

def digitsWithin? (base : Nat) (cs : List Char) : Option Nat :=
  match cs with
  | [] => none
  | _ =>
    let groups := Text.splitText ['_'] (cs.length + 1) cs
    if !isPowerOfTwo base && digitLimit < cs.countP (· != '_') then none
    else if groups.all fun g => !g.isEmpty && g.all (isDigitOf base) then some (ofDigits base cs) else none

def basedDigits? (base : Nat) (cs : List Char) : Option Nat :=
  let marked : Option (Nat × List Char) := match cs with
    | '0' :: c :: rest =>
      let of (b : Nat) := if base = b || base = 0 then some (b, match rest with
        | '_' :: more => more
        | rest => rest) else none
      if c == 'x' || c == 'X' then of 16
      else if c == 'o' || c == 'O' then of 8
      else if c == 'b' || c == 'B' then of 2
      else none
    | _ => none
  match marked with
  | some (b, rest) => digitsWithin? b rest
  | none =>
    if base = 0 then
      match cs with
      | '0' :: _ => if cs.all fun c => c == '0' || c == '_' then digitsWithin? 10 cs else none
      | cs => digitsWithin? 10 cs
    else digitsWithin? base cs

def readInt? (base : Nat) (s : String) : Option Int :=
  let (negative, cs) := takeSign ((Text.strip s.toList).map Text.asciiDigit)
  (basedDigits? base cs).map fun n => if negative then -(n : Int) else n

def plainDigits? (cs : List Char) : Option (List Char) :=
  if cs.isEmpty then some []
  else if (Text.splitText ['_'] (cs.length + 1) cs).all fun g => !g.isEmpty && g.all Char.isDigit then
    some (cs.filter Char.isDigit)
  else none

def lowerWord (cs : List Char) : String := String.ofList (cs.map Char.toLower)

def readFloat? (s : String) : Option Float :=
  let (negative, cs) := takeSign ((Text.strip s.toList).map Text.asciiDigit)
  match lowerWord cs with
  | "inf" | "infinity" => some (withSign negative infinity)
  | "nan" => some notANumber
  | _ =>
    let isMantissa (c : Char) := c != 'e' && c != 'E'
    let mantissa := cs.takeWhile isMantissa
    let whole := mantissa.takeWhile (· != '.')
    let fraction := (mantissa.drop whole.length).drop 1
    let exponent : Option Int :=
      match cs.drop mantissa.length with
      | [] => some 0
      | _ :: rest =>
        let (minus, ds) := takeSign rest
        match plainDigits? ds with
        | some [] => none
        | some ds => some (if minus then -(ofDigits 10 ds : Int) else ofDigits 10 ds)
        | none => none
    match plainDigits? whole, plainDigits? fraction, exponent with
    | some w, some f, some e => if w.isEmpty && f.isEmpty then none else some (decimalFloat negative w f e)
    | _, _, _ => none

end Stencil.Number
