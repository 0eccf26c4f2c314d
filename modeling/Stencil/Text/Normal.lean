import Stencil.Text.Tables

/-!
# One spelling for compatible identifiers

Identifiers that only differ in how their letters are coded are the same name. A text is taken apart into the code
points that its characters stand for, marks behind a letter are put in order, and letters and marks are joined again
as far as there is one code point for them. Korean syllables are joined and taken apart by calculation.
-/

set_option autoImplicit false

namespace Stencil.Text

namespace Normal

def singles : List (List Nat) := Tables.rows 0

def several : List (List Nat) := Tables.rows 1

def pairs : List (List Nat) := Tables.rows 2

def classes : List (List Nat) := Tables.rows 3

def inRun? (table : List (List Nat)) (n : Nat) : Option (Nat × Nat) :=
  table.findSome? fun
    | [first, last, entry] => if first ≤ n && n ≤ last then some (n - first, entry) else none
    | _ => none

def syllableBase : Nat := 0xAC00

def leadBase : Nat := 0x1100

def vowelBase : Nat := 0x1161

def tailBase : Nat := 0x11A7

def isSyllable (n : Nat) : Bool := syllableBase ≤ n && n < syllableBase + 11172

def takeApart (n : Nat) : List Nat :=
  if n < 128 then [n]
  else if isSyllable n then
    let i := n - syllableBase
    let parts := [leadBase + i / 588, vowelBase + i % 588 / 28]
    if i % 28 = 0 then parts else parts ++ [tailBase + i % 28]
  else match inRun? singles n with
    | some (offset, target) => [target + offset]
    | none =>
      match several.find? fun row => row.head? == some n with
      | some row => row.tail
      | none => [n]

def classOf (n : Nat) : Nat := ((inRun? classes n).map Prod.snd).getD 0

def placeMark (n : Nat) (k : Nat) : List Nat → List Nat
  | [] => [n]
  | m :: before => if k < classOf m then m :: placeMark n k before else n :: m :: before

def arrange (ns : List Nat) : List Nat :=
  (ns.foldl (fun read n => if classOf n = 0 then n :: read else placeMark n (classOf n) read) []).reverse

def join? (a b : Nat) : Option Nat :=
  if leadBase ≤ a && a < leadBase + 19 && vowelBase ≤ b && b < vowelBase + 21 then
    some (syllableBase + ((a - leadBase) * 21 + (b - vowelBase)) * 28)
  else if isSyllable a && (a - syllableBase) % 28 = 0 && tailBase < b && b < tailBase + 28 then
    some (a + (b - tailBase))
  else pairs.findSome? fun
    | [x, y, joined] => if x = a && y = b then some joined else none
    | _ => none

def joinFrom (letter : Nat) (left : List Nat) (last : Option Nat) : List Nat → List Nat
  | [] => letter :: left.reverse
  | n :: rest =>
    let k := classOf n
    let reaches := match last with
      | none => true
      | some l => l < k && l ≠ 0
    match if reaches then join? letter n else none with
    | some joined => joinFrom joined left last rest
    | none =>
      if k = 0 then letter :: left.reverse ++ joinFrom n [] none rest
      else joinFrom letter (n :: left) (some k) rest

def joinAll : List Nat → List Nat
  | [] => []
  | n :: rest => if classOf n = 0 then joinFrom n [] none rest else n :: joinAll rest

end Normal

def normal (id : String) : String :=
  if id.toList.all (·.toNat < 128) then id
  else
    let parts := Normal.arrange (id.toList.flatMap fun c => Normal.takeApart c.toNat)
    String.ofList ((Normal.joinAll parts).map Char.ofNat)

end Stencil.Text
