/-!
# Base 64

Four characters of an alphabet of sixty-four stand for three bytes. Characters outside the alphabet are passed over;
padding ends the text once it fills a group of four.
-/

set_option autoImplicit false

namespace Stencil.Text

def sixBits? (c : Char) : Option Nat :=
  if 'A' ≤ c ∧ c ≤ 'Z' then some (c.toNat - 'A'.toNat)
  else if 'a' ≤ c ∧ c ≤ 'z' then some (c.toNat - 'a'.toNat + 26)
  else if '0' ≤ c ∧ c ≤ '9' then some (c.toNat - '0'.toNat + 52)
  else if c = '+' then some 62
  else if c = '/' then some 63
  else none

structure Quad where
  count : Nat := 0
  left : Nat := 0
  pads : Nat := 0

def Quad.push (q : Quad) (bits : Nat) : Option UInt8 × Quad :=
  match q.count with
  | 0 => (none, ⟨1, bits, 0⟩)
  | 1 => (some (UInt8.ofNat (q.left * 4 + bits / 16)), ⟨2, bits % 16, 0⟩)
  | 2 => (some (UInt8.ofNat (q.left * 16 + bits / 4)), ⟨3, bits % 4, 0⟩)
  | _ => (some (UInt8.ofNat (q.left * 64 + bits)), {})

def base64From? (q : Quad) : List Char → Option (List UInt8)
  | [] => if q.count = 0 then some [] else none
  | c :: rest =>
    if c = '=' then
      if 2 ≤ q.count then
        if 4 ≤ q.count + (q.pads + 1) then some [] else base64From? { q with pads := q.pads + 1 } rest
      else base64From? q rest
    else match sixBits? c with
      | none => base64From? q rest
      | some bits =>
        let (byte, q) := q.push bits
        match byte with
        | some b => (base64From? q rest).map (b :: ·)
        | none => base64From? q rest

def base64? (cs : List Char) : Option (List UInt8) := base64From? {} cs

end Stencil.Text
