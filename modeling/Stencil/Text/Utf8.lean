/-!
# Decoding UTF-8

Bytes are decoded strictly. A failure names the bytes at fault by their positions and says what is wrong with
them: a byte that starts nothing, a byte where a continuation was due, or an end of input inside a character.
-/

set_option autoImplicit false

namespace Stencil.Text

inductive DecodeReason where
  | invalidStart
  | invalidContinuation
  | unexpectedEnd
  deriving DecidableEq, Repr

structure DecodeFault where
  byte : UInt8
  start : Nat
  last : Nat
  reason : DecodeReason
  deriving DecidableEq, Repr

def DecodeReason.message : DecodeReason → String
  | .invalidStart => "invalid start byte"
  | .invalidContinuation => "invalid continuation byte"
  | .unexpectedEnd => "unexpected end of data"

def hexByte (b : UInt8) : String :=
  let ds := Nat.toDigits 16 b.toNat
  String.ofList (List.replicate (2 - ds.length) '0' ++ ds)

def DecodeFault.message (f : DecodeFault) : String :=
  let what :=
    if f.start = f.last then "byte 0x" ++ hexByte f.byte ++ " in position " ++ toString f.start
    else "bytes in position " ++ toString f.start ++ "-" ++ toString f.last
  "'utf-8' codec can't decode " ++ what ++ ": " ++ f.reason.message

def leadInfo (b : UInt8) : Option (Nat × UInt8 × UInt8) :=
  if 0xC2 ≤ b && b ≤ 0xDF then some (1, 0x80, 0xBF)
  else if b == 0xE0 then some (2, 0xA0, 0xBF)
  else if b == 0xED then some (2, 0x80, 0x9F)
  else if 0xE1 ≤ b && b ≤ 0xEF then some (2, 0x80, 0xBF)
  else if b == 0xF0 then some (3, 0x90, 0xBF)
  else if 0xF1 ≤ b && b ≤ 0xF3 then some (3, 0x80, 0xBF)
  else if b == 0xF4 then some (3, 0x80, 0x8F)
  else none

def takeContinuation (lead : UInt8) (start : Nat) :
    Nat → Nat → UInt8 → UInt8 → Nat → List UInt8 → Except DecodeFault (Nat × List UInt8)
  | 0, _, _, _, code, bs => .ok (code, bs)
  | _ + 1, seen, _, _, _, [] => .error ⟨lead, start, start + seen - 1, .unexpectedEnd⟩
  | n + 1, seen, lo, hi, code, b :: bs =>
    if lo ≤ b && b ≤ hi then
      takeContinuation lead start n (seen + 1) 0x80 0xBF (code * 64 + (b.toNat - 0x80)) bs
    else .error ⟨lead, start, start + seen - 1, .invalidContinuation⟩

def leadBits (b : UInt8) : Nat → Nat
  | 1 => b.toNat - 0xC0
  | 2 => b.toNat - 0xE0
  | _ => b.toNat - 0xF0

def decodeFrom : Nat → Nat → List UInt8 → Except DecodeFault (List Char)
  | _, _, [] => .ok []
  | 0, _, _ => .ok []
  | fuel + 1, pos, b :: bs =>
    if b < 0x80 then do
      let cs ← decodeFrom fuel (pos + 1) bs
      return Char.ofNat b.toNat :: cs
    else match leadInfo b with
      | none => .error ⟨b, pos, pos, .invalidStart⟩
      | some (n, lo, hi) => do
        let (code, rest) ← takeContinuation b pos n 1 lo hi (leadBits b n) bs
        let cs ← decodeFrom fuel (pos + 1 + n) rest
        return Char.ofNat code :: cs

def decodeUtf8 (bs : List UInt8) : Except DecodeFault (List Char) :=
  decodeFrom bs.length 0 bs

def encodeUtf8 (s : String) : List UInt8 := s.toUTF8.toList

end Stencil.Text
