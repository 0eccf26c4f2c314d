import Stencil.Text.CharName.Tables
import Stencil.Text.Packed

/-!
# Characters by name

Names are found whatever the case of their letters. Ideographs are named by their code points, and Korean syllables
by the sounds they consist of; the names of these two are written in capitals.
-/

set_option autoImplicit false

namespace Stencil.Text

namespace CharName

def points (runs : List (List Nat)) : List Nat :=
  runs.flatMap fun
    | [start, length] => (List.range length).map (start + ·)
    | _ => []

def inTable? (name : List Char) : Option Nat :=
  let lines := Packed.unpack packed
  let names := (lines.dropWhile (· ≠ "")).drop 1
  (names.zip (points (Packed.rows (lines.takeWhile (· ≠ ""))))).lookup (String.ofList name)

def after? (start : String) (name : List Char) : Option (List Char) :=
  if start.toList.isPrefixOf name then some (name.drop start.length) else none

def numbered? (intervals : List (Nat × Nat)) (digits : List Char) : Option Nat :=
  if (digits.length = 4 || digits.length = 5) && digits.all (fun c => Number.isDigitOf 16 c && !c.isLower) then
    let n := Number.ofDigits 16 digits
    if intervals.any (fun i => i.1 ≤ n && n ≤ i.2) then some n else none
  else none

def ideographs : List (Nat × Nat) :=
  [(0x3400, 0x4dbf), (0x4e00, 0x9fff), (0x20000, 0x2a6df), (0x2a700, 0x2b738), (0x2b740, 0x2b81d),
    (0x2b820, 0x2cea1), (0x2ceb0, 0x2ebe0), (0x30000, 0x3134a)]

def families : List (String × List (Nat × Nat)) :=
  [("CJK COMPATIBILITY IDEOGRAPH-", [(0xf900, 0xfa6d), (0xfa70, 0xfad9), (0x2f800, 0x2fa1d)]),
    ("KHITAN SMALL SCRIPT CHARACTER-", [(0x18b00, 0x18cd5)]),
    ("NUSHU CHARACTER-", [(0x1b170, 0x1b2fb)])]

def leads : List String :=
  ["G", "GG", "N", "D", "DD", "R", "M", "B", "BB", "S", "SS", "", "J", "JJ", "C", "K", "T", "P", "H"]

def vowels : List String :=
  ["A", "AE", "YA", "YAE", "EO", "E", "YEO", "YE", "O", "WA", "WAE", "OE", "YO", "U", "WEO", "WE", "WI", "YU", "EU",
    "YI", "I"]

def tails : List String :=
  ["", "G", "GG", "GS", "N", "NJ", "NH", "D", "L", "LG", "LM", "LB", "LS", "LT", "LP", "LH", "M", "B", "BS", "S", "SS",
    "NG", "J", "C", "K", "T", "P", "H"]

def takeSound? (sounds : List String) (cs : List Char) : Option (Nat × List Char) :=
  let fits := sounds.zipIdx.filter fun s => s.1.toList.isPrefixOf cs
  let best := fits.foldl (fun (b : Option (String × Nat)) s => match b with
    | none => some s
    | some t => if t.1.length < s.1.length then some s else some t) none
  best.map fun s => (s.2, cs.drop s.1.length)

def syllable? (cs : List Char) : Option Nat := do
  let (lead, cs) ← takeSound? leads cs
  let (vowel, cs) ← takeSound? vowels cs
  let (tail, cs) ← takeSound? tails cs
  if cs.isEmpty then some (0xAC00 + (lead * 21 + vowel) * 28 + tail) else none

def point? (name : List Char) : Option Nat :=
  match after? "HANGUL SYLLABLE " name, after? "CJK UNIFIED IDEOGRAPH-" name with
  | some sounds, _ => syllable? sounds
  | none, some digits => numbered? ideographs digits
  | none, none =>
    let capitals := name.map Char.toUpper
    match families.findSome? fun f => (after? f.1 capitals).bind (numbered? f.2) with
    | some n => some n
    | none => inTable? capitals

end CharName

def charNamed? (name : List Char) : Option Char := (CharName.point? name).map Char.ofNat

end Stencil.Text
