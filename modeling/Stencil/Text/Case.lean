import Stencil.Text.Cased

/-!
# Upper, lower and title case

Case maps of single characters: ASCII by rule, the rest by a table of runs in which every letter (or every
second one) moves by the same distance, and a short table of letters whose image has several characters.
-/

set_option autoImplicit false

namespace Stencil.Text

structure CaseRun where
  first : Nat
  last : Nat
  step : Nat
  shift : Int

def CaseRun.has (r : CaseRun) (n : Nat) : Bool :=
  r.first ≤ n && n ≤ r.last && (n - r.first) % r.step == 0

def runsFrom (behind : Nat) : List (List Nat) → List CaseRun
  | [gap, length, step, shift] :: rest =>
    let last := behind + gap + length
    ⟨behind + gap, last, step, if shift % 2 = 0 then shift / 2 else -(shift / 2 : Nat)⟩ :: runsFrom last rest
  | _ => []

def specialFrom (behind : Nat) : List (List Nat) → List (Nat × List Nat)
  | (gap :: letters) :: rest => (behind + gap, letters) :: specialFrom (behind + gap) rest
  | _ => []

def upperRuns : List CaseRun := runsFrom 0 (Tables.plainRows 4)

def upperSpecial : List (Nat × List Nat) := specialFrom 0 (Tables.plainRows 10)

def lowerRuns : List CaseRun := runsFrom 0 (Tables.plainRows 5)

def lowerSpecial : List (Nat × List Nat) := [
  (304, [105, 775])]

def titleRuns : List CaseRun := runsFrom 0 (Tables.plainRows 6)

def titleSpecial : List (Nat × List Nat) := specialFrom 0 (Tables.plainRows 11)

def shiftBy? (runs : List CaseRun) (special : List (Nat × List Nat)) (c : Char) : Option (List Char) :=
  match special.lookup c.toNat with
  | some cs => some (cs.map Char.ofNat)
  | none => (runs.find? fun r => r.has c.toNat).map fun r => [Char.ofNat ((c.toNat : Int) + r.shift).toNat]

def upperChar (c : Char) : List Char :=
  if c.toNat < 128 then [c.toUpper] else (shiftBy? upperRuns upperSpecial c).getD [c]

def lowerChar (c : Char) : List Char :=
  if c.toNat < 128 then [c.toLower] else (shiftBy? lowerRuns lowerSpecial c).getD [c]

def titleChar (c : Char) : List Char := (shiftBy? titleRuns titleSpecial c).getD (upperChar c)

def upper (cs : List Char) : List Char := cs.flatMap upperChar

def lowerBetween (before : List Char) (c : Char) (after : List Char) : List Char :=
  if c == 'Σ' && endsWord before after then ['ς'] else lowerChar c

def lowerFrom (before : List Char) : List Char → List Char
  | [] => []
  | c :: cs => lowerBetween before c cs ++ lowerFrom (c :: before) cs

def lower (cs : List Char) : List Char := lowerFrom [] cs

def capitalize : List Char → List Char
  | [] => []
  | c :: cs => titleChar c ++ lowerFrom [c] cs

def titleLetters (before : List Char) : List Char → List Char
  | [] => []
  | c :: cs =>
    (if before.head?.any isCased then lowerBetween before c cs else titleChar c) ++ titleLetters (c :: before) cs

end Stencil.Text
