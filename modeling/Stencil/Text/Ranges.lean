/-!
# Sets of code points

A character class beyond ASCII is a list of closed intervals of code points, in rising order.
-/

set_option autoImplicit false

namespace Stencil.Text

abbrev Ranges := List (Nat × Nat)

def spelledNumbers (read : Nat) : Nat → Nat → List Nat
  | 0, _ => []
  | size + 1, row =>
    if row = 0 then []
    else if row % 16 < 8 then spelledNumbers (read * 8 + row % 16) size (row / 16)
    else (read * 8 + (row % 16 - 8)) :: spelledNumbers 0 size (row / 16)

def numbersIn (row : Nat) : List Nat := spelledNumbers 0 120 row

def Ranges.ofGaps (behind : Nat) : List Nat → Ranges
  | gap :: length :: rest => (behind + gap, behind + gap + length) :: ofGaps (behind + gap + length) rest
  | _ => []

def Ranges.ofRows (rows : List Nat) : Ranges := ofGaps 0 (rows.flatMap numbersIn)

def Ranges.has (rs : Ranges) (n : Nat) : Bool :=
  rs.any fun r => r.1 ≤ n && n ≤ r.2

theorem Ranges.has_cons (a b : Nat) (rs : Ranges) (n : Nat) :
    Ranges.has ((a, b) :: rs) n = ((decide (a ≤ n) && decide (n ≤ b)) || Ranges.has rs n) := by
  simp [Ranges.has]

end Stencil.Text
