import Stencil.Text.Ranges
import Stencil.Text.Tables

/-!
# Printable characters

A character is printable when it has a visible form of its own: letters, marks, digits, punctuation, symbols
and the plain space. Controls, other spaces, separators, formatting characters and unassigned code points are not.
-/

set_option autoImplicit false

namespace Stencil.Text

def unprintableRanges : Ranges := .ofGaps 0 (Tables.plainRows 9).flatten

def isPrintable (c : Char) : Bool :=
  if c.toNat < 128 then 32 ≤ c.toNat && c.toNat < 127 else !unprintableRanges.has c.toNat

end Stencil.Text
