import Stencil.Text.Ranges
import Stencil.Text.Tables

/-!
# Letters that have a case

The Greek letter sigma has a small form of its own at the end of a word. A word ends where no letter with a case
follows; marks and signs that do not end a word are passed over.
-/

set_option autoImplicit false

namespace Stencil.Text

def casedRanges : Ranges := .ofGaps 0 (Tables.plainRows 7).flatten

def ignorableRanges : Ranges := .ofGaps 0 (Tables.plainRows 8).flatten

def isCased (c : Char) : Bool := casedRanges.has c.toNat

def isIgnorable (c : Char) : Bool := ignorableRanges.has c.toNat

def meetsCased (cs : List Char) : Bool := (cs.find? fun c => !isIgnorable c).any isCased

def endsWord (before after : List Char) : Bool := meetsCased before && !meetsCased after

end Stencil.Text
