/-!
# A cache of bounded size

The entries stand in the order of their last use, the newest first. Finding an entry makes it the newest; storing
one in a full cache drops the oldest. A cache of texts has a name and a digest of the text for a key, and remembers what
it was asked for.
-/

set_option autoImplicit false

namespace Stencil

structure Cache (κ υ : Type) where
  capacity : Nat
  entries : List (κ × υ) := []

namespace Cache

variable {κ υ : Type} [BEq κ]

def peek? (c : Cache κ υ) (key : κ) : Option υ := (c.entries.find? (·.1 == key)).map Prod.snd

def without (c : Cache κ υ) (key : κ) : List (κ × υ) := c.entries.filter fun e => !(e.1 == key)

def find? (c : Cache κ υ) (key : κ) : Option (υ × Cache κ υ) :=
  match c.peek? key with
  | none => none
  | some value => some (value, { c with entries := (key, value) :: c.without key })

def insert (c : Cache κ υ) (key : κ) (value : υ) : Cache κ υ :=
  { c with entries := ((key, value) :: c.without key).take c.capacity }

omit [BEq κ] in
def size (c : Cache κ υ) : Nat := c.entries.length

end Cache

def numbering (s : String) : Int := (s.toList.foldr (fun c n => n * 2097152 + (c.toNat + 1)) 0 : Nat)

structure TextCache (υ : Type) where
  kept : Cache (String × Int) υ
  -- what stands for a text in the keys
  digest : String → Int := numbering
  -- the names and texts that were asked for and had, the latest first
  asked : List (String × String) := []

namespace TextCache

variable {υ : Type}

def ofSize (size : Nat) : TextCache υ := { kept := ⟨size, []⟩ }

def key (t : TextCache υ) (name source : String) : String × Int := (name, t.digest source)

def find? (t : TextCache υ) (name source : String) : Option (υ × TextCache υ) :=
  (t.kept.find? (t.key name source)).map fun (value, kept) =>
    (value, { t with kept, asked := (name, source) :: t.asked })

def insert (t : TextCache υ) (name source : String) (value : υ) : TextCache υ :=
  { t with kept := t.kept.insert (t.key name source) value, asked := (name, source) :: t.asked }

def keeps (t : TextCache υ) (name source : String) : Bool := (t.kept.peek? (t.key name source)).isSome

def size (t : TextCache υ) : Nat := t.kept.size

end TextCache

end Stencil
