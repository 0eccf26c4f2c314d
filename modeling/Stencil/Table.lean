/-!
# Tables that remember their order

The entries of a table stand in the order in which their keys were first written. Writing a key again
replaces the value and keeps the place.
-/

set_option autoImplicit false

namespace Stencil

structure Table (κ υ : Type) where
  entries : List (κ × υ) := []
  deriving Repr

namespace Table

variable {κ υ : Type} [BEq κ]

def empty : Table κ υ := ⟨[]⟩

instance : Inhabited (Table κ υ) := ⟨empty⟩

def findEntries? (key : κ) : List (κ × υ) → Option υ
  | [] => none
  | (k, v) :: rest => if k == key then some v else findEntries? key rest

def find? (t : Table κ υ) (key : κ) : Option υ := findEntries? key t.entries

def has (t : Table κ υ) (key : κ) : Bool := (t.find? key).isSome

def insertEntries (key : κ) (value : υ) : List (κ × υ) → List (κ × υ)
  | [] => [(key, value)]
  | (k, v) :: rest => if k == key then (k, value) :: rest else (k, v) :: insertEntries key value rest

def insert (t : Table κ υ) (key : κ) (value : υ) : Table κ υ := ⟨insertEntries key value t.entries⟩

def erase (t : Table κ υ) (key : κ) : Table κ υ := ⟨t.entries.filter fun e => !(e.1 == key)⟩

def insertAll (t : Table κ υ) (entries : List (κ × υ)) : Table κ υ :=
  entries.foldl (fun t e => t.insert e.1 e.2) t

def ofList (entries : List (κ × υ)) : Table κ υ := empty.insertAll entries

def update (t later : Table κ υ) : Table κ υ := t.insertAll later.entries

omit [BEq κ] in
def keys (t : Table κ υ) : List κ := t.entries.map Prod.fst

omit [BEq κ] in
def size (t : Table κ υ) : Nat := t.entries.length

theorem findEntries?_insertEntries_self [LawfulBEq κ] (key : κ) (value : υ) (es : List (κ × υ)) :
    findEntries? key (insertEntries key value es) = some value := by
  induction es with
  | nil => simp [insertEntries, findEntries?]
  | cons e es ih =>
    obtain ⟨k, v⟩ := e
    by_cases h : k == key <;> simp [insertEntries, findEntries?, h, ih]

theorem findEntries?_insertEntries_of_ne [LawfulBEq κ] {key other : κ} (value : υ) (es : List (κ × υ))
    (h : key ≠ other) : findEntries? other (insertEntries key value es) = findEntries? other es := by
  induction es with
  | nil => simp [insertEntries, findEntries?, h]
  | cons e es ih =>
    obtain ⟨k, v⟩ := e
    by_cases hk : k = key
    · subst hk
      simp [insertEntries, findEntries?, h]
    · have hb : (k == key) = false := beq_false_of_ne hk
      rw [insertEntries, hb]
      by_cases ho : k = other <;> simp [findEntries?, ho, ih]

theorem find?_insert_self [LawfulBEq κ] (t : Table κ υ) (key : κ) (value : υ) :
    (t.insert key value).find? key = some value :=
  findEntries?_insertEntries_self key value t.entries

theorem find?_insert_of_ne [LawfulBEq κ] (t : Table κ υ) {key other : κ} (value : υ) (h : key ≠ other) :
    (t.insert key value).find? other = t.find? other :=
  findEntries?_insertEntries_of_ne value t.entries h

theorem find?_insert [LawfulBEq κ] [DecidableEq κ] (t : Table κ υ) (key other : κ) (value : υ) :
    (t.insert key value).find? other = if key = other then some value else t.find? other := by
  by_cases h : key = other
  · subst h
    simp [find?_insert_self]
  · simp [h, find?_insert_of_ne t value h]

end Table

end Stencil
