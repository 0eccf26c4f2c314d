import Stencil.Proofs.Keys.Floats
import Stencil.Data.Order

/-!
# When two keys are one

A key is a null, a truth value, a number, a text, a row of bytes, a day, a moment or a tuple of keys. Numbers are told apart
by their values, whatever their kind, and moments by the time that they are; one that is no number is known by its mark. What
is left of a key then is its identity, and two keys are one exactly if they have the same identity.
-/

set_option autoImplicit false

namespace Stencil

inductive Identity where
  | null
  | number (q : ℚ)
  | infinite (negative : Bool)
  | nan (mark : Nat)
  | text (s : String)
  | bytes (content : List UInt8)
  | date (d : Date)
  | moment (zoned : Bool) (key : Int)
  | tuple (items : List Identity)
  | other

noncomputable instance : DecidableEq Identity := Classical.decEq Identity

open Number (view FloatView)

def Number.FloatView.identity : FloatView → Identity
  | .finite b => .number b.value
  | .infinite negative => .infinite negative
  | .nan => .other

namespace Num

def identity : Num → Identity
  | .int n => .number n
  | .float x => (view x).identity
  | .complex _ => .other

theorem equal_int_float (n : Int) (x : Float) :
    (Number.compareInt x n == some .eq) = true ↔ (view x).identity = .number n := by
  rw [Number.compareInt_eq_iff]
  cases view x <;> simp [FloatView.identity]

/-- Numbers are equal if they have the same identity. -/
theorem equal_iff {m n : Num} (real : m.identity ≠ .other) (real' : n.isComplex = false) :
    m.equal n = true ↔ m.identity = n.identity := by
  cases m with
  | complex z => exact absurd rfl real
  | int a =>
    cases n with
    | complex z => cases real'
    | int b => simp [equal, identity]
    | float y => exact (equal_int_float a y).trans eq_comm
  | float x =>
    cases n with
    | complex z => cases real'
    | int b => exact equal_int_float b x
    | float y =>
      change (view x).identity ≠ .other at real
      show (x == y) = true ↔ (view x).identity = (view y).identity
      rw [Number.beq_iff]
      revert real
      cases view x <;> cases view y <;> simp [FloatView.identity, FloatView.Equal]

/-- What is no number is equal to none. -/
theorem not_equal_notANumber {n : Num} (real : n.isComplex = false) :
    n.equal (.float Number.notANumber) = false ∧ (Num.float Number.notANumber).equal n = false := by
  have none_at_all : view Number.notANumber = .nan := by decide +kernel
  have apart (m : Int) : (Number.compareInt Number.notANumber m == some .eq) = false := by
    rw [← Bool.not_eq_true, equal_int_float, none_at_all]
    nofun
  cases n with
  | complex z => cases real
  | int m => exact ⟨apart m, apart m⟩
  | float x =>
    constructor
    · show (x == Number.notANumber) = false
      rw [← Bool.not_eq_true, Number.beq_iff, none_at_all]
      cases view x <;> exact id
    · show (Number.notANumber == x) = false
      rw [← Bool.not_eq_true, Number.beq_iff, none_at_all]
      cases view x <;> exact id

end Num

namespace Data

mutual

def identity : Data → Identity
  | .null => .null
  | .bool b => .number (if b then 1 else 0)
  | .int n => .number n
  | .float x => (view x).identity
  | .nan mark => .nan mark
  | .text s => .text s
  | .bytes content => .bytes content
  | .date d => .date d
  | .moment m => .moment m.zone.isSome m.key
  | .tuple items => .tuple (identities items)
  | _ => .other

def identities : List Data → List Identity
  | [] => []
  | d :: rest => d.identity :: identities rest

end

mutual

def isFileKey : Data → Bool
  | .null | .bool _ | .int _ | .nan _ | .text _ | .bytes _ | .date _ | .moment _ => true
  | .float x => view x != .nan
  | .tuple items => areFileKeys items
  | _ => false

def areFileKeys : List Data → Bool
  | [] => true
  | d :: rest => d.isFileKey && areFileKeys rest

end

inductive NumberKey : Data → Prop
  | bool (b : Bool) : NumberKey (.bool b)
  | int (n : Int) : NumberKey (.int n)
  | float (x : Float) (number : view x ≠ .nan) : NumberKey (.float x)
  | nan (mark : Nat) : NumberKey (.nan mark)

inductive OtherKey : Data → Prop
  | null : OtherKey .null
  | text (s : String) : OtherKey (.text s)
  | bytes (content : List UInt8) : OtherKey (.bytes content)
  | date (d : Date) : OtherKey (.date d)
  | moment (m : Moment) : OtherKey (.moment m)
  | tuple (items : List Data) (keys : areFileKeys items = true) : OtherKey (.tuple items)

theorem key_cases {a : Data} (key : a.isFileKey = true) : NumberKey a ∨ OtherKey a := by
  cases a with
  | null => exact .inr .null
  | bool b => exact .inl (.bool b)
  | int n => exact .inl (.int n)
  | float x => exact .inl (.float x (by simpa [isFileKey] using key))
  | nan mark => exact .inl (.nan mark)
  | text s => exact .inr (.text s)
  | bytes content => exact .inr (.bytes content)
  | date d => exact .inr (.date d)
  | moment m => exact .inr (.moment m)
  | tuple items => exact .inr (.tuple items key)
  | _ => cases key

theorem NumberKey.asNum? {a : Data} (key : NumberKey a) : ∃ m, a.asNum? = some m ∧ m.isComplex = false := by
  cases key <;> exact ⟨_, rfl, rfl⟩

/-- A number that is a key has the identity of the number, unless it is none. -/
theorem NumberKey.identity_cases {a : Data} (key : NumberKey a) {m : Num} (number : a.asNum? = some m) :
    (a.identity = m.identity ∧ m.identity ≠ .other ∧ ∀ i, a ≠ .nan i ∧ a.identity ≠ .nan i) ∨
      ∃ i, a = .nan i ∧ m = .float Number.notANumber := by
  cases key with
  | bool b =>
    cases number
    cases b <;> simp [identity, Num.identity]
  | int n =>
    cases number
    simp [identity, Num.identity]
  | nan i =>
    cases number
    exact .inr ⟨i, rfl, rfl⟩
  | float x real =>
    cases number
    show (_ ∧ (view x).identity ≠ .other ∧ ∀ i, _ ∧ (view x).identity ≠ .nan i) ∨ _
    revert real
    cases view x <;> simp [FloatView.identity, identity, Num.identity]

theorem NumberKey.sameKey_eq {a b : Data} {m n : Num} (ha : NumberKey a) (hb : NumberKey b) (number : a.asNum? = some m)
    (number' : b.asNum? = some n) : sameKey a b = (isSame a b || m.equal n) := by
  cases ha <;> cases number <;> cases hb <;> cases number' <;> simp [sameKey, equal, Data.asText?, Data.asNum?]

theorem isSame_eq_false {a b : Data} (ha : NumberKey a) (other : ∀ i, a ≠ .nan i) : isSame a b = false := by
  cases ha with
  | nan i => exact absurd rfl (other i)
  | _ => rfl

theorem sameKey_iff_of_numbers {a b : Data} (ha : NumberKey a) (hb : NumberKey b) :
    sameKey a b = true ↔ a.identity = b.identity := by
  obtain ⟨m, number, real⟩ := ha.asNum?
  obtain ⟨n, number', real'⟩ := hb.asNum?
  rw [ha.sameKey_eq hb number number']
  rcases ha.identity_cases number with ⟨same, proper, apart⟩ | ⟨i, rfl, rfl⟩
  · rw [isSame_eq_false ha fun i => (apart i).1, Bool.false_or]
    rcases hb.identity_cases number' with ⟨same', -, -⟩ | ⟨j, rfl, rfl⟩
    · rw [Num.equal_iff proper real', same, same']
    · rw [(Num.not_equal_notANumber real).1]
      simpa [identity] using (apart j).2
  · rw [(Num.not_equal_notANumber real').2, Bool.or_false]
    cases hb with
    | float x number =>
      rw [identity, identity]
      revert number
      cases view x <;> simp [isSame, FloatView.identity]
    | _ => simp [isSame, identity]

/-- A number and anything else are two keys. -/
theorem apart_of_number {a b : Data} (ha : NumberKey a) (hb : OtherKey b) :
    sameKey a b = false ∧ sameKey b a = false ∧ a.identity ≠ b.identity := by
  refine ⟨?_, ?_, ?_⟩
  · cases ha <;> cases hb <;> simp [sameKey, isSame, equal, asText?, asNum?]
  · cases ha <;> cases hb <;> simp [sameKey, isSame, equal, asText?, asNum?]
  · cases ha with
    | float x real =>
      revert real
      rw [identity]
      cases view x <;> cases hb <;> simp [FloatView.identity, identity]
    | _ => cases hb <;> simp [identity]

mutual

/-- Two keys are one exactly if they have the same identity. -/
theorem sameKey_iff {a b : Data} (ha : a.isFileKey = true) (hb : b.isFileKey = true) :
    sameKey a b = true ↔ a.identity = b.identity := by
  rcases key_cases ha with number | other <;> rcases key_cases hb with number' | other'
  · exact sameKey_iff_of_numbers number number'
  · obtain ⟨apart, -, differ⟩ := apart_of_number number other'
    simp [apart, differ]
  · obtain ⟨-, apart, differ⟩ := apart_of_number number' other
    simp [apart, differ.symm]
  · cases a with
    | tuple xs =>
      cases b with
      | tuple ys =>
        rw [sameKey, equal, identity, identity, Identity.tuple.injEq, ← equalItems_iff ha hb]
        rfl
      | _ => cases other' <;> simp [sameKey, isSame, equal, asText?, asNum?, identity]
    | _ =>
      cases other <;> cases other' <;>
        simp [sameKey, isSame, equal, asText?, asNum?, identity, Moment.equal]

theorem equalItems_iff {as bs : List Data} (ha : areFileKeys as = true) (hb : areFileKeys bs = true) :
    equalItems as bs = true ↔ identities as = identities bs := by
  cases as with
  | nil => cases bs <;> simp [equalItems, identities]
  | cons a as =>
    cases bs with
    | nil => simp [equalItems, identities]
    | cons b bs =>
      rw [areFileKeys, Bool.and_eq_true] at ha hb
      rw [equalItems, identities, identities, List.cons.injEq, Bool.and_eq_true, ← sameKey_iff ha.1 hb.1,
        ← equalItems_iff ha.2 hb.2]
      rfl

end

/-! ## Mappings -/

section Mapping

variable {α : Type}

structure IsMapping (es : List (Data × α)) : Prop where
  keys : ∀ e ∈ es, e.1.isFileKey = true
  distinct : (es.map fun e => e.1.identity).Nodup

variable {key : Data} {es : List (Data × α)}

theorem put_of_mem (value : α) (proper : ∀ e ∈ es, e.1.isFileKey = true) (file : key.isFileKey = true)
    (known : key.identity ∈ es.map fun e => e.1.identity) :
    ∃ before k v after, es = before ++ (k, v) :: after ∧ k.identity = key.identity ∧
      (∀ e ∈ before, e.1.identity ≠ key.identity) ∧ put key value es = before ++ (k, value) :: after := by
  induction es with
  | nil => cases known
  | cons e es ih =>
    obtain ⟨k, v⟩ := e
    have here := sameKey_iff (proper (k, v) List.mem_cons_self) file
    by_cases same : k.identity = key.identity
    · refine ⟨[], k, v, es, rfl, same, by simp, ?_⟩
      rw [put, if_pos (here.mpr same)]
      rfl
    · rw [List.map_cons, List.mem_cons] at known
      obtain ⟨before, k', v', after, rfl, one, others, written⟩ :=
        ih (fun e he => proper e (List.mem_cons_of_mem _ he)) (known.resolve_left fun h => same h.symm)
      refine ⟨(k, v) :: before, k', v', after, rfl, one, ?_, ?_⟩
      · simpa [same] using others
      · rw [put, if_neg (mt here.mp same), written]
        rfl

theorem put_of_not_mem (value : α) (proper : ∀ e ∈ es, e.1.isFileKey = true) (file : key.isFileKey = true)
    (fresh : key.identity ∉ es.map fun e => e.1.identity) : put key value es = es ++ [(key, value)] := by
  induction es with
  | nil => rfl
  | cons e es ih =>
    obtain ⟨k, v⟩ := e
    rw [List.map_cons, List.mem_cons, not_or] at fresh
    have here := sameKey_iff (proper (k, v) List.mem_cons_self) file
    rw [put, if_neg (mt here.mp (Ne.symm fresh.1)), ih (fun e he => proper e (List.mem_cons_of_mem _ he)) fresh.2]
    rfl

theorem IsMapping.put (mapping : IsMapping es) (file : key.isFileKey = true) (value : α) :
    IsMapping (Data.put key value es) := by
  by_cases known : key.identity ∈ es.map fun e => e.1.identity
  · obtain ⟨before, k, v, after, rfl, same, -, written⟩ := put_of_mem value mapping.keys file known
    rw [written]
    constructor
    · have proper := mapping.keys
      simpa [or_imp, forall_and] using proper
    · simpa using mapping.distinct
  · rw [put_of_not_mem value mapping.keys file known]
    constructor
    · have proper := mapping.keys
      simpa [or_imp, forall_and, file] using proper
    · rw [List.map_append, List.nodup_append]
      refine ⟨mapping.distinct, by simp, ?_⟩
      intro i there j here
      rw [List.mem_singleton.mp here]
      exact ne_of_mem_of_not_mem there known

theorem IsMapping.nil : IsMapping ([] : List (Data × α)) := ⟨by simp, by simp⟩

theorem IsMapping.putAll (mapping : IsMapping es) {more : List (Data × α)}
    (proper : ∀ e ∈ more, e.1.isFileKey = true) :
    IsMapping (more.foldl (fun made e => Data.put e.1 e.2 made) es) := by
  induction more generalizing es with
  | nil => exact mapping
  | cons e more ih =>
    exact ih (mapping.put (proper e List.mem_cons_self) e.2) fun e he => proper e (List.mem_cons_of_mem _ he)

theorem IsMapping.mapValues {β : Type} (mapping : IsMapping es) (f : α → β) :
    IsMapping (es.map fun e => (e.1, f e.2)) := by
  constructor
  · intro e he
    obtain ⟨e, there, rfl⟩ := List.mem_map.mp he
    exact mapping.keys e there
  · simpa [Function.comp_def] using mapping.distinct

end Mapping

end Data

end Stencil
