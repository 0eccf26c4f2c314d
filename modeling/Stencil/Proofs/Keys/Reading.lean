import Stencil.Proofs.Keys.Identity
import Stencil.Variables

/-!
# The keys of data files

What data files hold is a mapping: its keys are of the kinds that files can write, and no two of them are one. In the workshop
of a document every part that is made and every collection that is there has such keys, and each step keeps that.
-/

set_option autoImplicit false

namespace Stencil.Yaml

open Data (IsMapping)

/-! ## Scalars -/

theorem exists_of_bind_eq_ok {ε α β : Type} {e : Except ε α} {f : α → Except ε β} {b : β} (h : (e >>= f) = .ok b) :
    ∃ a, e = .ok a ∧ f a = .ok b := by
  cases e with
  | error x => cases h
  | ok a => exact ⟨a, rfl, h⟩

theorem isFileKey_intValue {version : Version} {s : String} {d : Data} (h : intValue version s = .ok d) :
    d.isFileKey = true := by
  obtain ⟨p, -, h⟩ := exists_of_bind_eq_ok h
  obtain ⟨n, -, h⟩ := exists_of_bind_eq_ok h
  cases h
  rfl

theorem isFileKey_signed {x : Float} (number : Number.view x ≠ .nan) (negative : Bool) :
    (Data.float (if negative then -x else x)).isFileKey = true := by
  rw [Data.isFileKey, bne_iff_ne]
  cases negative
  · exact number
  · exact Number.view_neg_ne_nan number

theorem isFileKey_floatValue {version : Version} {mark : Nat} {s : String} {d : Data}
    (h : floatValue version mark s = .ok d) : d.isFileKey = true := by
  obtain ⟨⟨negative, cs⟩, -, h⟩ := exists_of_bind_eq_ok h
  dsimp only at h
  split at h
  · cases h
    exact isFileKey_signed (by decide +kernel) negative
  · cases h
    rfl
  · have given (x : Float) : (if x.isNaN then Data.nan mark else .float (if negative then -x else x)).isFileKey = true := by
      by_cases number : x.isNaN = true
      · rw [if_pos number]
        rfl
      · rw [if_neg number]
        exact isFileKey_signed (mt (Number.isNaN_iff x).mpr number) negative
    split at h
    · obtain ⟨parts, -, h⟩ := exists_of_bind_eq_ok h
      cases h
      exact given _
    · obtain ⟨x, -, h⟩ := exists_of_bind_eq_ok h
      cases h
      exact given x

theorem isFileKey_timestampValue {s : String} {d : Data} (h : timestampValue s = .ok d) : d.isFileKey = true := by
  unfold timestampValue at h
  split at h
  · cases h
  · unfold Stamp.toData at h
    split at h
    · cases h
    · cases h
      rfl
    · dsimp only at h
      split_ifs at h <;> cases h <;> rfl

theorem isFileKey_scalarValue {version : Version} {mark : Nat} {tag : Tag} {s : String} {d : Data}
    (h : scalarValue version mark tag s = .ok d) : d.isFileKey = true := by
  unfold scalarValue at h
  split at h
  · cases h
    rfl
  · unfold boolValue at h
    split at h <;> cases h <;> rfl
  · exact isFileKey_intValue h
  · exact isFileKey_floatValue h
  · exact isFileKey_timestampValue h
  · cases h
    rfl
  · unfold binaryValue at h
    split_ifs at h
    · split at h <;> cases h
      rfl
  · cases h

/-! ## The workshop -/

mutual

def Part.isSound : Part → Bool
  | .data d => d.isFileKey
  | .tuple items => areSound items
  | .object _ => true

def Part.areSound : List Part → Bool
  | [] => true
  | p :: rest => p.isSound && areSound rest

end

def Collection.Sound : Collection → Prop
  | .list items => Part.areSound items = true
  | .map entries => IsMapping entries
  | .ordered entries => IsMapping entries
  | .set _ => True

structure Workshop.Sound (s : Workshop) : Prop where
  made : ∀ (i : Nat) (p : Part), s.made[i]? = some (some p) → p.isSound = true
  objects : ∀ (i : Nat) (c : Collection), s.objects[i]? = some c → c.Sound

/-- What reads the nodes and writes them leaves parts and collections as they are. -/
theorem Workshop.Sound.of_fields {s s' : Workshop} (sound : s.Sound) (made : s'.made = s.made)
    (objects : s'.objects = s.objects) : s'.Sound :=
  ⟨made ▸ sound.made, objects ▸ sound.objects⟩

namespace Make

variable {α β : Type}

def Keeps (e : Make α) (Q : α → Prop) : Prop :=
  ∀ s a s', s.Sound → e.run s = .ok (a, s') → s'.Sound ∧ Q a

theorem Keeps.pure {a : α} {Q : α → Prop} (h : Q a) : Keeps (Pure.pure a) Q := by
  intro s a s' sound run
  cases run
  exact ⟨sound, h⟩

theorem Keeps.bind {e : Make α} {f : α → Make β} {Q : α → Prop} {R : β → Prop} (h : Keeps e Q)
    (k : ∀ a, Q a → Keeps (f a) R) : Keeps (e >>= f) R := by
  intro s b s' sound run
  rw [StateT.run_bind] at run
  obtain ⟨⟨a, s₁⟩, first, second⟩ := exists_of_bind_eq_ok run
  obtain ⟨sound₁, ha⟩ := h s a s₁ sound first
  exact k a ha s₁ b s' sound₁ second

theorem keeps_throw (f : Fault) (Q : α → Prop) : Keeps (throw f) Q := by
  intro s a s' sound run
  cases run

theorem keeps_get : Keeps get Workshop.Sound := by
  intro s a s' sound run
  cases run
  exact ⟨sound, sound⟩

theorem keeps_modify {f : Workshop → Workshop} (h : ∀ s, s.Sound → (f s).Sound) : Keeps (modify f) fun _ => True := by
  intro s a s' sound run
  cases run
  exact ⟨h s sound, trivial⟩

theorem keeps_set {s : Workshop} (h : s.Sound) : Keeps (set s) fun _ => True := by
  intro s₀ a s' _ run
  cases run
  exact ⟨h, trivial⟩

theorem keeps_modify_rest {f : Workshop → Workshop} (made : ∀ s, (f s).made = s.made)
    (objects : ∀ s, (f s).objects = s.objects) : Keeps (modify f) fun _ => True :=
  keeps_modify fun s sound => sound.of_fields (made s) (objects s)

theorem keeps_lift {e : Except Fault α} {Q : α → Prop} (h : ∀ a, e = .ok a → Q a) : Keeps (StateT.lift e) Q := by
  intro s a s' sound run
  cases e with
  | error f => cases run
  | ok b =>
    cases run
    exact ⟨sound, h a rfl⟩

theorem keeps_node (id : Nat) : Keeps (node id) fun _ => True :=
  keeps_get.bind fun _ _ => .pure trivial

theorem keeps_setNode (id : Nat) (n : Node) : Keeps (setNode id n) fun _ => True :=
  keeps_modify_rest (fun _ => rfl) (fun _ => rfl)

theorem keeps_tagOf (id : Nat) : Keeps (tagOf id) fun _ => True :=
  (keeps_node id).bind fun n _ => by cases n <;> exact .pure trivial

theorem keeps_entriesOf (id : Nat) : Keeps (entriesOf id) fun _ => True :=
  (keeps_node id).bind fun n _ => by cases n <;> exact .pure trivial

theorem keeps_setEntries (id : Nat) (entries : Entries) : Keeps (setEntries id entries) fun _ => True :=
  (keeps_node id).bind fun n _ => by
    cases n with
    | mapping tag old taken => exact keeps_setNode id _
    | _ => exact .pure trivial

theorem keeps_asTextKey (id : Nat) : Keeps (asTextKey id) fun _ => True := by
  refine (keeps_node id).bind fun n _ => ?_
  split
  · exact keeps_setNode id _
  · exact keeps_setNode id _
  · exact keeps_setNode id _
  · exact .pure trivial

structure Flattens (n : Nat) : Prop where
  flatten : ∀ id, Keeps (flatten id n) fun _ => True
  flattenFrom : ∀ id index taken, Keeps (flattenFrom id index taken n) fun _ => True
  takenFrom : ∀ source, Keeps (takenFrom source n) fun _ => True
  takenFromAll : ∀ items, Keeps (takenFromAll items n) fun _ => True

theorem flattens (n : Nat) : Flattens n := by
  induction n with
  | zero =>
    constructor <;> intros <;> simp only [flatten, flattenFrom, takenFrom, takenFromAll] <;> exact .pure trivial
  | succ n ih =>
    constructor
    · intro id
      rw [flatten]
      refine (ih.flattenFrom id 0 []).bind fun taken _ => ?_
      split
      · refine (keeps_node id).bind fun m _ => ?_
        split
        · exact keeps_setNode id _
        · exact .pure trivial
      · exact .pure trivial
    · intro id index taken
      rw [flattenFrom]
      refine (keeps_entriesOf id).bind fun entries _ => ?_
      split
      · exact .pure trivial
      · next key source _ =>
        refine (keeps_tagOf key).bind fun tag _ => ?_
        split
        · have rest : Keeps (do
              setEntries id (entries.eraseIdx index)
              let more ← takenFrom source n
              flattenFrom id index (taken ++ more) n) fun _ => True :=
            (keeps_setEntries id _).bind fun _ _ => (ih.takenFrom _).bind fun _ _ => ih.flattenFrom id index _
          dsimp only
          split
          · exact (keeps_throw _ _).bind fun _ (_ : True) => rest
          · exact rest
        · dsimp only
          split
          · exact (keeps_asTextKey _).bind fun _ _ => ih.flattenFrom id _ taken
          · exact ih.flattenFrom id _ taken
    · intro source
      rw [takenFrom]
      refine (keeps_node source).bind fun m _ => ?_
      split
      · exact (ih.flatten source).bind fun _ _ => keeps_entriesOf source
      · exact (ih.takenFromAll _).bind fun _ _ => .pure trivial
      · exact keeps_throw _ _
    · intro items
      cases items with
      | nil =>
        rw [takenFromAll]
        exact .pure trivial
      | cons item rest =>
        rw [takenFromAll]
        refine (keeps_node item).bind fun m _ => ?_
        split
        · refine (ih.flatten item).bind fun _ _ => (keeps_entriesOf item).bind fun entries _ => ?_
          exact (ih.takenFromAll rest).bind fun _ _ => .pure trivial
        · exact keeps_throw _ _

theorem keeps_findM? {p : Nat × Nat → Make Bool} (h : ∀ e, Keeps (p e) fun _ => True) (entries : Entries) :
    Keeps (entries.findM? p) fun _ => True := by
  induction entries with
  | nil => exact .pure trivial
  | cons e entries ih =>
    rw [List.findM?]
    refine (h e).bind fun found _ => ?_
    cases found
    · exact ih
    · exact .pure trivial

theorem keeps_scalarText (id n : Nat) : Keeps (scalarText id n) fun _ => True := by
  induction n generalizing id with
  | zero => exact keeps_throw _ _
  | succ n ih =>
    rw [scalarText]
    refine (keeps_node id).bind fun m _ => ?_
    split
    · exact .pure trivial
    · exact keeps_throw _ _
    · refine (keeps_findM? (fun e => (keeps_tagOf e.1).bind fun _ _ => .pure trivial) _).bind fun found _ => ?_
      split
      · exact ih _
      · exact keeps_throw _ _

theorem keeps_object (id : Nat) : Keeps (object id) Collection.Sound := by
  refine keeps_get.bind fun s sound => .pure ?_
  rw [Array.getD_eq_getD_getElem?]
  cases found : s.objects[id]? with
  | none => rfl
  | some c => exact sound.objects id c found

theorem keeps_setObject (id : Nat) {c : Collection} (h : c.Sound) : Keeps (setObject id c) fun _ => True := by
  refine keeps_modify fun s sound => ⟨sound.made, fun i d there => ?_⟩
  rw [Array.getElem?_setIfInBounds] at there
  split at there
  · split at there
    · cases there
      exact h
    · cases there
  · exact sound.objects i d there

theorem keeps_addObject {c : Collection} (h : c.Sound) : Keeps (addObject c) fun _ => True := by
  refine keeps_get.bind fun s sound => Keeps.bind (keeps_set ⟨sound.made, fun i d there => ?_⟩) fun _ _ => .pure trivial
  rw [Array.getElem?_push] at there
  split at there
  · cases there
    exact h
  · exact sound.objects i d there

/-! ## Keys -/

mutual

theorem isFileKey_keyData? {p : Part} {d : Data} (sound : p.isSound = true) (h : keyData? p = some d) :
    d.isFileKey = true := by
  cases p with
  | data e =>
    rw [keyData?] at h
    split at h
    · cases h
      exact sound
    · cases h
  | tuple items =>
    rw [keyData?, Option.map_eq_some_iff] at h
    obtain ⟨ds, keys, rfl⟩ := h
    exact areFileKeys_keyItems? sound keys
  | object id => cases h

theorem areFileKeys_keyItems? {ps : List Part} {ds : List Data} (sound : Part.areSound ps = true)
    (h : keyItems? ps = some ds) : Data.areFileKeys ds = true := by
  cases ps with
  | nil =>
    cases h
    rfl
  | cons p ps =>
    rw [Part.areSound, Bool.and_eq_true] at sound
    simp only [keyItems?, Option.bind_eq_bind, Option.bind_eq_some_iff, Option.pure_def, Option.some.injEq] at h
    obtain ⟨d, key, ds, keys, rfl⟩ := h
    rw [Data.areFileKeys, isFileKey_keyData? sound.1 key, areFileKeys_keyItems? sound.2 keys]
    rfl

end

theorem keeps_asKey {p : Part} (sound : p.isSound = true) : Keeps (asKey p) fun q => q.isSound = true := by
  unfold asKey
  split
  · refine (keeps_object _).bind fun c inside => ?_
    split
    · exact .pure inside
    · exact keeps_throw _ _
  · exact .pure sound

theorem keeps_hashed {p : Part} (sound : p.isSound = true) : Keeps (hashed p) fun d => d.isFileKey = true := by
  unfold hashed
  split
  · next d key => exact .pure (isFileKey_keyData? sound key)
  · exact keeps_throw _ _

theorem keeps_addEntry (unique : Bool) {entries : List (Data × Part)} (mapping : IsMapping entries) {key : Data}
    (file : key.isFileKey = true) (value : Part) : Keeps (addEntry unique entries key value) IsMapping := by
  unfold addEntry
  split
  · split
    · exact keeps_throw _ _
    · exact keeps_throw _ _
  · exact .pure (mapping.put file value)

/-! ## Values -/

theorem keeps_deeply (deep : Bool) {act : Make Part} {Q : Part → Prop} (h : Keeps act Q) : Keeps (deeply deep act) Q := by
  unfold deeply
  cases deep
  · exact h
  · refine keeps_get.bind fun s _ => ?_
    refine Keeps.bind (keeps_modify_rest (fun _ => rfl) (fun _ => rfl)) fun _ _ => h.bind fun made hm => ?_
    exact Keeps.bind (keeps_modify_rest (fun _ => rfl) (fun _ => rfl)) fun _ _ => .pure hm

theorem isSound_of_map {e : Except Fault Data} (h : ∀ {d}, e = .ok d → d.isFileKey = true) {p : Part}
    (made : e.map Part.data = .ok p) : p.isSound = true := by
  cases e with
  | error f => cases made
  | ok d =>
    cases made
    exact h rfl

theorem sound_emptyFor (tag : Tag) : (emptyFor tag).Sound := by
  cases tag <;> first | exact rfl | exact IsMapping.nil | trivial

structure Makes (n : Nat) : Prop where
  value : ∀ deep id, Keeps (value deep id n) fun p => p.isSound = true
  newValue : ∀ id, Keeps (newValue id n) fun p => p.isSound = true
  fill : ∀ job, Keeps (fill job n) fun _ => True
  values : ∀ ids, Keeps (values ids n) fun ps => Part.areSound ps = true
  mappingEntries : ∀ id, Keeps (mappingEntries id n) IsMapping
  addEntries : ∀ unique made entries, IsMapping made → Keeps (addEntries unique made entries n) IsMapping
  fillOrdered : ∀ object items, Keeps (fillOrdered object items n) fun _ => True
  fillPairs : ∀ object items, Keeps (fillPairs object items n) fun _ => True

variable {n : Nat}

theorem Makes.value_succ (h : Makes n) (deep : Bool) (id : Nat) :
    Keeps (Make.value deep id (n + 1)) fun p => p.isSound = true := by
  rw [Make.value]
  have made : Keeps (deeply deep do
      modify fun s => { s with underway := id :: s.underway }
      let part ← Make.newValue id n
      modify fun s => { s with made := s.made.setIfInBounds id (some part), underway := s.underway.drop 1 }
      return part) fun p => p.isSound = true := by
    refine keeps_deeply deep (Keeps.bind (keeps_modify_rest (fun _ => rfl) (fun _ => rfl)) fun _ _ => ?_)
    refine (h.newValue id).bind fun part sound => Keeps.bind (keeps_modify fun s before => ?_) fun _ _ => .pure sound
    refine ⟨fun i p there => ?_, before.objects⟩
    rw [Array.getElem?_setIfInBounds] at there
    split at there
    · split at there
      · cases there
        exact sound
      · cases there
    · exact before.made i p there
  refine keeps_get.bind fun s sound => ?_
  split
  · next part found => exact .pure (sound.made id part (Option.join_eq_some_iff.mp found))
  · split
    · dsimp only
      split
      · exact Keeps.bind (keeps_modify_rest (fun _ => rfl) (fun _ => rfl)) fun _ _ => .pure rfl
      · exact .pure rfl
    · dsimp only
      split
      · exact (keeps_throw _ _).bind fun _ (_ : True) => made
      · exact made

theorem Makes.newValue_succ (h : Makes n) (id : Nat) : Keeps (Make.newValue id (n + 1)) fun p => p.isSound = true := by
  rw [Make.newValue]
  refine (keeps_tagOf id).bind fun tag _ => ?_
  split
  · refine (keeps_addObject (sound_emptyFor tag)).bind fun object _ => keeps_get.bind fun s _ => ?_
    dsimp only
    split
    · exact (h.fill _).bind fun _ _ => .pure rfl
    · exact Keeps.bind (keeps_modify_rest (fun _ => rfl) (fun _ => rfl)) fun _ _ => .pure rfl
  · split
    · refine (keeps_node id).bind fun m _ => ?_
      split
      · exact keeps_lift fun p => isSound_of_map isFileKey_timestampValue
      · exact keeps_throw _ _
    · split
      · exact keeps_throw _ _
      · refine (keeps_scalarText id n).bind fun text _ => keeps_get.bind fun s sound => ?_
        refine Keeps.bind (keeps_set (sound.of_fields rfl rfl)) fun _ _ => ?_
        exact keeps_lift fun p => isSound_of_map isFileKey_scalarValue

theorem Makes.fill_succ (h : Makes n) (job : Job) : Keeps (Make.fill job (n + 1)) fun _ => True := by
  rw [Make.fill]
  split
  · exact (h.mappingEntries _).bind fun entries mapping => keeps_setObject _ mapping
  · exact (h.mappingEntries _).bind fun entries _ => keeps_setObject _ trivial
  · refine (keeps_node _).bind fun m _ => ?_
    split
    · exact h.fillOrdered _ _
    · exact keeps_throw _ _
  · refine (keeps_node _).bind fun m _ => ?_
    split
    · exact h.fillPairs _ _
    · exact keeps_throw _ _
  · refine (keeps_node _).bind fun m _ => ?_
    split
    · exact (h.values _).bind fun items sound => keeps_setObject _ sound
    · exact keeps_throw _ _

theorem Makes.values_succ (h : Makes n) (ids : List Nat) :
    Keeps (Make.values ids (n + 1)) fun ps => Part.areSound ps = true := by
  cases ids with
  | nil =>
    rw [Make.values]
    exact .pure rfl
  | cons id rest =>
    rw [Make.values]
    refine (h.value false id).bind fun first sound => (h.values rest).bind fun others sound' => .pure ?_
    rw [Part.areSound, sound, sound']
    rfl

theorem Makes.mappingEntries_succ (h : Makes n) (id : Nat) : Keeps (Make.mappingEntries id (n + 1)) IsMapping := by
  rw [Make.mappingEntries]
  refine (keeps_node id).bind fun m _ => ?_
  split
  · refine ((flattens n).flatten id).bind fun _ _ => (keeps_node id).bind fun m _ => ?_
    split
    · refine (h.addEntries false [] _ .nil).bind fun first mapping => ?_
      refine (h.addEntries false [] _ .nil).bind fun second mapping' => .pure ?_
      exact mapping.putAll mapping'.keys
    · exact h.addEntries true [] _ .nil
    · exact keeps_throw _ _
  · exact keeps_throw _ _

theorem Makes.addEntries_succ (h : Makes n) (unique : Bool) {made : List (Data × Part)} (mapping : IsMapping made)
    (entries : Entries) : Keeps (Make.addEntries unique made entries (n + 1)) IsMapping := by
  cases entries with
  | nil =>
    rw [Make.addEntries]
    exact .pure mapping
  | cons e rest =>
    rw [Make.addEntries]
    refine (h.value true e.1).bind fun p sound => (keeps_asKey sound).bind fun key sound' => ?_
    refine (h.value false e.2).bind fun part _ => (keeps_hashed sound').bind fun d file => ?_
    exact (keeps_addEntry unique mapping file part).bind fun made mapping => h.addEntries unique made rest mapping

theorem keeps_onlyEntry (id : Nat) : Keeps (onlyEntry id) fun _ => True := by
  refine (keeps_node id).bind fun m _ => ?_
  split
  · exact .pure trivial
  · exact keeps_throw _ _

theorem Makes.fillOrdered_succ (h : Makes n) (object : Nat) (items : List Nat) :
    Keeps (Make.fillOrdered object items (n + 1)) fun _ => True := by
  cases items with
  | nil =>
    rw [Make.fillOrdered]
    exact .pure trivial
  | cons item rest =>
    rw [Make.fillOrdered]
    refine (keeps_onlyEntry item).bind fun e _ => (h.value false e.1).bind fun p sound => ?_
    refine (keeps_hashed sound).bind fun key file => (keeps_object object).bind fun c inside => ?_
    split
    · next entries =>
      have written : Keeps (do
          let part ← Make.value false e.2 n
          setObject object (.ordered (Data.put key part entries))
          Make.fillOrdered object rest n) fun _ => True := by
        refine (h.value false e.2).bind fun part _ => Keeps.bind (keeps_setObject object ?_) fun _ _ => h.fillOrdered object rest
        exact inside.put file part
      dsimp only
      split
      · exact (keeps_throw _ _).bind fun _ (_ : True) => written
      · exact written
    · exact keeps_throw _ _

theorem areSound_append {ps qs : List Part} (hp : Part.areSound ps = true) (hq : Part.areSound qs = true) :
    Part.areSound (ps ++ qs) = true := by
  induction ps with
  | nil => exact hq
  | cons p ps ih =>
    rw [Part.areSound, Bool.and_eq_true] at hp
    rw [List.cons_append, Part.areSound, hp.1, ih hp.2]
    rfl

theorem Makes.fillPairs_succ (h : Makes n) (object : Nat) (items : List Nat) :
    Keeps (Make.fillPairs object items (n + 1)) fun _ => True := by
  cases items with
  | nil =>
    rw [Make.fillPairs]
    exact .pure trivial
  | cons item rest =>
    rw [Make.fillPairs]
    refine (keeps_onlyEntry item).bind fun e _ => (h.value false e.1).bind fun first sound => ?_
    refine (h.value false e.2).bind fun second sound' => (keeps_object object).bind fun c inside => ?_
    split
    · have pair : Part.areSound [.tuple [first, second]] = true := by
        simp [Part.areSound, Part.isSound, sound, sound']
      exact Keeps.bind (keeps_setObject object (areSound_append inside pair)) fun _ _ => h.fillPairs object rest
    · exact keeps_throw _ _

theorem makes (n : Nat) : Makes n := by
  induction n with
  | zero =>
    constructor <;> intros <;>
      simp only [Make.value, Make.newValue, Make.fill, Make.values, Make.mappingEntries, Make.addEntries, Make.fillOrdered,
        Make.fillPairs] <;> exact keeps_throw _ _
  | succ n ih =>
    exact ⟨ih.value_succ, ih.newValue_succ, ih.fill_succ, ih.values_succ, ih.mappingEntries_succ,
      fun unique _ entries mapping => ih.addEntries_succ unique mapping entries, ih.fillOrdered_succ, ih.fillPairs_succ⟩

theorem keeps_forM {f : Job → Make Unit} (h : ∀ job, Keeps (f job) fun _ => True) (jobs : List Job) :
    Keeps (jobs.forM f) fun _ => True := by
  induction jobs with
  | nil => exact .pure trivial
  | cons job jobs ih => exact (h job).bind fun _ _ => ih

theorem keeps_fillAll (fuel n : Nat) : Keeps (fillAll fuel n) fun _ => True := by
  induction n with
  | zero => exact .pure trivial
  | succ n ih =>
    rw [fillAll]
    refine keeps_get.bind fun s _ => ?_
    dsimp only
    split
    · refine Keeps.bind (keeps_modify_rest (fun _ => rfl) (fun _ => rfl)) fun _ _ => ?_
      exact (keeps_forM (fun job => (makes fuel).fill job) _).bind fun _ _ => ih
    · exact .pure trivial

end Make

/-! ## Documents -/

def IsMap (d : Data) (entries : List (Data × Data)) : Prop := d = .map entries ∨ d = .ordered entries

def Collection.data (inner : Part → Data) : Collection → Data
  | .list items => .list (items.map inner)
  | .map entries => .map (entries.map fun e => (e.1, inner e.2))
  | .ordered entries => .ordered (entries.map fun e => (e.1, inner e.2))
  | .set items => .set items

/-- The data of a collection is a map only if the collection is one. -/
theorem Collection.Sound.isMapping {c : Collection} (sound : c.Sound) {inner : Part → Data} {entries : List (Data × Data)}
    (map : IsMap (c.data inner) entries) : IsMapping entries := by
  cases c with
  | list items => rcases map with map | map <;> cases map
  | set items => rcases map with map | map <;> cases map
  | map es =>
    rcases map with map | map <;> cases map
    exact IsMapping.mapValues sound inner
  | ordered es =>
    rcases map with map | map <;> cases map
    exact IsMapping.mapValues sound inner

theorem Workshop.Sound.getD {s : Workshop} (sound : s.Sound) (id : Nat) : (s.objects.getD id default).Sound := by
  rw [Array.getD_eq_getD_getElem?]
  cases found : s.objects[id]? with
  | none => rfl
  | some c => exact sound.objects id c found

theorem finished_object (objects : Array Collection) (counts : Array Nat) (first n : Nat) (id : Nat) :
    finished objects counts first (n + 1) [] (.object id) =
      let d := (objects.getD id default).data (finished objects counts first n [id])
      if counts.getD id 0 ≤ 1 then d else .labelled (first + id) d := by
  rw [finished]
  cases objects.getD id default <;> rfl

theorem isMapping_of_finished {s : Workshop} (sound : s.Sound) {p : Part} (part : p.isSound = true) {counts : Array Nat}
    {first n : Nat} {entries : List (Data × Data)} (map : IsMap (finished s.objects counts first (n + 1) [] p) entries) :
    IsMapping entries := by
  cases p with
  | data d =>
    rw [finished] at map
    rcases map with rfl | rfl <;> cases part
  | tuple items =>
    rw [finished] at map
    rcases map with map | map <;> cases map
  | object id =>
    rw [finished_object] at map
    dsimp only at map
    split at map
    · exact (sound.getD id).isMapping map
    · rcases map with map | map <;> cases map

/-- A workshop in which nothing is made yet. -/
theorem sound_start (version : Version) (nodes : Array Node) (size mark : Nat) :
    ({ version, nodes, made := Array.replicate size none, mark } : Workshop).Sound := by
  constructor
  · intro i p there
    simp [Array.getElem?_replicate] at there
  · intro i c there
    simp at there

/-- What is read as a map is a mapping. -/
theorem isMapping_of_read {session session' : Session} {text : List Char} {d : Data} {entries : List (Data × Data)}
    (h : read session text = .ok (d, session')) (map : IsMap d entries) : IsMapping entries := by
  obtain ⟨document, -, h⟩ := exists_of_bind_eq_ok h
  cases root : document.root with
  | none =>
    rw [root] at h
    cases h
    rcases map with map | map <;> cases map
  | some id =>
    rw [root] at h
    dsimp only at h
    obtain ⟨⟨part, s⟩, run, h⟩ := exists_of_bind_eq_ok h
    have keeps : Make.Keeps (do
        let part ← Make.value false id (8 * (text.length + document.nodes.size) + 16)
        Make.fillAll (8 * (text.length + document.nodes.size) + 16) (document.nodes.size + 1)
        return part : Make Part) fun p => p.isSound = true :=
      ((Make.makes _).value false id).bind fun part sound => (Make.keeps_fillAll _ _).bind fun _ _ => .pure sound
    obtain ⟨sound, proper⟩ := keeps _ part s (sound_start _ _ _ _) run
    cases h
    dsimp only at map
    split at map
    · split at map
      · exact (sound.getD _).isMapping map
      · rcases map with map | map <;> cases map
    · exact isMapping_of_finished sound proper map

end Stencil.Yaml

namespace Stencil.Json

open Data (IsMapping)
open Yaml (IsMap exists_of_bind_eq_ok)

/-- The keys of an object are texts. -/
theorem isMapping_readEntries {n depth : Nat} {r r' : Rest} {known entries : List (Data × Data)} {d : Data}
    (mapping : IsMapping known) (h : readEntries n depth r known = .ok (d, r')) (map : IsMap d entries) :
    IsMapping entries := by
  induction n generalizing r known with
  | zero => cases h
  | succ n ih =>
    rw [readEntries] at h
    split at h
    · obtain ⟨⟨key, afterKey⟩, -, h⟩ := exists_of_bind_eq_ok h
      dsimp only at h
      split at h
      · obtain ⟨⟨value, afterValue⟩, -, h⟩ := exists_of_bind_eq_ok h
        have more : IsMapping (Data.put (.text key) value known) := by
          exact mapping.put rfl value
        dsimp only at h
        split at h
        · cases h
          rcases map with map | map <;> cases map
          exact more
        · exact ih more h
        · cases h
      · cases h
    · cases h

theorem not_isMap_readItems {n depth : Nat} {r r' : Rest} {items : List Data} {d : Data} {entries : List (Data × Data)}
    (h : readItems n depth r items = .ok (d, r')) : ¬ IsMap d entries := by
  induction n generalizing r items with
  | zero => cases h
  | succ n ih =>
    rw [readItems] at h
    obtain ⟨⟨value, afterValue⟩, -, h⟩ := exists_of_bind_eq_ok h
    dsimp only at h
    split at h
    · cases h
      rintro (map | map) <;> cases map
    · exact ih h
    · cases h

theorem not_isMap_readWord? {r : Rest} {ws : List (String × Data)} {found : Data × Rest} {entries : List (Data × Data)}
    (none_in : ∀ w ∈ ws, ¬ IsMap w.2 entries) (h : readWord? r ws = some found) : ¬ IsMap found.1 entries := by
  induction ws with
  | nil => cases h
  | cons w ws ih =>
    rw [readWord?] at h
    split at h
    · cases h
      exact none_in w List.mem_cons_self
    · exact ih (fun w hw => none_in w (List.mem_cons_of_mem _ hw)) h

theorem not_isMap_readNumber {r r' : Rest} {d : Data} {entries : List (Data × Data)} (h : readNumber r = .ok (d, r')) :
    ¬ IsMap d entries := by
  unfold readNumber at h
  dsimp only at h
  repeat' split at h
  all_goals cases h <;> rintro (map | map) <;> cases map

theorem isMapping_readValue {n depth : Nat} {r r' : Rest} {d : Data} {entries : List (Data × Data)}
    (h : readValue n depth r = .ok (d, r')) (map : IsMap d entries) : IsMapping entries := by
  cases n with
  | zero => cases h
  | succ n =>
    rw [readValue] at h
    split at h
    · obtain ⟨⟨s, rest⟩, -, h⟩ := exists_of_bind_eq_ok h
      cases h
      rcases map with map | map <;> cases map
    · split at h
      · cases h
      · dsimp only at h
        split at h
        · cases h
          rcases map with map | map <;> cases map
          exact .nil
        · exact isMapping_readEntries .nil h map
    · split at h
      · cases h
      · dsimp only at h
        split at h
        · cases h
          rcases map with map | map <;> cases map
        · exact absurd map (not_isMap_readItems h)
    · have words_plain : ∀ w ∈ words, ¬ IsMap w.2 entries := by
        simp [words, IsMap]
      split at h
      · next found word =>
        cases h
        exact absurd map (not_isMap_readWord? words_plain word)
      · exact absurd map (not_isMap_readNumber h)

theorem isMapping_of_read {text : List Char} {d : Data} {entries : List (Data × Data)} (h : read text = .ok d)
    (map : IsMap d entries) : IsMapping entries := by
  unfold read at h
  split at h
  · cases h
  · obtain ⟨⟨value, rest⟩, read, h⟩ := exists_of_bind_eq_ok h
    dsimp only at h
    split at h
    · cases h
      exact isMapping_readValue read map
    · cases h

end Stencil.Json

namespace Stencil.DataFile

open Data (IsMapping)
open Yaml (IsMap exists_of_bind_eq_ok)

/-- What is loaded from a data file is a mapping. -/
theorem isMapping_of_loadIn {session session' : Yaml.Session} {files : FileTree} {path : Path}
    {entries : List (Data × Data)} (h : loadIn session files path = .ok (entries, session')) : IsMapping entries := by
  unfold loadIn at h
  split at h
  · cases h
  · cases h
  · cases h
  · split at h
    · cases h
    · next format _ =>
      obtain ⟨source, -, h⟩ := exists_of_bind_eq_ok h
      obtain ⟨⟨d, next⟩, parsed, h⟩ := exists_of_bind_eq_ok h
      obtain ⟨es, holds, h⟩ := exists_of_bind_eq_ok h
      cases h
      have read (es : List (Data × Data)) (map : IsMap d es) : IsMapping es := by
        cases format with
        | json =>
          rw [parse] at parsed
          cases result : Json.read source.toList with
          | ok e =>
            rw [result] at parsed
            cases parsed
            exact Json.isMapping_of_read result map
          | error f =>
            rw [result] at parsed
            cases f <;> cases parsed
        | yaml =>
          rw [parse] at parsed
          cases result : Yaml.read session source.toList with
          | ok e =>
            rw [result] at parsed
            cases parsed
            exact Yaml.isMapping_of_read result map
          | error f =>
            rw [result] at parsed
            cases parsed
      unfold DataFile.entries at holds
      split at holds
      · cases holds
        exact .nil
      · cases holds
        exact read _ (.inl rfl)
      · cases holds
        exact read _ (.inr rfl)
      · cases holds

end Stencil.DataFile
