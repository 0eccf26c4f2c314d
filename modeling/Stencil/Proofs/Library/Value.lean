import Stencil.Engine.Access
import Stencil.Proofs.Agreement

/-!
# Values under other names

What can be told of a value without the world does not depend on the names of cells.
-/

set_option autoImplicit false

namespace Stencil.Engine

variable (ρ : Renaming)

theorem map_fst_on {α β : Type} [Renames α] [Renames β] (es : List (α × β)) :
    (es.map ρ.on).map Prod.fst = (es.map Prod.fst).map ρ.on := by
  simp

theorem map_snd_on {α β : Type} [Renames α] [Renames β] (es : List (α × β)) :
    (es.map ρ.on).map Prod.snd = (es.map Prod.snd).map ρ.on := by
  simp

@[simp] theorem identical_on (a b : Value) : identical (ρ.on a) (ρ.on b) = identical a b := by
  cases a <;> first | rfl | (cases b <;> first | rfl | exact ρ.object_beq _ _ | exact ρ.context_beq _ _)

@[simp] theorem numOf?_on (v : Value) : numOf? (ρ.on v) = numOf? v := by
  cases v <;> rfl

@[simp] theorem textOf?_on (v : Value) : textOf? (ρ.on v) = textOf? v := by
  cases v <;> rfl

theorem on_tuple (items : List Value) : ρ.on (Value.tuple items) = .tuple (items.map ρ.on) :=
  congrArg Value.tuple (renamedAll_eq_map ρ items)

theorem plainEqual_renamed (a b : Value) : plainEqual a b = plainEqual (ρ.on a) (ρ.on b) := by
  simp [plainEqual]

mutual

theorem keyEqual_renamed (a b : Value) : keyEqual a b = keyEqual (ρ.on a) (ρ.on b) := by
  cases a
  case tuple xs =>
    cases b
    case tuple ys => exact keysEqual_renamed xs ys
    all_goals exact plainEqual_renamed ρ _ _
  case method a i =>
    cases b
    case method b j => exact congrArg (i == j && ·) (keyEqual_renamed a b)
    all_goals exact plainEqual_renamed ρ _ _
  -- of the others some are compared with their own kind only, by what no renaming changes
  all_goals first
    | exact plainEqual_renamed ρ _ _
    | (cases b <;> first | exact plainEqual_renamed ρ _ _ | rfl)

theorem keysEqual_renamed (xs ys : List Value) :
    keysEqual xs ys = keysEqual (renamedAll ρ xs) (renamedAll ρ ys) := by
  rcases xs with _ | ⟨x, xs⟩ <;> rcases ys with _ | ⟨y, ys⟩
  · rfl
  · rfl
  · rfl
  · show (keyEqual x y && keysEqual xs ys) = _
    rw [keyEqual_renamed x y, keysEqual_renamed xs ys]
    rfl

end

@[simp] theorem keyEqual_on (a b : Value) : keyEqual (ρ.on a) (ρ.on b) = keyEqual a b := (keyEqual_renamed ρ a b).symm

@[simp] theorem findKey?_on (key : Value) (entries : List (Value × Value)) :
    findKey? (ρ.on key) (entries.map ρ.on) = (findKey? key entries).map ρ.on := by
  induction entries with
  | nil => rfl
  | cons e rest ih =>
    obtain ⟨k, v⟩ := e
    by_cases h : keyEqual k key <;> simp [findKey?, h, ih]

@[simp] theorem putKey_on (key value : Value) (entries : List (Value × Value)) :
    putKey (ρ.on key) (ρ.on value) (entries.map ρ.on) = (putKey key value entries).map ρ.on := by
  induction entries with
  | nil => rfl
  | cons e rest ih =>
    obtain ⟨k, v⟩ := e
    by_cases h : keyEqual k key <;> simp [putKey, h, ih]

mutual

theorem keyFault?_renamed (v : Value) : keyFault? v = keyFault? (ρ.on v) := by
  cases v
  case tuple items => exact keysFault?_renamed items
  case view kind _ => cases kind <;> rfl
  all_goals rfl

theorem keysFault?_renamed (vs : List Value) : keysFault? vs = keysFault? (renamedAll ρ vs) := by
  rcases vs with _ | ⟨v, vs⟩
  · rfl
  · show (keyFault? v).or (keysFault? vs) = _
    rw [keyFault?_renamed v, keysFault?_renamed vs]
    rfl

end

@[simp] theorem keyFault?_on (v : Value) : keyFault? (ρ.on v) = keyFault? v := (keyFault?_renamed ρ v).symm

mutual

theorem isPlain_of_keyFault? {x : Fault} (v : Value) (h : keyFault? v = some x) : x.isPlain = true := by
  cases v
  case tuple items => exact isPlain_of_keysFault? items h
  case view kind _ => cases kind <;> cases h <;> rfl
  case missing m =>
    simp only [keyFault?] at h
    split at h <;> cases h
    rfl
  all_goals first | (cases h; rfl) | cases h

theorem isPlain_of_keysFault? {x : Fault} (vs : List Value) (h : keysFault? vs = some x) : x.isPlain = true := by
  rcases vs with _ | ⟨v, vs⟩
  · cases h
  · rcases Option.or_eq_some_iff.mp h with first | ⟨_, later⟩
    · exact isPlain_of_keyFault? v first
    · exact isPlain_of_keysFault? vs later

end

@[simp] theorem pick_on (kind : ViewKind) (e : Value × Value) : kind.pick (ρ.on e) = ρ.on (kind.pick e) := by
  cases kind <;> rfl

@[simp] theorem viewItems_on (kind : ViewKind) (entries : List (Value × Value)) :
    viewItems kind (entries.map ρ.on) = (viewItems kind entries).map ρ.on := by
  simp [viewItems]

@[simp] theorem methodType_on (owner : Value) (id : String) : methodType (ρ.on owner) id = methodType owner id := by
  cases owner <;> rfl

theorem rangeItems_on (start stop stride : Int) :
    (rangeItems start stop stride).map ρ.on = rangeItems start stop stride := by
  simp [rangeItems, rangeItem, Renaming.on, Renames.renamed, Value.renamed]

theorem contains_object (active : List Ref) (r : Ref) :
    (active.map ρ.object).contains (ρ.object r) = active.contains r := by
  induction active with
  | nil => rfl
  | cons q active ih => simp only [List.map_cons, List.contains_cons, Renaming.object_beq, ih]

@[simp] theorem typeName_on (it : Iter) : (ρ.on it).typeName = it.typeName := by
  cases it
  case entries dict kind size left place last => cases kind <;> rfl
  all_goals rfl

section Freeze

variable {ρ : Renaming} {gap : Nat} {w w' : World}

theorem Linked.lengthOf? (h : Linked ρ gap w w') (v : Value) : w'.lengthOf? (ρ.on v) = w.lengthOf? v := by
  cases v
  case list r => simp [World.lengthOf?, Renaming.on, Renames.renamed, Value.renamed, h.listItems]
  case dict r => simp [World.lengthOf?, Renaming.on, Renames.renamed, Value.renamed, h.dictEntries]
  case set r => simp [World.lengthOf?, Renaming.on, Renames.renamed, Value.renamed, h.setItems]
  case view kind r => simp [World.lengthOf?, Renaming.on, Renames.renamed, Value.renamed, h.dictEntries]
  case tuple items => simp [on_tuple, World.lengthOf?]
  all_goals rfl

theorem Linked.loopLength (h : Linked ρ gap w w') (l : Loop) : w'.loopLength (ρ.on l) = w.loopLength l := by
  show l.length.getD ((w'.lengthOf? (ρ.on l.iterable)).getD l.turns) = _
  rw [h.lengthOf?, World.loopLength]

theorem Linked.loopHandle (h : Linked ρ gap w w') (r : Ref) : w'.loopHandle (ρ.object r) = w.loopHandle r := by
  rw [World.loopHandle, World.loopHandle, h.object r]
  rcases w.objects[r]? with _ | o
  · rfl
  · cases o
    case loop l =>
      show Data.handle ⟨.loop l.turns (l.depth0 + 1), "<LoopContext " ++ toString l.turns ++ "/" ++
        toString (w'.loopLength (ρ.on l)) ++ ">"⟩ = _
      rw [h.loopLength]
    all_goals rfl

theorem Linked.macroHandle (h : Linked ρ gap w w') (r : Ref) : w'.macroHandle (ρ.object r) = w.macroHandle r :=
  h.read r id rfl fun o => by cases o <;> rfl

theorem Linked.moduleHandle (h : Linked ρ gap w w') (r : Ref) : w'.moduleHandle (ρ.object r) = w.moduleHandle r :=
  h.read r id rfl fun o => by cases o <;> rfl

theorem Linked.blocksHandle (h : Linked ρ gap w w') (r : Ref) :
    w'.blocksHandle (ρ.context r) = w.blocksHandle r := by
  rw [World.blocksHandle, World.blocksHandle, h.context r]
  rcases w.contexts[r]? with _ | c <;> rfl

theorem Linked.iterHandle (h : Linked ρ gap w w') (r : Ref) : w'.iterHandle (ρ.object r) = w.iterHandle r := by
  rw [World.iterHandle, World.iterHandle, h.object r]
  rcases w.objects[r]? with _ | o
  · rfl
  · cases o
    case iter it =>
      show otherHandle (ρ.on it).typeName ("<" ++ (ρ.on it).typeName ++ " object>") = _
      rw [typeName_on]
    all_goals rfl

theorem Linked.freezeIn (h : Linked ρ gap w w') (n : Nat) (active : List Ref) (v : Value) :
    w'.freezeIn n (active.map ρ.object) (ρ.on v) = w.freezeIn n active v := by
  induction n generalizing active v with
  | zero => rfl
  | succ n ih =>
    have items : ∀ (active : List Ref) (vs : List Value),
        (vs.map ρ.on).map (w'.freezeIn n (active.map ρ.object)) = vs.map (w.freezeIn n active) := by
      intro active vs
      rw [List.map_map]
      exact List.map_congr_left fun v _ => ih active v
    have entries : ∀ r, (w'.dictEntries (ρ.object r)).map (fun e =>
          (w'.freezeIn n (ρ.object r :: active.map ρ.object) e.1, w'.freezeIn n (ρ.object r :: active.map ρ.object) e.2)) =
        (w.dictEntries r).map fun e => (w.freezeIn n (r :: active) e.1, w.freezeIn n (r :: active) e.2) := by
      intro r
      rw [h.dictEntries, List.map_map]
      exact List.map_congr_left fun e _ => Prod.ext (ih (r :: active) e.1) (ih (r :: active) e.2)
    cases v
    case tuple xs =>
      rw [on_tuple]
      exact congrArg Data.tuple (items active xs)
    case list r =>
      show (if (active.map ρ.object).contains (ρ.object r) then Data.again 0 false
        else .list ((w'.listItems (ρ.object r)).map (w'.freezeIn n ((r :: active).map ρ.object)))) = _
      rw [contains_object, h.listItems, items]
      rfl
    case dict r =>
      show (if (active.map ρ.object).contains (ρ.object r) then Data.again 0 true
        else if w'.insists (ρ.object r) then Data.ordered _ else Data.map _) = _
      dsimp only
      rw [contains_object, h.insists, entries]
      rfl
    case set r =>
      show Data.set ((w'.setItems (ρ.object r)).map (w'.freezeIn n (active.map ρ.object))) = _
      rw [h.setItems, items]
      rfl
    case view kind r =>
      show otherHandle (kind.typeName (w'.insists (ρ.object r))) (kind.typeName (w'.insists (ρ.object r)) ++ "(" ++
        (Data.list ((viewItems kind (w'.dictEntries (ρ.object r))).map
          (w'.freezeIn n (active.map ρ.object)))).spelled ++ ")") = _
      rw [h.insists, h.dictEntries, viewItems_on, items]
      rfl
    case «namespace» r =>
      show Data.handle ⟨.namespace, "<Namespace " ++ (if (active.map ρ.object).contains (ρ.object r) then
        "\x7b...\x7d" else (Data.map _).spelled) ++ ">"⟩ = _
      dsimp only
      rw [contains_object, entries]
      rfl
    case loop r => exact h.loopHandle r
    case iterator r => exact h.iterHandle r
    case macroFn r => exact h.macroHandle r
    case module r => exact h.moduleHandle r
    case blocks r => exact h.blocksHandle r
    case method owner id =>
      show otherHandle (methodType (ρ.on owner) id) _ = _
      rw [methodType_on]
      rfl
    all_goals rfl

theorem Linked.freeze (h : Linked ρ gap w w') (v : Value) : w'.freeze (ρ.on v) = w.freeze v := h.freezeIn depthLimit [] v

end Freeze

end Stencil.Engine
