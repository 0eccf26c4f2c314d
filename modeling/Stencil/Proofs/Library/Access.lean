import Stencil.Proofs.Library.Print

/-!
# Members and elements follow each other
-/

set_option autoImplicit false

namespace Stencil.Engine

section Pure

variable (ρ : Renaming)

theorem methodIn_on (names : List String) (v : Value) (id : String) :
    methodIn names (ρ.on v) id = (methodIn names v id).map ρ.on := by
  unfold methodIn
  split <;> rfl

theorem intMember_on (v : Value) (n : Int) (id : String) :
    member?.intMember id (ρ.on v) n = (member?.intMember id v n).map ρ.on := by
  unfold member?.intMember
  split
  case h_5 => exact methodIn_on ρ _ v id
  all_goals rfl

theorem floatMember_on (v : Value) (id : String) :
    member?.floatMember (ρ.on v) id = (member?.floatMember v id).map ρ.on := by
  unfold member?.floatMember
  split
  case h_3 => exact methodIn_on ρ _ v id
  all_goals rfl

theorem dateMember_on (id : String) (d : Date) : member?.dateMember id d = (member?.dateMember id d).map ρ.on := by
  unfold member?.dateMember
  split <;> rfl

theorem macroMember?_on (m : Macro) (id : String) : macroMember? (ρ.on m) id = (macroMember? m id).map ρ.on := by
  unfold macroMember?
  split
  case h_1 =>
    rw [Renaming.macro_name]
    cases m.name <;> rfl
  case h_2 =>
    show some (Value.tuple (m.params.names.map .text)) = some (ρ.on (Value.tuple (m.params.names.map .text)))
    rw [on_tuple, List.map_map]
    rfl
  all_goals rfl

@[simp] theorem soughtOf_on (v : Value) : soughtOf (ρ.on v) = soughtOf v := by
  cases v <;> rfl

@[simp] theorem asIndex?_on (v : Value) : asIndex? (ρ.on v) = asIndex? v := by
  cases v <;> rfl

theorem likeText_on (v : Value) (s : String) : likeText (ρ.on v) s = ρ.on (likeText v s) := by
  cases v <;> rfl

theorem pickPlaces_map {α β : Type} (f : α → β) (items : List α) (places : List Nat) :
    pickPlaces (items.map f) places = (pickPlaces items places).map f := by
  simp only [pickPlaces, List.map_filterMap]
  congr 1
  funext i
  simp

end Pure

namespace Agreement

variable {A : Agreement} {I I' : Interp}

theorem sim_typeText (v : Value) : A.Same (typeText v) (typeText (A.names.on v)) := by
  cases v
  case dict r => exact (sim_insists r).bind fun _ => .ret rfl
  case null => exact .ret rfl
  case safe => exact .ret rfl
  case date => exact .ret rfl
  case moment => exact .ret rfl
  case «namespace» => exact .ret rfl
  case loop => exact .ret rfl
  case macroFn => exact .ret rfl
  case module => exact .ret rfl
  case blocks => exact .ret rfl
  case blockRef => exact .ret rfl
  all_goals exact (sim_freeze _).bind fun _ => .ret rfl

theorem sim_missingMember (owner key : Value) :
    A.Same (missingMember owner key) (missingMember (A.names.on owner) (A.names.on key)) := by
  refine (sim_typeText owner).bind fun type => (sim_freeze key).bind fun shown => ?_
  rw [soughtOf_on]
  cases key <;> exact sim_newMissing _ _

theorem sim_peekLoop (hI : Aligned A I I') (r : Ref) : A.Same (peekLoop I r) (peekLoop I' (A.names.object r)) := by
  refine (sim_loop? r).bind fun l => ?_
  cases l with
  | none => exact .ret rfl
  | some l =>
    dsimp only [Renaming.on_some]
    rw [Renaming.loop_ahead]
    cases l.ahead with
    | some v => exact .ret rfl
    | none => exact (hI.next l.source).bind fun v => .bind (sim_updateLoop r _ _ fun _ => rfl) fun _ => .ret rfl

theorem sim_loopMember? (hI : Aligned A I I') (r : Ref) (l : Loop) (id : String) :
    A.Same (loopMember? I r l id) (loopMember? I' (A.names.object r) (A.names.on l) id) := by
  have noPrevious : A.Same loopMember?.noPrevious loopMember?.noPrevious :=
    (sim_newMissing _ _).bind fun _ => .ret rfl
  unfold loopMember?
  split
  case h_3 => exact (sim_loopLength hI r).bind fun _ => .ret rfl
  case h_4 => exact (sim_loopLength hI r).bind fun _ => .ret rfl
  case h_6 => exact (sim_peekLoop hI r).bind fun v => .ret (by cases v <;> rfl)
  case h_7 => exact (sim_loopLength hI r).bind fun _ => .ret rfl
  case h_10 =>
    rw [Renaming.loop_before]
    cases l.before with
    | some v => exact .branch noPrevious (.ret rfl)
    | none => exact noPrevious
  case h_11 =>
    refine (sim_peekLoop hI r).bind fun v => ?_
    cases v with
    | some v => exact .ret rfl
    | none => exact (sim_newMissing _ _).bind fun _ => .ret rfl
  all_goals exact .ret rfl

theorem sim_parentBlock (id : String) (context : Ref) (stack : List BlockFn) (height : Nat) :
    A.Same (parentBlock id context stack height) (parentBlock id (A.names.context context) stack height) :=
  .branch (.ret rfl) (sim_newMissing _ _)

theorem sim_member? (hI : Aligned A I I') (v : Value) (id : String) :
    A.Same (member? I v id) (member? I' (A.names.on v) id) := by
  cases v
  case missing m => exact sim_failMissing m
  case dict => exact .ret (methodIn_on A.names _ _ id)
  case list => exact .ret (methodIn_on A.names _ _ id)
  case tuple => exact .ret (methodIn_on A.names _ _ id)
  case text => exact .ret (methodIn_on A.names _ _ id)
  case safe => exact .ret (methodIn_on A.names _ _ id)
  case bytes => exact .ret (methodIn_on A.names _ _ id)
  case set => exact .ret (methodIn_on A.names _ _ id)
  case bool => exact .ret (intMember_on A.names _ _ id)
  case int => exact .ret (intMember_on A.names _ _ id)
  case float => exact .ret (floatMember_on A.names _ id)
  case nan => exact .ret (floatMember_on A.names _ id)
  case complex z =>
    refine .ret ?_
    split
    case h_3 => exact methodIn_on A.names _ _ id
    all_goals rfl
  case range a b c =>
    refine .ret ?_
    split
    case h_4 => exact methodIn_on A.names _ _ id
    all_goals rfl
  case date d => exact .ret (dateMember_on A.names id d)
  case moment m =>
    refine .ret ?_
    split
    case h_5 => exact dateMember_on A.names id m.date
    all_goals rfl
  case «namespace» r => exact (sim_dictEntries r).bind fun es => .ret (findKey?_on A.names (.text id) es)
  case loop r =>
    refine (sim_loop? r).bind fun l => ?_
    cases l with
    | some l => exact sim_loopMember? hI r l id
    | none => exact .ret rfl
  case macroFn r =>
    refine (sim_object? r).bind fun o => ?_
    rcases o with _ | o
    · exact .ret rfl
    · cases o
      case macroFn m => exact .ret (macroMember?_on A.names m id)
      all_goals exact .ret rfl
  case module r =>
    refine (sim_object? r).bind fun o => ?_
    rcases o with _ | o
    · exact .ret rfl
    · cases o
      case module m => exact .ret (Table.find?_mapValues _ m.exports id)
      all_goals exact .ret rfl
  case blockRef name context stack height =>
    exact .branch ((sim_parentBlock name context stack height).bind fun _ => .ret rfl) (.branch (.ret rfl) (.ret rfl))
  all_goals exact .ret rfl

theorem sim_sliceBound (v : Value) : A.Same (sliceBound v) (sliceBound (A.names.on v)) := by
  cases v
  case null => exact .ret rfl
  all_goals exact (sim_liftOption_inert _ _).bind fun _ => .ret rfl

/-- The bounds of a slice are numbers. -/
theorem sim_cutFor (length : Nat) (start stop stride : Value) :
    A.Sim id (cutFor length start stop stride)
      (cutFor length (A.names.on start) (A.names.on stop) (A.names.on stride)) := by
  refine (sim_sliceBound stride).bind fun k => ?_
  simp only [Renaming.on_option_eq, Renaming.option_map_inert]
  refine .branch (.failing _ _ _) ((sim_sliceBound start).bind fun a => (sim_sliceBound stop).bind fun b => ?_)
  simp only [Renaming.on_option_eq, Renaming.option_map_inert]
  exact .ret rfl

theorem sim_slicedItems {α β : Type} (f : α → β) (items : List α) (start stop stride : Value) :
    A.Sim (List.map f) (slicedItems items start stop stride)
      (slicedItems (items.map f) (A.names.on start) (A.names.on stop) (A.names.on stride)) := by
  unfold slicedItems
  rw [List.length_map]
  exact (sim_cutFor _ start stop stride).bind fun c => .ret (pickPlaces_map f items c.places)

theorem sim_slicedItems_id {α : Type} (items : List α) (start stop stride : Value) :
    A.Sim id (slicedItems items start stop stride)
      (slicedItems items (A.names.on start) (A.names.on stop) (A.names.on stride)) :=
  (sim_cutFor _ start stop stride).bind fun _ => .ret rfl

theorem sim_sliceOf (v start stop stride : Value) :
    A.Same (sliceOf v start stop stride)
      (sliceOf (A.names.on v) (A.names.on start) (A.names.on stop) (A.names.on stride)) := by
  cases v
  case missing m => exact sim_failMissing m
  case list r =>
    exact (sim_listItems r).bind fun items => (sim_slicedItems _ items start stop stride).bind fun items =>
      sim_newList items
  case tuple items =>
    rw [on_tuple]
    exact (sim_slicedItems _ items start stop stride).bind fun items => .ret (on_tuple A.names items).symm
  case text s => exact (sim_slicedItems_id s.toList start stop stride).bind fun _ => .ret rfl
  case safe s => exact (sim_slicedItems_id s.toList start stop stride).bind fun _ => .ret rfl
  case bytes content => exact (sim_slicedItems_id content start stop stride).bind fun _ => .ret rfl
  case range a b c => exact (sim_cutFor _ start stop stride).bind fun _ => .ret rfl
  all_goals exact .fails _

theorem sim_keyed? {key : Value} {find find' : Eval (Option Value)} (hf : A.Same find find') :
    A.Same (keyed? key find) (keyed? (A.names.on key) find') := by
  unfold keyed?
  rw [keyFault?_on]
  cases bad : keyFault? key with
  | none => exact hf
  | some x => exact .branch (.ret rfl) (.raise x (isPlain_of_keyFault? key bad))

@[simp] theorem spot_on (ρ : Renaming) (key : Value) (length : Nat) : spot (ρ.on key) length = spot key length := by
  simp [spot]

theorem bind_getElem?_on (ρ : Renaming) (place : Option Nat) (items : List Value) :
    place.bind ((items.map ρ.on)[·]?) = (place.bind (items[·]?)).map ρ.on := by
  cases place <;> simp

/-- Values made from what holds no references. -/
theorem map_map_on_self {α : Type} {ρ : Renaming} {make : α → Value} (x : Option α)
    (h : ∀ a, ρ.on (make a) = make a) : x.map make = (x.map make).map ρ.on := by
  cases x with
  | none => rfl
  | some a => exact congrArg some (h a).symm

theorem sim_held? (v key : Value) : A.Same (held? v key) (held? (A.names.on v) (A.names.on key)) := by
  cases v
  case dict r => exact sim_keyed? ((sim_dictEntries r).bind fun es => .ret (findKey?_on A.names key es))
  case list r =>
    refine (sim_listItems r).bind fun items => .ret ?_
    rw [spot_on, Renaming.on_list_eq, List.length_map, bind_getElem?_on]
    rfl
  case tuple items =>
    rw [on_tuple]
    refine .ret ?_
    rw [spot_on, List.length_map, bind_getElem?_on]
    rfl
  case text s =>
    refine .ret ?_
    rw [spot_on]
    cases spot key s.length with
    | none => rfl
    | some i => exact map_map_on_self _ fun _ => rfl
  case safe s =>
    refine .ret ?_
    rw [spot_on]
    cases spot key s.length with
    | none => rfl
    | some i => exact map_map_on_self _ fun _ => rfl
  case bytes content =>
    refine .ret ?_
    rw [spot_on]
    cases spot key content.length with
    | none => rfl
    | some i => exact map_map_on_self _ fun _ => rfl
  case range a b c =>
    refine .ret ?_
    rw [spot_on]
    cases spot key (rangeLength a b c) <;> rfl
  case blocks r =>
    refine sim_keyed? ?_
    rw [textOf?_on]
    cases textOf? key with
    | none => exact .ret rfl
    | some id =>
      refine (sim_context r).bind fun c => .ret ?_
      show (c.blocks.find? id).map _ = ((c.blocks.find? id).map _).map _
      cases c.blocks.find? id <;> rfl
  all_goals exact .ret rfl

theorem sim_element? (v key : Value) : A.Same (element? v key) (element? (A.names.on v) (A.names.on key)) := by
  unfold element?
  rw [missingOf?_on]
  cases missingOf? v with
  | some m => exact sim_failMissing m
  | none =>
    cases key
    case slice start stop stride =>
      exact sim_recover ((sim_sliceOf v start stop stride).bind fun _ => .ret rfl) (.ret rfl) rfl rfl
    all_goals exact sim_held? v _

theorem sim_getMember (hI : Aligned A I I') (v : Value) (id : String) :
    A.Same (getMember I v id) (getMember I' (A.names.on v) id) := by
  refine (sim_member? hI v id).bind fun found => ?_
  cases found with
  | some found => exact .ret rfl
  | none =>
    refine (sim_element? v (.text id)).bind fun found => ?_
    cases found with
    | some found => exact .ret rfl
    | none => exact sim_missingMember v (.text id)

theorem sim_memberAt? (hI : Aligned A I I') (v key : Value) :
    A.Same (memberAt? I v key) (memberAt? I' (A.names.on v) (A.names.on key)) := by
  unfold memberAt?
  rw [textOf?_on]
  cases textOf? key with
  | some id => exact sim_member? hI v id
  | none => exact .ret rfl

theorem sim_getElement (hI : Aligned A I I') (v key : Value) :
    A.Same (getElement I v key) (getElement I' (A.names.on v) (A.names.on key)) := by
  refine (sim_element? v key).bind fun found => ?_
  cases found with
  | some found => exact .ret rfl
  | none =>
    refine (sim_memberAt? hI v key).bind fun found => ?_
    cases found with
    | some found => exact .ret rfl
    | none => exact sim_missingMember v key

end Agreement

end Stencil.Engine
