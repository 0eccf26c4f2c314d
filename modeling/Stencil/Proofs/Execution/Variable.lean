import Stencil.Engine.Assignment
import Stencil.Proofs.Library.Print

/-!
# Variables follow each other

The frame of a variable is found by going outwards, to older frames, so that the search takes the same way under
other names. Only the frame of the running body is written, and the context only at the top level of a template.
-/

set_option autoImplicit false

namespace Stencil.Engine

open Stencil.Template

section Frames

variable {w : World} {depth n m r : Nat}

theorem World.frameFor_absent (h : w.frames[r]? = none) : w.frameFor depth n r = r := by
  cases n with
  | zero => rfl
  | succ n => simp only [World.frameFor, h]

/-- Each step goes to an older frame, so that there are at most as many as the number of the frame says. -/
theorem World.frameFor_enough (hn : r ≤ n) (hm : r ≤ m) : w.frameFor depth n r = w.frameFor depth m r := by
  induction r using Nat.strongRecOn generalizing n m with
  | ind r ih =>
    have none_left : ∀ k, w.frameFor depth k 0 = 0 := by
      intro k
      cases k with
      | zero => rfl
      | succ k =>
        unfold World.frameFor
        rcases w.frames[0]? with _ | f
        · rfl
        · rcases hf : f.outer with _ | outer <;> simp [hf]
    rcases r with _ | r
    · rw [none_left, none_left]
    · obtain ⟨n, rfl⟩ := Nat.exists_eq_succ_of_ne_zero (Nat.ne_of_gt (Nat.lt_of_lt_of_le r.succ_pos hn))
      obtain ⟨m, rfl⟩ := Nat.exists_eq_succ_of_ne_zero (Nat.ne_of_gt (Nat.lt_of_lt_of_le r.succ_pos hm))
      unfold World.frameFor
      rcases w.frames[r + 1]? with _ | f
      · rfl
      · dsimp only
        rcases f.outer with _ | outer
        · rfl
        · dsimp only
          by_cases h : (f.base ≤ depth || r + 1 ≤ outer) = true
          · rw [if_pos h, if_pos h]
          · rw [if_neg h, if_neg h]
            simp only [Bool.or_eq_true, decide_eq_true_eq, not_or, Nat.not_le] at h
            apply ih outer h.2 <;> omega

theorem Linked.frameFor {ρ : Renaming} {gap : Nat} {w w' : World} (h : Linked ρ gap w w') :
    w'.frameFor depth w'.frames.size (ρ.frame r) = ρ.frame (w.frameFor depth w.frames.size r) := by
  have steps : ∀ n r, w'.frameFor depth n (ρ.frame r) = ρ.frame (w.frameFor depth n r) := by
    intro n
    induction n with
    | zero => exact fun _ => rfl
    | succ n ih =>
      intro r
      unfold World.frameFor
      rw [h.frame r]
      rcases w.frames[r]? with _ | f
      · rfl
      · dsimp only [Option.map_some]
        rw [Renaming.frame_outer, Renaming.frame_base]
        rcases f.outer with _ | outer
        · rfl
        · simp only [Option.map_some, Renaming.frame_le, ih]
          split <;> rfl
  rcases hr : w.frames[r]? with _ | f
  · have hr' : w'.frames[ρ.frame r]? = none := by rw [h.frame r, hr]; rfl
    rw [World.frameFor_absent hr, World.frameFor_absent hr']
  · have hr' : w'.frames[ρ.frame r]? = some (ρ.on f) := by rw [h.frame r, hr]; rfl
    have bound : r ≤ w.frames.size := Nat.le_of_lt (Array.getElem?_eq_some_iff.mp hr).1
    have bound' : ρ.frame r ≤ w'.frames.size := Nat.le_of_lt (Array.getElem?_eq_some_iff.mp hr').1
    have enough := Nat.le_max_left w.frames.size w'.frames.size
    rw [World.frameFor_enough bound' (Nat.le_trans bound' (Nat.le_max_right w.frames.size _)), steps,
      World.frameFor_enough (Nat.le_trans bound enough) bound]

end Frames

section Pure

variable (ρ : Renaming)

theorem read_on (f : Frame) (slot : Slot) : (ρ.on f).read slot = (f.read slot).map ρ.on := by
  show ((f.values.mapValues ρ.on).find? slot).or ((f.starts.mapValues ρ.on).find? slot) = _
  rw [Table.find?_mapValues, Table.find?_mapValues, Frame.read]
  cases f.values.find? slot <;> rfl

theorem give_on (f : Frame) (slot : Slot) (v : Value) : (ρ.on f).give slot (ρ.on v) = ρ.on (f.give slot v) := by
  show ({ ρ.on f with values := (f.values.mapValues ρ.on).insert slot (ρ.on v) } : Frame) = _
  rw [← Table.mapValues_insert]
  rfl

theorem clear_on (f : Frame) (slot : Slot) : (ρ.on f).clear slot = ρ.on (f.clear slot) := by
  show ({ ρ.on f with
    starts := (f.starts.mapValues ρ.on).erase slot, values := (f.values.mapValues ρ.on).erase slot } : Frame) = _
  rw [← Table.mapValues_erase, ← Table.mapValues_erase]
  rfl

theorem start_on (f : Frame) (slot : Slot) (v : Option Value) :
    (ρ.on f).start slot (v.map ρ.on) = ρ.on (f.start slot v) := by
  cases v with
  | none => exact clear_on ρ f slot
  | some v =>
    show ({ (ρ.on f).clear slot with starts := (f.starts.mapValues ρ.on).insert slot (ρ.on v) } : Frame) = _
    rw [clear_on, ← Table.mapValues_insert]
    rfl

theorem resolve?_on (c : Context) (id : String) : (ρ.on c).resolve? id = (c.resolve? id).map ρ.on := by
  rw [Context.resolve?, Renaming.context_vars, Renaming.context_parent, Table.find?_mapValues, Table.find?_mapValues,
    Context.resolve?]
  cases c.vars.find? id <;> rfl

theorem all_on (c : Context) : (ρ.on c).all = ρ.on c.all := by
  show (if (c.vars.mapValues ρ.on).entries.isEmpty then c.parent.mapValues ρ.on
    else (c.parent.mapValues ρ.on).update (c.vars.mapValues ρ.on)) = _
  rw [Table.isEmpty_mapValues, ← Table.mapValues_update, Context.all]
  split <;> rfl

theorem export_on (c : Context) (id : String) : (ρ.on c).export id = ρ.on (c.export id) := by
  unfold Context.export
  show (if isPublic id && !c.exported.contains id then _ else _) = _
  split <;> rfl

theorem withhold_on (c : Context) (id : String) : (ρ.on c).withhold id = ρ.on (c.withhold id) := by
  unfold Context.withhold
  split <;> rfl

theorem assign_on (c : Context) (id : String) (v : Value) : (ρ.on c).assign id (ρ.on v) = ρ.on (c.assign id v) := by
  show ({ ρ.on c with vars := (c.vars.mapValues ρ.on).insert id (ρ.on v) } : Context) = _
  rw [← Table.mapValues_insert]
  rfl

end Pure

namespace Agreement

variable {A : Agreement} {I I' : Interp}

theorem sim_holder (env : Env) (slot : Slot) : A.Sim A.names.frame (holder env slot) (holder (A.names.on env) slot) :=
  .read (fun w => w.frameFor slot.depth w.frames.size env.frame) _ fun _ _ h => (A.linked h).frameFor

theorem sim_readSlot (env : Env) (slot : Slot) : A.Same (readSlot env slot) (readSlot (A.names.on env) slot) :=
  (sim_holder env slot).bind fun r => (sim_frame r).bind fun f => .ret (read_on A.names f slot)

theorem sim_contextValue? (env : Env) (id : String) :
    A.Same (contextValue? env id) (contextValue? (A.names.on env) id) :=
  (sim_context env.context).bind fun c => .ret (resolve?_on A.names c id)

theorem sim_giveName {env : Env} (he : A.frames env.frame) (id : String) (v : Value) :
    A.Same (giveName env id v) (giveName (A.names.on env) id (A.names.on v)) :=
  A.write_frame env.frame _ _ he fun f => give_on A.names f (env.own id) v

theorem sim_startName {env : Env} (he : A.frames env.frame) (id : String) (origin : Origin) :
    A.Same (startName env id origin) (startName (A.names.on env) id origin) := by
  have started : ∀ v : Option Value, A.Same (modifyFrame env.frame fun f => f.start (env.own id) v)
      (modifyFrame (A.names.frame env.frame) fun f => f.start (env.own id) (v.map A.names.on)) :=
    fun v => A.write_frame env.frame _ _ he fun f => start_on A.names f (env.own id) v
  cases origin with
  | param => exact .ret rfl
  | resolve => exact (sim_contextValue? env id).bind started
  | outer source => exact (sim_readSlot env source).bind started
  | unset => exact started none

theorem sim_enter (env : Env) (he : A.frames env.frame) : A.Same (enter env) (enter (A.names.on env)) :=
  .forM_same (fun e : String × Origin => sim_startName he e.1 e.2) _

theorem sim_leave (env : Env) (he : A.frames env.frame) : A.Same (leave env) (leave (A.names.on env)) :=
  .forM_same (fun e => A.write_frame env.frame _ _ he fun f => clear_on A.names f (env.own e.1)) _

/-- Something in a scope of its own writes where the statement around it does. -/
theorem sim_inScope {α β : Type} {f : α → β} {env : Env} (he : A.frames env.frame) (scopes : Scopes)
    {body : Env → Eval α} {body' : Env → Eval β}
    (hb : A.Writes (env.inner scopes) →
      A.Sim f (body (env.inner scopes)) (body' (A.names.on (env.inner scopes)))) :
    A.Sim f (inScope env scopes body) (inScope (A.names.on env) scopes body') :=
  .bind (sim_enter (env.inner scopes) he) fun _ => (hb ⟨he, nofun⟩).bind fun _ =>
    .bind (sim_leave (env.inner scopes) he) fun _ => .ret rfl

theorem sim_lookup? (env : Env) (id : String) : A.Same (lookup? env id) (lookup? (A.names.on env) id) := by
  unfold lookup?
  rw [Renaming.env_scopes]
  cases env.scopes.find? id with
  | some slot => exact sim_readSlot env slot
  | none => exact .raise _ rfl

theorem sim_readName (env : Env) (id : String) : A.Same (readName env id) (readName (A.names.on env) id) := by
  refine (sim_lookup? env id).bind fun v => ?_
  cases v with
  | some v => exact .ret rfl
  | none => exact sim_undefinedName id

/-- Both ways to assign a name go on with the context at the top level. -/
theorem sim_storeAs {env : Env} (he : A.Writes env) (id : String) (v : Value) (u u' : Context → Context)
    (hu : ∀ c, u' (A.names.on c) = A.names.on (u c)) :
    A.Same (do giveName env id v; if env.top then modifyContext env.context u)
      (do
        giveName (A.names.on env) id (A.names.on v)
        if (A.names.on env).top then modifyContext (A.names.on env).context u') := by
  refine .bind (sim_giveName he.1 id v) fun _ => ?_
  show A.Same (if env.top then _ else _) (if env.top then _ else _)
  split
  · next top => exact A.write_context env.context u u' (he.2 top) hu
  · exact .ret rfl

theorem sim_storeName {env : Env} (he : A.Writes env) (id : String) (v : Value) :
    A.Same (storeName env id v) (storeName (A.names.on env) id (A.names.on v)) :=
  sim_storeAs he id v _ _ fun c => by rw [assign_on, export_on]

theorem sim_storeImport {env : Env} (he : A.Writes env) (id : String) (v : Value) :
    A.Same (storeImport env id v) (storeImport (A.names.on env) id (A.names.on v)) :=
  sim_storeAs he id v _ _ fun c => by rw [assign_on, withhold_on]

theorem sim_visibleLocals (env : Env) :
    A.Same (visibleLocals env) (visibleLocals (A.names.on env)) := by
  refine .bind (f := List.map A.names.on) (.mapM_same (fun e => ?_) env.scopes.visible) fun found => .ret ?_
  · exact (sim_readSlot env e.2).bind fun v => .ret (by cases v <;> rfl)
  · rw [List.filterMap_map]
    exact (List.map_filterMap ..).symm

theorem sim_visibleNames (env : Env) : A.Same (visibleNames env) (visibleNames (A.names.on env)) := by
  refine (sim_context env.context).bind fun c => (sim_visibleLocals env).bind fun found => .ret ?_
  rw [all_on]
  exact (Table.mapValues_insertAll A.names.on c.all found).symm

/-! ## Assignment -/

theorem sim_setAttribute (env : Env) (namespaceId id : String) (v : Value) :
    A.Same (setAttribute env namespaceId id v)
      (setAttribute (A.names.on env) namespaceId id (A.names.on v)) := by
  have put : ∀ r, A.Same (do setEntries r (putKey (.text id) v (← dictEntries r)))
      (do setEntries (A.names.object r) (putKey (.text id) (A.names.on v) (← dictEntries (A.names.object r)))) := by
    intro r
    refine (sim_dictEntries r).bind fun entries => ?_
    rw [Renaming.on_list_eq, show Value.text id = A.names.on (Value.text id) from rfl, putKey_on]
    exact sim_setEntries r _
  refine (sim_lookup? env namespaceId).bind fun found => ?_
  rcases found with _ | found
  · exact .fails _
  · cases found
    case «namespace» r => exact put r
    case dict r => exact put r
    all_goals exact .fails _

mutual

theorem sim_assignTo (hI : Aligned A I I') {env : Env} (he : A.Writes env) (target : Target) (v : Value) :
    A.Same (assignTo I env target v) (assignTo I' (A.names.on env) target (A.names.on v)) := by
  cases target with
  | name id _ => exact sim_storeName he id v
  | «attribute» namespaceId id => exact sim_setAttribute env namespaceId id v
  | tuple items =>
    unfold assignTo
    refine (sim_iterate v).bind fun r => (sim_takeItems hI r _).bind fun values => ?_
    rw [Renaming.on_list_eq, List.length_map]
    exact .branch (.failing _ _ _) (sim_assignAll hI he items values)

theorem sim_assignAll (hI : Aligned A I I') {env : Env} (he : A.Writes env) (targets : List Target)
    (values : List Value) :
    A.Same (assignAll I env targets values) (assignAll I' (A.names.on env) targets (values.map A.names.on)) := by
  cases targets with
  | nil => exact .ret rfl
  | cons t ts =>
    cases values with
    | nil => exact .ret rfl
    | cons v vs => exact .bind (sim_assignTo hI he t v) fun _ => sim_assignAll hI he ts vs

end

mutual

theorem sim_targetValue (env : Env) (target : Target) :
    A.Same (targetValue env target) (targetValue (A.names.on env) target) := by
  cases target with
  | name id _ => exact sim_readName env id
  | «attribute» namespaceId _ => exact sim_readName env namespaceId
  | tuple items =>
    unfold targetValue
    refine (sim_targetValues env items).bind fun values => .ret ?_
    exact (on_tuple A.names values).symm

theorem sim_targetValues (env : Env) (targets : List Target) :
    A.Sim (List.map A.names.on) (targetValues env targets) (targetValues (A.names.on env) targets) := by
  cases targets with
  | nil => exact .ret rfl
  | cons t rest => exact (sim_targetValue env t).bind fun _ => (sim_targetValues env rest).bind fun _ => .ret rfl

end

theorem sim_checkNamespaces (env : Env) (target : Target) :
    A.Same (checkNamespaces env target) (checkNamespaces (A.names.on env) target) := by
  refine .forM_same (fun id => (sim_lookup? env id).bind fun found => ?_) _
  rcases found with _ | found
  · exact .raise _ rfl
  · cases found
    case «namespace» r => exact .ret rfl
    all_goals exact .raise _ rfl

end Agreement

end Stencil.Engine
