import Stencil.Engine.Iteration
import Stencil.Proofs.Execution.Expression

/-!
# Iterators and loops follow each other

The next value of an iterator, one case for each kind of iterator; a loop writes to the frame of the body around it,
the test of a loop to a frame of its own.
-/

set_option autoImplicit false

namespace Stencil.Engine

open Stencil.Template

namespace Agreement

variable {A : Agreement} {I I' : Interp} {α β : Type} {f : α → β}

/-- A new frame may be written. -/
theorem sim_withFrame (fr : Frame) {k : Ref → Eval α} {k' : Ref → Eval β}
    (hk : ∀ r, A.frames r → A.Sim f (k r) (k' (A.names.frame r))) :
    A.Sim f (newFrame fr >>= k) (newFrame (A.names.on fr) >>= k') := by
  refine ⟨fun w hw => ?_, fun w w' hr => ?_, fun w w' hr => ?_⟩
  · exact (hk _ (A.newest_frame (.inl hw))).1 _ ((A.push_frame fr).1 w hw)
  · have ready := hk _ (A.newest_frame (.inr ⟨w', hr⟩))
    rcases (A.push_frame fr).ends w w' hr with hout | ⟨named, related⟩
    · exact .inl (ready.1 _ hout)
    · have same : w'.frames.size = A.names.frame w.frames.size := named
      have followed := ready.ends _ _ related
      rw [← same] at followed
      exact followed
  · intro a w₁ b w₁' run run'
    have ready := hk _ (A.newest_frame (.inr ⟨w', hr⟩))
    rcases (A.push_frame fr).ends w w' hr with hout | ⟨named, related⟩
    · have stays : A.out (outcome (newFrame fr >>= k) w).2 := ready.1 _ hout
      rw [run] at stays
      exact .inl stays
    · have same : w'.frames.size = A.names.frame w.frames.size := named
      have level := ready.level _ _ related
      rw [← same] at level
      exact level a w₁ b w₁' run run'

theorem sim_setIter (r : Ref) (it : Iter) : A.Same (setIter r it) (setIter (A.names.object r) (A.names.on it)) :=
  sim_setObject r (.iter it)

theorem sim_finish (r : Ref) : A.Same (finish r) (finish (A.names.object r)) :=
  .bind (sim_setIter r (.items "iterator" [])) fun _ => .ret rfl

/-- The test of a loop may write to its own frame. -/
theorem sim_withTestEnv (env : Env) (target : Target) (test : Expr) (starts : Table Slot Value)
    {k : Env → Eval α} {k' : Env → Eval β} (hk : ∀ env, A.Writes env → A.Sim f (k env) (k' (A.names.on env))) :
    A.Sim f (testEnv env target test starts >>= k) (testEnv (A.names.on env) target test (A.names.on starts) >>= k') := by
  unfold testEnv
  simp only [bind_assoc, pure_bind]
  refine sim_withFrame ⟨env.scopes.nextDepth, some env.frame, starts, {}, none⟩ fun r hr => ?_
  exact hk { env.inner (Scopes.loopTest env.scopes target test) with frame := r } ⟨hr, nofun⟩

theorem sim_startTest (source : Value) (env : Env) (target : Target) (test : Expr) :
    A.Same (startTest source env target test)
      (startTest (A.names.on source) (A.names.on env) target test) := by
  refine sim_withTestEnv env target test {} fun inner hw => ?_
  refine .bind (sim_enter inner hw.1) fun _ => (sim_frame inner.frame).bind fun f => ?_
  exact (sim_iterate source).bind fun _ => .ret rfl

theorem sim_comingValue (hI : Aligned A I I') (l : Loop) :
    A.Same (comingValue I l) (comingValue I' (A.names.on l)) := by
  unfold comingValue
  rw [Renaming.loop_ahead]
  cases l.ahead with
  | some v => exact .ret rfl
  | none => exact hI.next l.source

theorem sim_advance (hI : Aligned A I I') (r : Ref) : A.Same (advance I r) (advance I' (A.names.object r)) := by
  refine (sim_loop? r).bind fun l => ?_
  cases l with
  | none => exact .ret rfl
  | some l =>
    refine (sim_comingValue hI l).bind fun v => ?_
    cases v with
    | none => exact .ret rfl
    | some v => exact .bind (sim_updateLoop r _ _ fun _ => rfl) fun _ => .ret rfl

theorem placeBehind_on (ρ : Renaming) (entries : List (Value × Value)) (place : Nat) (last : Option Value) :
    placeBehind (entries.map ρ.on) place (last.map ρ.on) = placeBehind entries place last := by
  cases last with
  | none => rfl
  | some key =>
    have same : (entries.map ρ.on).findIdx? (fun e => keyEqual e.1 (ρ.on key)) =
        entries.findIdx? fun e => keyEqual e.1 key := by
      rw [List.findIdx?_map]
      congr 1
      funext e
      exact keyEqual_on ρ e.1 key
    unfold placeBehind
    simp only [Option.map_some, same]

theorem sim_nextEntry (r d : Ref) (kind : ViewKind) (size left place : Nat) (last : Option Value) :
    A.Same (nextEntry r d kind size left place last)
      (nextEntry (A.names.object r) (A.names.object d) kind size left place (last.map A.names.on)) := by
  refine (sim_dictEntries d).bind fun entries => ?_
  dsimp only
  rw [Renaming.on_list_eq, List.length_map, placeBehind_on, List.getElem?_map]
  refine .branch (.failing _ _ _) ?_
  cases entries[placeBehind entries place last]? with
  | none => exact sim_finish r
  | some e =>
    refine .branch (.failing _ _ _) (.bind (sim_setIter r (.entries d kind size _ _ (some e.1))) fun _ => .ret ?_)
    rw [pick_on]
    rfl

theorem sim_sizeOfOwner (owner : Value) : A.Sim id (sizeOfOwner owner) (sizeOfOwner (A.names.on owner)) := by
  cases owner
  case set r => exact (sim_setItems r).bind fun _ => .ret (List.length_map _)
  case dict r => exact (sim_dictEntries r).bind fun _ => .ret (List.length_map _)
  all_goals exact .ret rfl

theorem sim_nextGrowing (r list : Ref) (index : Nat) :
    A.Same (nextGrowing r list index) (nextGrowing (A.names.object r) (A.names.object list) index) := by
  refine (sim_listItems list).bind fun items => ?_
  rw [Renaming.on_list_eq, List.getElem?_map]
  cases items[index]? with
  | some v => exact .bind (sim_setIter r (.growing list (index + 1))) fun _ => .ret rfl
  | none => exact sim_finish r

theorem sim_nextBackward (r list : Ref) (left : Nat) :
    A.Same (nextBackward r list left) (nextBackward (A.names.object r) (A.names.object list) left) := by
  refine (sim_listItems list).bind fun items => ?_
  cases left with
  | zero => exact sim_finish r
  | succ n =>
    dsimp only
    rw [Renaming.on_list_eq, List.getElem?_map]
    cases items[n]? with
    | some v => exact .bind (sim_setIter r (.backward list n)) fun _ => .ret rfl
    | none => exact sim_finish r

theorem sim_nextGuarded (r : Ref) (typeName : String) (owner : Value) (size : Nat) (rest : List Value) :
    A.Same (nextGuarded r typeName owner size rest)
      (nextGuarded (A.names.object r) typeName (A.names.on owner) size (rest.map A.names.on)) := by
  refine (sim_sizeOfOwner owner).bind fun _ => .branch (.failing _ _ _) ?_
  cases rest with
  | nil => exact sim_finish r
  | cons v rest => exact .bind (sim_setIter r (.guarded typeName owner size rest)) fun _ => .ret rfl

theorem sim_nextTested (hI : Aligned A I I') (r inner : Ref) (starts : Table Slot Value) (env : Env) (target : Target)
    (test : Expr) :
    A.Same (nextTested I r inner starts env target test)
      (nextTested I' (A.names.object r) (A.names.object inner) (A.names.on starts) (A.names.on env) target test) := by
  refine (hI.next inner).bind fun v => ?_
  cases v with
  | none => exact sim_finish r
  | some v =>
    refine sim_withTestEnv env target test starts fun env hw => .bind (sim_assignTo hI hw target v) fun _ => ?_
    refine (sim_evaluate hI env test).bind fun x => (sim_truth hI x).bind fun _ => .branch ?_ (hI.next r)
    exact (sim_targetValue env target).bind fun _ => .ret rfl

theorem sim_nextSifted (hI : Aligned A I I') (r source : Ref) (id : String) (env : Env) (args : List Value)
    (named : Named) (seen : List Value) :
    A.Same (nextSifted I r source id env args named seen)
      (nextSifted I' (A.names.object r) (A.names.object source) id (A.names.on env) (args.map A.names.on)
        (named.map A.names.on) (seen.map A.names.on)) := by
  refine (hI.next source).bind fun item => ?_
  cases item with
  | none => exact sim_finish r
  | some item =>
    dsimp only
    rw [← List.map_drop]
    refine .bind (sim_siftItem hI env id (args.drop 1) named seen item) fun ⟨result, seen⟩ => ?_
    refine .bind (sim_setIter r (.sifted id env args named (some source) seen)) fun _ => ?_
    cases result with
    | some v => exact .ret rfl
    | none => exact hI.next r

theorem sim_startSifted (hI : Aligned A I I') (r : Ref) (id : String) (env : Env) (args : List Value)
    (named : Named) (seen : List Value) :
    A.Same (startSifted I r id env args named seen)
      (startSifted I' (A.names.object r) id (A.names.on env) (args.map A.names.on) (named.map A.names.on)
        (seen.map A.names.on)) := by
  refine (sim_startSift hI id args named).bind fun source => ?_
  cases source with
  | none => exact sim_finish r
  | some source => exact .bind (sim_setIter r (.sifted id env args named (some source) seen)) fun _ => hI.next r

theorem sim_startLeaking (hI : Aligned A I I') (r : Ref) (m : Macro) (bound : List (String × Option Value)) :
    A.Same (startLeaking I r m bound)
      (startLeaking I' (A.names.object r) (A.names.on m) (bound.map A.names.on)) := by
  refine (hI.body m bound).bind fun out => .branch (.failing _ _ _) ?_
  have written : ∀ it it' : Iter, it' = A.names.on it →
      A.Same (do setIter r it; I.next r) (do setIter (A.names.object r) it'; I'.next (A.names.object r)) := by
    rintro it _ rfl
    exact .bind (sim_setIter r it) fun _ => hI.next r
  refine written _ _ ?_
  rw [Renaming.on_inert]
  split <;> rfl

theorem sim_nextOf (hI : Aligned A I I') (r : Ref) (it : Iter) :
    A.Same (nextOf I r it) (nextOf I' (A.names.object r) (A.names.on it)) := by
  cases it with
  | items typeName rest =>
    cases rest with
    | nil => exact .ret rfl
    | cons v rest => exact .bind (sim_setIter r (.items typeName rest)) fun _ => .ret rfl
  | growing list index => exact sim_nextGrowing r list index
  | backward list left => exact sim_nextBackward r list left
  | entries d kind size left place last => exact sim_nextEntry r d kind size left place last
  | guarded typeName owner size rest => exact sim_nextGuarded r typeName owner size rest
  | counting n stride left =>
    exact .branch (p := left = 0) (.ret rfl)
      (.bind (sim_setIter r (.counting (n + stride) stride (left - 1))) fun _ => .ret rfl)
  | turns loop =>
    refine (sim_advance hI loop).bind fun v => ?_
    cases v <;> exact .ret rfl
  | blocks => exact .fails _
  | tested source started env target test =>
    cases started with
    | none => exact (sim_startTest source env target test).bind fun it => .bind (sim_setIter r it) fun _ => hI.next r
    | some s => exact sim_nextTested hI r s.1 s.2 env target test
  | sifted id env args named source seen =>
    cases source with
    | none => exact sim_startSifted hI r id env args named seen
    | some source => exact sim_nextSifted hI r source id env args named seen
  | leaking m bound => exact sim_startLeaking hI r m bound

theorem sim_nextValue (hI : Aligned A I I') (r : Ref) :
    A.Same (nextValue I r) (nextValue I' (A.names.object r)) := by
  refine (sim_object? r).bind fun o => ?_
  rcases o with _ | o
  · exact .ret rfl
  · cases o
    case iter it => exact sim_nextOf hI r it
    all_goals exact .ret rfl

theorem sim_drainIter (hI : Aligned A I I') (r : Ref) :
    A.Same (drainIter I r) (drainIter I' (A.names.object r)) := by
  refine (sim_object? r).bind fun o => ?_
  rcases o with _ | o
  case' some =>
    cases o
    case' iter it =>
      cases it
      case items typeName rest => exact .bind (sim_setIter r (.items typeName [])) fun _ => .ret rfl
  all_goals
    refine (hI.next r).bind fun v => ?_
    cases v with
    | none => exact .ret rfl
    | some v => exact (hI.drain r).bind fun _ => .ret rfl

theorem sim_seekIter (hI : Aligned A I I') (r : Ref) (v : Value) :
    A.Same (seekIter I r v) (seekIter I' (A.names.object r) (A.names.on v)) := by
  refine (hI.next r).bind fun x => ?_
  cases x with
  | none => exact .ret rfl
  | some x => exact (sim_sameOrEqual x v).bind fun _ => .branch (.ret rfl) (hI.seek r v)

/-! ## Loops -/

theorem sim_turnValue (hI : Aligned A I I') (counted : Bool) (source : Ref) :
    A.Same (turnValue I counted source) (turnValue I' counted (A.names.object source)) :=
  .branch (sim_advance hI source) (hI.next source)

theorem sim_runTurns (hI : Aligned A I I') {env : Env} (he : A.Writes env) (counted : Bool) (source : Ref)
    (target : Target) (body : List Node) (turns : Nat) (out : Output) :
    A.Same (runTurns I env counted source target body turns out)
      (runTurns I' (A.names.on env) counted (A.names.object source) target body turns out) := by
  have rest : A.Same
      (do enter env; let written ← I.nodes env body; I.turns env counted source target body (turns + 1) (out ++ written))
      (do
        enter (A.names.on env)
        let written ← I'.nodes (A.names.on env) body
        I'.turns (A.names.on env) counted (A.names.object source) target body (turns + 1) (out ++ written)) :=
    .bind (sim_enter env he.1) fun _ => (hI.nodes env body he).bind fun _ => hI.turns env counted source target body _ _ he
  refine (sim_turnValue hI counted source).bind fun v => ?_
  cases v with
  | none => exact .ret rfl
  | some v =>
    refine .bind (sim_assignTo hI he target v) fun _ => .branch ?_ rest
    exact .bind (sim_giveName he.1 "loop" (.loop source)) fun _ => rest

theorem sim_loopItems (env : Env) (f : LoopFn) (items : Value) :
    A.Same (loopItems env f items) (loopItems (A.names.on env) (A.names.on f) (A.names.on items)) := by
  unfold loopItems
  rw [Renaming.loopFn_test]
  cases f.test with
  | none => exact .ret rfl
  | some test => exact sim_newIter (.tested items none env f.target test)

theorem sim_loopSource (counted : Bool) (fn : Option Ref) (depth : Nat) (items : Value) (iter : Ref) :
    A.Sim A.names.object (loopSource counted fn depth items iter)
      (loopSource counted (fn.map A.names.object) depth (A.names.on items) (A.names.object iter)) :=
  .branch (sim_alloc (.loop { iterable := items, source := iter, fn, depth0 := depth })) (.ret rfl)

theorem sim_runLoop (hI : Aligned A I I') (env : Env) (he : A.frames env.frame) (f : LoopFn) (counted : Bool)
    (fn : Option Ref) (depth : Nat) (items : Value) :
    A.Same (runLoop I env f counted fn depth items)
      (runLoop I' (A.names.on env) (A.names.on f) counted (fn.map A.names.object) depth (A.names.on items)) := by
  refine (sim_loopItems env f items).bind fun items => (sim_iterate items).bind fun iter => ?_
  refine (sim_loopSource counted fn depth items iter).bind fun source => ?_
  refine .bind (hI.turns (env.inner (Scopes.loopBody env.scopes counted f.target f.body)) counted source f.target
    f.body 0 {} ⟨he, nofun⟩) fun ⟨out, turns⟩ => ?_
  refine .bind (sim_leave (env.inner _) he) fun _ => .branch (p := turns = 0) ?_ (.ret rfl)
  exact .bind (sim_inScope he (Scopes.plain env.scopes f.otherwise) fun hw => hI.nodes _ f.otherwise hw)
    fun _ => .ret rfl

theorem sim_callLoop (hI : Aligned A I I') (fn : Ref) (depth : Nat) (items : Value) :
    A.Same (callLoop I fn depth items) (callLoop I' (A.names.object fn) depth (A.names.on items)) := by
  refine (sim_object? fn).bind fun o => ?_
  rcases o with _ | o
  · exact .fails _
  · cases o
    case loopFn f =>
      refine sim_withFrame ⟨f.env.scopes.nextDepth, some f.env.frame, {}, {}, none⟩ fun inner hf => ?_
      refine .bind (sim_runLoop hI { f.env with frame := inner, top := false, captures := true } hf f true
        (some fn) depth items) fun out => (sim_joined out).bind fun text => ?_
      refine .bind (sim_escapesHere hI { f.env with frame := inner, top := false, captures := true }) fun _ => ?_
      exact .branch (.ret rfl) (.ret rfl)
    all_goals exact .fails _

end Agreement

end Stencil.Engine
