import Stencil.Proofs.Library.Equality

/-!
# Printing, truth and length follow each other
-/

set_option autoImplicit false

namespace Stencil.Engine.Agreement

variable {A : Agreement} {I I' : Interp}

theorem sim_admitMissing (m : Missing) : A.Same (admitMissing m) (admitMissing m) :=
  .branch (sim_failMissing m) (.ret rfl)

theorem charTexts_on (ρ : Renaming) (s : String) : (charTexts s).map ρ.on = charTexts s := by
  simp only [charTexts, List.map_map]
  rfl

theorem byteValues_on (ρ : Renaming) (content : List UInt8) : (byteValues content).map ρ.on = byteValues content := by
  simp only [byteValues, List.map_map]
  rfl

theorem sim_length? (v : Value) : A.Same (length? v) (length? (A.names.on v)) := by
  cases v
  case list r => exact (sim_listItems r).bind fun xs => .ret (by simp)
  case dict r => exact (sim_dictEntries r).bind fun xs => .ret (by simp)
  case set r => exact (sim_setItems r).bind fun xs => .ret (by simp)
  case view kind r => exact (sim_dictEntries r).bind fun xs => .ret (by simp)
  case tuple items =>
    rw [on_tuple]
    exact .ret (by simp)
  case range a b c => exact .branch (.ret rfl) (.fails _)
  case missing m => exact (sim_admitMissing m).bind fun _ => .ret rfl
  all_goals exact .ret rfl

theorem sim_knownItems? (v : Value) : A.Same (knownItems? v) (knownItems? (A.names.on v)) := by
  cases v
  case list r => exact (sim_listItems r).bind fun xs => .ret rfl
  case dict r => exact (sim_dictEntries r).bind fun xs => .ret (congrArg some (map_fst_on A.names xs))
  case set r => exact (sim_setItems r).bind fun xs => .ret rfl
  case view kind r => exact (sim_dictEntries r).bind fun xs => .ret (congrArg some (viewItems_on A.names kind xs))
  case tuple items =>
    rw [on_tuple]
    exact .ret rfl
  case text s => exact .ret (congrArg some (charTexts_on A.names s).symm)
  case safe s => exact .ret (congrArg some (charTexts_on A.names s).symm)
  case bytes content => exact .ret (congrArg some (byteValues_on A.names content).symm)
  case range a b c => exact .branch (.failing _ _ _) (.ret (congrArg some (rangeItems_on A.names a b c).symm))
  case missing m => exact (sim_admitMissing m).bind fun _ => .ret rfl
  all_goals exact .ret rfl

theorem sim_iterate (v : Value) : A.Sim A.names.object (iterate v) (iterate (A.names.on v)) := by
  have entries : ∀ r kind, A.Sim A.names.object (iterate.iterateEntries r kind)
      (iterate.iterateEntries (A.names.object r) kind) := by
    intro r kind
    refine (sim_dictEntries r).bind fun es => ?_
    simp only [Renaming.on_list_eq, List.length_map]
    exact sim_alloc (.iter (.entries r kind es.length es.length 0 none))
  have known : ∀ v : Value, A.Sim A.names.object
      (do alloc (.iter (.items "iterator" (← liftOption .wrongType (← knownItems? v)))))
      (do alloc (.iter (.items "iterator" (← liftOption .wrongType (← knownItems? (A.names.on v)))))) :=
    fun v => (sim_knownItems? v).bind fun items => (sim_liftOption _ items).bind fun items =>
      sim_alloc (.iter (.items "iterator" items))
  cases v
  case iterator r => exact .ret rfl
  case list r => exact sim_alloc (.iter (.growing r 0))
  case dict r => exact entries r .keys
  case view kind r => exact entries r kind
  case set r =>
    refine (sim_setItems r).bind fun items => ?_
    simp only [Renaming.on_list_eq, List.length_map]
    exact sim_alloc (.iter (.guarded "set_iterator" (.set r) items.length items))
  case range a b c => exact sim_alloc (.iter (.counting a c (rangeLength a b c)))
  case loop r => exact sim_alloc (.iter (.turns r))
  case blocks r => exact sim_alloc (.iter .blocks)
  all_goals exact known _

theorem sim_itemsOf (hI : Aligned A I I') (v : Value) : A.Same (itemsOf I v) (itemsOf I' (A.names.on v)) := by
  refine (sim_knownItems? v).bind fun items => ?_
  cases items with
  | some items => exact .ret rfl
  | none => exact (sim_iterate v).bind fun r => hI.drain r

theorem sim_takeItems (hI : Aligned A I I') (r : Ref) (n : Nat) :
    A.Same (takeItems I r n) (takeItems I' (A.names.object r) n) := by
  induction n with
  | zero => exact .ret rfl
  | succ n ih =>
    refine (hI.next r).bind fun x => ?_
    cases x with
    | none => exact .ret rfl
    | some v => exact ih.bind fun vs => .ret rfl

theorem sim_drainLoop (hI : Aligned A I I') (l : Loop) : A.Same (drainLoop I l) (drainLoop I' (A.names.on l)) :=
  (hI.drain l.source).bind fun items =>
    (sim_setObject l.source (.iter (.items "list_iterator" items))).bind fun _ => .ret rfl

theorem sim_updateLoop (r : Ref) (u u' : Loop → Loop) (hu : ∀ l, u' (A.names.on l) = A.names.on (u l)) :
    A.Same (updateLoop r u) (updateLoop (A.names.object r) u') := by
  refine (sim_loop? r).bind fun l => ?_
  cases l with
  | none => exact .ret rfl
  | some l =>
    show A.Same _ (setObject (A.names.object r) (.loop (u' (A.names.on l))))
    rw [hu]
    exact sim_setObject r (.loop (u l))

theorem sim_countTurns (hI : Aligned A I I') (l : Loop) : A.Same (countTurns I l) (countTurns I' (A.names.on l)) := by
  refine (sim_length? l.iterable).bind fun n => ?_
  cases n with
  | some n => exact .ret rfl
  | none =>
    refine (sim_drainLoop hI l).bind fun items => .ret ?_
    show (items.map A.names.on).length + l.turns + (if (l.ahead.map A.names.on).isSome then 1 else 0) = _
    rw [List.length_map, Option.isSome_map]
    rfl

theorem sim_loopLength (hI : Aligned A I I') (r : Ref) :
    A.Same (loopLength I r) (loopLength I' (A.names.object r)) := by
  refine (sim_loop? r).bind fun l => ?_
  cases l with
  | none => exact .fails _
  | some l =>
    dsimp only [Renaming.on_some]
    rw [Renaming.loop_length]
    cases l.length with
    | some n => exact .ret rfl
    | none => exact (sim_countTurns hI l).bind fun n => .bind (sim_updateLoop r _ _ fun _ => rfl) fun _ => .ret rfl

theorem sim_writable (v : Value) : A.Same (writable v) (writable (A.names.on v)) := by
  refine (sim_freeze v).bind fun d => .branch (.failing _ _ _) ?_
  cases v
  case view kind r =>
    refine (sim_dictEntries r).bind fun es => ?_
    rw [Renaming.on_list_eq, viewItems_on]
    refine (Coupling.Sim.mapM sim_freeze (viewItems kind es)).bind fun ds => ?_
    rw [Renaming.map_inert]
    exact .branch (.failing _ _ _) (.ret rfl)
  all_goals exact .ret rfl

theorem sim_joined (o : Output) : A.Same o.joined o.joined := .branch (.fails _) (.ret rfl)

theorem sim_display (hI : Aligned A I I') (v : Value) : A.Same (display I v) (display I' (A.names.on v)) := by
  cases v
  case text s => exact .ret rfl
  case safe s => exact .ret rfl
  case missing m => exact (sim_admitMissing m).bind fun _ => .ret rfl
  case module r =>
    refine (sim_object? r).bind fun o => ?_
    cases o with
    | none => exact .ret rfl
    | some o =>
      cases o
      case module m => exact sim_joined m.body
      all_goals exact .ret rfl
  case loop r => exact (sim_loopLength hI r).dropped.bind fun _ => (sim_freeze (.loop r)).bind fun _ => .ret rfl
  all_goals exact (sim_writable _).bind fun _ => .ret rfl

theorem sim_escaped (hI : Aligned A I I') (v : Value) : A.Same (escaped I v) (escaped I' (A.names.on v)) := by
  cases v
  case safe s => exact .ret rfl
  case module r => exact sim_display hI (.module r)
  all_goals exact (sim_display hI _).bind fun _ => .ret rfl

theorem sim_asText (hI : Aligned A I I') (v : Value) : A.Same (asText I v) (asText I' (A.names.on v)) := by
  cases v
  case text s => exact .ret rfl
  case safe s => exact .ret rfl
  all_goals exact (sim_display hI _).bind fun _ => .ret rfl

theorem sim_truth (hI : Aligned A I I') (v : Value) : A.Same (truth I v) (truth I' (A.names.on v)) := by
  cases v
  case loop r => exact (sim_loopLength hI r).bind fun _ => .ret rfl
  case null => exact .ret rfl
  case bool => exact .ret rfl
  case int => exact .ret rfl
  case float => exact .ret rfl
  case complex => exact .ret rfl
  case range => exact .ret rfl
  all_goals
    refine (sim_length? _).bind fun n => ?_
    cases n <;> exact .ret rfl

theorem sim_size (hI : Aligned A I I') (v : Value) : A.Same (size I v) (size I' (A.names.on v)) := by
  cases v
  case loop r => exact sim_loopLength hI r
  all_goals
    refine (sim_length? _).bind fun n => ?_
    rw [Renaming.on_option_eq, Renaming.option_map_inert]
    exact sim_liftOption_inert _ n

theorem sim_escapesNow (hI : Aligned A I I') (env : Env) :
    A.Same (escapesNow I env) (escapesNow I' (A.names.on env)) :=
  (sim_escapeValue env.context).bind fun v => sim_truth hI v

end Stencil.Engine.Agreement
