import Stencil.Engine.Call
import Stencil.Proofs.Execution.Iteration

/-!
# Calls follow each other

A macro runs in a frame of its own, inside the frames of the place where it was defined.
-/

set_option autoImplicit false

namespace Stencil.Engine

open Stencil.Template

section Pure

variable (ρ : Renaming)

theorem filter_name_on (named : Named) (p : String → Bool) :
    (named.map ρ.on).filter (fun e => p e.1) = (named.filter fun e => p e.1).map ρ.on := by
  rw [List.filter_map]
  rfl

theorem takeNamed_on (named : Named) (ids : List String) :
    takeNamed (named.map ρ.on) ids = (ρ.on (takeNamed named ids).1, ρ.on (takeNamed named ids).2) := by
  induction ids generalizing named with
  | nil => rfl
  | cons id rest ih =>
    unfold takeNamed
    rw [filter_name_on ρ named (· != id), ih, lookup_on]
    rfl

theorem any_bound_on (bound : Bound) (id : String) : (ρ.on bound).any (·.1 == id) = bound.any (·.1 == id) := by
  rw [Renaming.on_list_eq, List.any_map]
  rfl

theorem wantsCaller_on (m : Macro) (args : List Value) (byName : Bound) :
    wantsCaller (ρ.on m) (args.map ρ.on) (ρ.on byName) = wantsCaller m args byName := by
  unfold wantsCaller
  rw [List.length_map, any_bound_on]
  rfl

end Pure

namespace Agreement

variable {A : Agreement} {I I' : Interp}

theorem sim_newMacro (env : Env) (name : Option String) (params : Params) (body : List Node) :
    A.Same (newMacro env name params body) (newMacro (A.names.on env) name params body) :=
  (sim_escapeValue env.context).bind fun _ => .ret rfl

theorem sim_callerValue (named : Named) : A.Same (callerValue named) (callerValue (named.map A.names.on)) := by
  unfold callerValue
  rw [lookup_on]
  rcases named.lookup "caller" with _ | v
  · exact sim_newMissing _ _
  · cases v
    case null => exact sim_newMissing _ _
    all_goals exact .ret rfl

theorem sim_bindCaller (wanted : Bool) (named : Named) :
    A.Same (bindCaller wanted named) (bindCaller wanted (named.map A.names.on)) :=
  .branch ((sim_callerValue named).bind fun _ => .ret rfl) (.ret rfl)

theorem sim_bindKwargs (wanted : Bool) (named : Named) :
    A.Same (bindKwargs wanted named) (bindKwargs wanted (named.map A.names.on)) := by
  unfold bindKwargs
  rw [namedEntries_on, List.isEmpty_map]
  exact .branch ((sim_newDict _).bind fun _ => .ret rfl) (.branch (.ret rfl) (.fails _))

theorem sim_bindVarargs (wanted : Bool) (names : List String) (args : List Value) :
    A.Same (bindVarargs wanted names args) (bindVarargs wanted names (args.map A.names.on)) := by
  unfold bindVarargs
  rw [← List.map_drop, List.length_map]
  refine .branch (.ret ?_) (.branch (.ret rfl) (.fails _))
  rw [← on_tuple]
  rfl

theorem sim_bindArguments (m : Macro) (args : List Value) (named : Named) :
    A.Same (bindArguments m args named)
      (bindArguments (A.names.on m) (args.map A.names.on) (named.map A.names.on)) := by
  have params : (A.names.on m).params = m.params := rfl
  have body : (A.names.on m).body = m.body := rfl
  unfold bindArguments
  simp only [params, body, List.length_map, takeNamed_on, wantsCaller_on]
  simp only [Renaming.on_list_eq]
  refine .branch (.failing _ _ _) ?_
  refine (sim_bindCaller _ _).bind fun caller => ?_
  rw [filter_name_on A.names _ fun id => !wantsCaller m args _ || id != "caller"]
  refine (sim_bindKwargs _ _).bind fun kwargs => (sim_bindVarargs _ _ args).bind fun varargs => .ret ?_
  have byPlace : (m.params.names.zip (args.map A.names.on)).map (fun e => (e.1, some e.2)) =
      ((m.params.names.zip args).map fun e => (e.1, some e.2)).map A.names.on := by
    rw [List.zip_map_right, List.map_map, List.map_map]
    rfl
  simp only [Renaming.on_list_eq, List.map_append, byPlace]

theorem sim_fillDefaults (hI : Aligned A I I') (env : Env) (he : A.frames env.frame) (params : Params) (index : Nat)
    (ids : List String) :
    A.Same (fillDefaults I env params index ids) (fillDefaults I' (A.names.on env) params index ids) := by
  induction ids generalizing index with
  | nil => exact .ret rfl
  | cons id rest ih =>
    refine (sim_lookup? env id).bind fun v => ?_
    rw [Renaming.on_option_eq, Option.isNone_map]
    refine .branch ?_ (ih _)
    cases params.default? index with
    | some e => exact (sim_evaluate hI env e).bind fun v => .bind (sim_giveName he id v) fun _ => ih _
    | none => exact (sim_newMissing _ _).bind fun v => .bind (sim_giveName he id v) fun _ => ih _

theorem sim_runMacroBody (hI : Aligned A I I') (m : Macro) (bound : Bound) :
    A.Same (runMacroBody I m bound) (runMacroBody I' (A.names.on m) (bound.map A.names.on)) := by
  refine sim_withFrame ⟨m.env.scopes.nextDepth, some m.env.frame, {}, {}, none⟩ fun inner hf => ?_
  let env : Env := { m.env.inner (Scopes.functionBody m.env.scopes m.params m.body) with
    frame := inner, dropping := none, captures := true }
  refine .bind (.forM (fun e => ?_) bound) fun _ => .bind (sim_enter env hf) fun _ =>
    .bind (sim_fillDefaults hI env hf m.params 0 _) fun _ => hI.nodes env m.body ⟨hf, nofun⟩
  rcases e with ⟨id, _ | v⟩
  · exact .ret rfl
  · exact sim_giveName hf id v

theorem sim_macroResult (hI : Aligned A I I') (m : Macro) (bound : Bound) :
    A.Same (macroResult I m bound) (macroResult I' (A.names.on m) (bound.map A.names.on)) :=
  .branch (p := m.leaks = true) (sim_newIter (.leaking m bound))
    (sim_deeper 4 ((hI.body m bound).bind fun out => (sim_joined out).bind fun _ => .ret rfl))

theorem sim_callMacro (hI : Aligned A I I') (m : Macro) (escape : Value) (args : List Value) (named : Named) :
    A.Same (callMacro I m escape args named)
      (callMacro I' (A.names.on m) (A.names.on escape) (args.map A.names.on) (named.map A.names.on)) := by
  refine (sim_bindArguments m args named).bind fun bound => (sim_macroResult hI m bound).bind fun result => ?_
  refine (sim_truth hI escape).bind fun _ => .branch ?_ (.ret rfl)
  exact (sim_display hI result).bind fun _ => .ret rfl

theorem sim_callRange (args : List Value) (named : Named) :
    A.Same (callRange args named) (callRange (args.map A.names.on) (named.map A.names.on)) := by
  unfold callRange
  rw [List.isEmpty_map]
  refine .branch (.failing _ _ _) ?_
  refine .bind (.mapM sim_needInt args) fun ns => ?_
  rw [List.map_id]
  rcases ns with _ | ⟨a, _ | ⟨b, _ | ⟨c, _ | _⟩⟩⟩
  · exact .fails _
  · exact .ret rfl
  · exact .ret rfl
  · exact .branch (p := c = 0) (.fails _) (.ret rfl)
  · exact .fails _

theorem sim_callBuiltin (hI : Aligned A I I') (b : Builtin) (args : List Value) (named : Named) :
    A.Same (callBuiltin I b args named) (callBuiltin I' b (args.map A.names.on) (named.map A.names.on)) := by
  cases b
  case range => exact sim_callRange args named
  case dict => exact (sim_buildEntries hI args named).bind fun entries => sim_newDict entries
  case «namespace» =>
    exact (sim_buildEntries hI args named).bind fun entries => (sim_alloc (.namespace entries)).bind fun _ => .ret rfl
  all_goals exact .fails _

theorem sim_callBlockRef (hI : Aligned A I I') (context : Ref) (stack : List BlockFn) (height : Nat) :
    A.Same (callBlockRef I context stack height) (callBlockRef I' (A.names.context context) stack height) := by
  unfold callBlockRef
  cases stack[height]? with
  | none => exact .fails _
  | some fn =>
    refine .bind (sim_deeper 3 ((hI.block fn context).bind fun out => sim_joined out)) fun text => ?_
    exact (sim_escapeValue context).bind fun v => (sim_truth hI v).bind fun _ => .branch (.ret rfl) (.ret rfl)

theorem sim_callAgain (hI : Aligned A I I') (l : Loop) (args : List Value) (named : Named) :
    A.Same (callAgain I l args named) (callAgain I' (A.names.on l) (args.map A.names.on) (named.map A.names.on)) := by
  refine (sim_signature _ args named).bind fun g => ?_
  rw [get_null_on]
  rw [Renaming.loop_fn]
  cases l.fn with
  | some fn => exact sim_deeper 3 (sim_callLoop hI fn (l.depth0 + 1) _)
  | none => exact .fails _

theorem sim_callValue (hI : Aligned A I I') (env : Env) (fn : Value) (args : List Value) (named : Named) :
    A.Same (callValue I env fn args named)
      (callValue I' (A.names.on env) (A.names.on fn) (args.map A.names.on) (named.map A.names.on)) := by
  unfold callValue
  dsimp only
  rw [filter_name_on A.names named fun id => !keptBack.contains id]
  cases fn
  case missing m => exact sim_failMissing m
  case macroFn r =>
    refine (sim_object? r).bind fun o => ?_
    rcases o with _ | o
    · exact .fails _
    · cases o
      case macroFn m =>
        exact (sim_escapeValue env.context).bind fun escape => sim_callMacro hI m escape args _
      all_goals exact .fails _
  case builtin b => exact sim_callBuiltin hI b args _
  case method owner id => exact sim_callMethod hI owner id args _
  case loop r =>
    refine (sim_loop? r).bind fun l => ?_
    cases l with
    | some l => exact sim_callAgain hI l args _
    | none => exact .fails _
  case blockRef id context stack height =>
    exact .bind (sim_noArguments args _) fun _ => sim_callBlockRef hI context stack height
  all_goals exact .fails _

end Agreement

end Stencil.Engine
