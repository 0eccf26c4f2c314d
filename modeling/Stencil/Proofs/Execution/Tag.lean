import Stencil.Engine.Tag
import Stencil.Proofs.Execution.Load

/-!
# Block tags follow each other

A block tag hands the variables it can see to the first pass over its body, and those the body leaves to the second.
What a tag reports is data, which has no references.
-/

set_option autoImplicit false

namespace Stencil.Engine

open Stencil.Template

instance : Renames TagCall := ⟨fun ρ call => { call with body := ρ.on call.body }⟩

theorem Renaming.tagCall_tag (ρ : Renaming) (call : TagCall) : (ρ.on call).tag = call.tag := rfl

section Pure

variable (ρ : Renaming)

theorem textEntries_on (entries : List (Value × Value)) :
    textEntries (entries.map ρ.on) = (textEntries entries).map ρ.on := by
  rw [textEntries, textEntries, List.filterMap_map, List.map_filterMap]
  congr 1
  funext e
  show (textOf? (ρ.on e.1)).map (·, ρ.on e.2) = _
  rw [textOf?_on]
  cases textOf? e.1 <;> rfl

theorem insertAll_on {υ : Type} [Renames υ] (t : Table String υ) (entries : List (String × υ)) :
    (ρ.on t).insertAll (entries.map ρ.on) = ρ.on (t.insertAll entries) :=
  (Table.mapValues_insertAll ρ.on t entries).symm

theorem isGlobal_on (id : String) (v : Value) : isGlobal id (ρ.on v) = isGlobal id v := by
  cases v <;> rfl

end Pure

namespace Agreement

variable {A : Agreement} {I I' : Interp}

theorem sim_renderBody (hI : Aligned A I I') (call : TagCall) (vars : Table String Value) :
    A.Same (call.renderBody I vars) (TagCall.renderBody I' (A.names.on call) (A.names.on vars)) := by
  refine (sim_alloc (.dict [] false)).bind fun collected => ?_
  refine .bind (sim_deeper 1 (sim_callMacro hI call.body call.body.escape [.dict collected] [])) fun text => ?_
  refine (sim_dictEntries collected).bind fun entries => .ret ?_
  rw [Renaming.on_list_eq, textEntries_on, insertAll_on]
  rfl

theorem sim_needRenderer [A.Complete] (call : TagCall) (used : A.tags call.tag) :
    A.Same call.needRenderer (TagCall.needRenderer (A.names.on call)) := by
  have either : ∀ w, (A.out w ∨ ∃ w', A.rel w w') → A.Same
      (if !w.registry.connected.contains call.tag.owner then throw .unconnected else pure () : Eval Unit)
      (if !w.registry.connected.contains call.tag.owner then throw .unconnected else pure ()) := by
    intro w known
    cases connected : w.registry.connected.contains call.tag.owner with
    | true => exact .ret rfl
    | false => exact .throws (Complete.unconnected known used connected)
  refine ⟨fun w hw => (either w (.inl hw)).1 w hw, fun w w' hr => ?_, Coupling.level_of fun w _ _ ends => ?_⟩
  swap
  · change outcome (if !w.registry.connected.contains call.tag.owner then throw .unconnected else pure () : Eval Unit) w = _ at ends
    split at ends
    · cases ends
    · cases ends
      rfl
  show A.out (outcome (if !w.registry.connected.contains call.tag.owner then throw .unconnected else pure () : Eval Unit) w).2 ∨
    A.Match A.names.on (outcome (if !w.registry.connected.contains call.tag.owner then _ else _) w)
      (outcome (if !w'.registry.connected.contains call.tag.owner then throw .unconnected else pure () : Eval Unit) w')
  rw [(A.linked hr).registry]
  exact (either w (.inr ⟨w', hr⟩)).ends w w' hr

theorem sim_renderAgain (hI : Aligned A I I') (call : TagCall) (text : Value) (vars : Table String Value) :
    A.Same (call.renderAgain I text vars)
      (TagCall.renderAgain I' (A.names.on call) (A.names.on text) (A.names.on vars)) := by
  unfold TagCall.renderAgain
  rw [textOf?_on]
  refine (sim_liftOption_inert _ _).bind fun source => ?_
  rw [Renaming.on_inert]
  exact sim_deeper 2 (hI.render call.nameText vars source)

theorem sim_again [A.Complete] (hI : Aligned A I I') (call : TagCall) (used : A.tags call.tag) (vars : Table String Value) :
    A.Same (call.again I vars) (TagCall.again I' (A.names.on call) (A.names.on vars)) :=
  .bind (sim_needRenderer call used) fun _ => .bind (sim_renderBody hI call vars) fun ⟨text, vars⟩ =>
    (sim_renderAgain hI call text vars).bind fun _ => .ret rfl

theorem sim_bothPasses [A.Complete] (hI : Aligned A I I') (call : TagCall) (used : A.tags call.tag) (vars : Table String Value) :
    A.Same (call.bothPasses I vars) (TagCall.bothPasses I' (A.names.on call) (A.names.on vars)) := by
  refine .bind (sim_renderBody hI call vars) fun ⟨text, vars⟩ => (sim_size hI text).bind fun length => ?_
  refine .bind (A.write_log _ (LogLine.isCompilation_of_head? (c := 'F') (by simp) (by decide))) fun _ => .bind (sim_needRenderer call used) fun _ => ?_
  exact (sim_renderAgain hI call text vars).bind fun _ => .ret rfl

theorem sim_renderTwice [A.Complete] (hI : Aligned A I I') (call : TagCall) (used : A.tags call.tag) (vars : Table String Value) :
    A.Same (call.renderTwice I vars) (TagCall.renderTwice I' (A.names.on call) (A.names.on vars)) :=
  .branch (p := (call.markup != "") = true) (.bind (A.write_log _ (LogLine.isCompilation_of_head? (c := 'I') (by simp) (by decide))) fun _ =>
      sim_bothPasses hI call used vars) (sim_bothPasses hI call used vars)

theorem sim_reportedValue (v : Value) : A.Same (reportedValue v) (reportedValue (A.names.on v)) := by
  refine (sim_freeze v).bind fun d => ?_
  rw [Renaming.on_inert]
  exact .branch (.failing _ _ _) (.branch (.failing _ _ _) (.ret rfl))

theorem sim_reported (vars : Table String Value) :
    A.Sim id (reported vars) (reported (A.names.on vars)) := by
  have own : ((A.names.on vars).entries.filter fun e => !isGlobal e.1 e.2) =
      (vars.entries.filter fun e => !isGlobal e.1 e.2).map A.names.on := by
    show (vars.entries.map A.names.on).filter _ = _
    rw [List.filter_map]
    congr 2
    funext e
    exact congrArg not (isGlobal_on A.names e.1 e.2)
  have sorted : ∀ es : List (String × Value), (es.map A.names.on).mergeSort (fun a b => a.1 ≤ b.1) =
      (es.mergeSort fun a b => a.1 ≤ b.1).map A.names.on :=
    fun es => (List.map_mergeSort fun _ _ _ _ => by rfl).symm
  unfold reported
  dsimp only
  rw [own, sorted]
  refine .congr (.mapM (fun e => ?_) _) List.map_id
  exact (sim_reportedValue e.2).bind fun d => .ret rfl

theorem sim_addEvent (e : Event) : A.Sim id (addEvent e) (addEvent e) := by
  refine ⟨fun w hw => (A.write_events (· ++ [e])).1 w hw, fun w w' h => ?_, Coupling.level_of fun w _ _ ends => ?_⟩
  swap
  · cases ends
    rfl
  have same : w'.events = w.events := (A.linked h).events
  rcases (A.write_events (· ++ [e])).2 w w' h with hout | hrel
  · exact .inl hout
  · exact .inr ⟨congrArg List.length same, hrel⟩

theorem sim_setEvent (place : Nat) (e : Event) : A.Same (setEvent place e) (setEvent place e) :=
  .update (A.write_events (·.set place e)) fun _ => rfl

theorem sim_record (hI : Aligned A I I') (call : TagCall) (vars : Table String Value) :
    A.Same (call.record I vars) (TagCall.record I' (A.names.on call) (A.names.on vars)) := by
  refine (sim_reported vars).bind fun before => (sim_addEvent _).bind fun place => ?_
  refine .bind (sim_renderBody hI call vars) fun ⟨text, vars⟩ => (sim_reported vars).bind fun after => ?_
  exact (sim_display hI text).bind fun body => .bind (sim_setEvent place _) fun _ => .ret rfl

theorem sim_tagCallRun [A.Complete] (hI : Aligned A I I') (call : TagCall) (used : A.tags call.tag) (vars : Table String Value) :
    A.Same (call.run I vars) (TagCall.run I' (A.names.on call) (A.names.on vars)) := by
  unfold TagCall.run
  rw [Renaming.tagCall_tag]
  cases call.tag.action with
  | renderTwice => exact sim_renderTwice hI call used vars
  | body => exact .bind (sim_renderBody hI call vars) fun _ => .ret rfl
  | upper => exact .bind (sim_renderBody hI call vars) fun p => sim_callMethod hI p.1 "upper" [] []
  | bodyTwice =>
    refine .bind (sim_renderBody hI call vars) fun p => (sim_binaryOp hI .add p.1 (.text "|")).bind fun start => ?_
    exact .bind (sim_renderBody hI call p.2) fun q => sim_binaryOp hI .add start q.1
  | skip => exact .ret rfl
  | markup => exact .ret rfl
  | name => exact .ret rfl
  | again => exact .bind (sim_again hI call used vars) fun _ => .ret rfl
  | snapshot =>
    exact .bind (sim_needRenderer call used) fun _ => .bind (sim_renderBody hI call vars) fun p =>
      (sim_renderAgain hI call p.1 vars).bind fun _ => .ret rfl
  | triple =>
    exact .bind (sim_again hI call used vars) fun p => (sim_deeper 2 (hI.render "" p.2 p.1)).bind fun _ => .ret rfl
  | number => exact .ret rfl
  | record => exact sim_record hI call vars

theorem sim_tagVariables (env : Env) : A.Same (tagVariables env) (tagVariables (A.names.on env)) := by
  refine (sim_visibleNames env).bind fun names => (sim_lookup? env "loop").bind fun v => ?_
  have inserted : ∀ v : Value, (A.names.on names).insert "loop" (A.names.on v) = A.names.on (names.insert "loop" v) :=
    fun v => (Table.mapValues_insert A.names.on names "loop" v).symm
  rcases v with _ | v
  · exact .ret rfl
  · cases v
    case missing m => exact .ret rfl
    all_goals exact .ret (inserted _)

theorem sim_runTag [A.Complete] (hI : Aligned A I I') (env : Env) (tag : Tag) (used : A.tags tag) (markup : String)
    (body : List Node) : A.Same (runTag I env tag markup body) (runTag I' (A.names.on env) tag markup body) := by
  refine (sim_newMacro env none ⟨[bodyLocals], []⟩ body).bind fun macroBody => ?_
  refine (sim_tagVariables env).bind fun vars => (sim_context env.context).bind fun c => ?_
  refine .bind (sim_deeper 3 (sim_tagCallRun hI ⟨tag, markup, c.name, macroBody⟩ used vars)) fun result => ?_
  refine (sim_escapesNow hI env).bind fun _ => .branch ?_ (.ret ?_)
  · exact (sim_display hI result).bind fun _ => .ret rfl
  · cases result <;> rfl

theorem sim_collectNames (env : Env) : A.Same (collectNames env) (collectNames (A.names.on env)) := by
  refine .bind (sim_needRoom 7) fun _ => (sim_readName env bodyLocals).bind fun v => ?_
  cases v
  case missing m => exact sim_failMissing m
  case dict r =>
    refine (sim_visibleNames env).bind fun names => (sim_dictEntries r).bind fun entries => ?_
    have texts : (A.names.on names).entries.map (fun e => (Value.text e.1, e.2)) =
        (names.entries.map fun e => (Value.text e.1, e.2)).map A.names.on := by
      show (names.entries.map A.names.on).map _ = _
      rw [List.map_map, List.map_map]
      rfl
    rw [texts, Renaming.on_list_eq]
    refine (sim_putAll entries _).bind fun entries => ?_
    rw [show (entries.map A.names.on).filter (fun e => !keyEqual e.1 (.text bodyLocals)) =
      (entries.filter fun e => !keyEqual e.1 (.text bodyLocals)).map A.names.on from
      withoutKey_on A.names entries (.text bodyLocals)]
    exact sim_setEntries r _
  all_goals exact .fails _

end Agreement

end Stencil.Engine
