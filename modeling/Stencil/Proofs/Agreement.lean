import Stencil.Engine.Load
import Stencil.Proofs.Coupling

/-!
# Agreements

An agreement is a coupling that every step of the engine keeps: related worlds hold the same cells under other names,
and stay related when both are changed in the same way. Which frames and contexts may be written is left to the
agreement, so that it can also say that some are not.
-/

set_option autoImplicit false

namespace Stencil.LogLine

def isCompilation (l : LogLine) : Bool := "Compiled template".toList.isPrefixOf l.text.toList

theorem isCompilation_of_head? {l : LogLine} {c : Char} (first : l.text.toList.head? = some c) (other : c ≠ 'C') :
    l.isCompilation = false := by
  obtain ⟨rest, text⟩ := List.head?_eq_some_iff.mp first
  unfold isCompilation
  rw [text]
  simp [List.isPrefixOf, Ne.symm other]

end Stencil.LogLine

namespace Stencil.Engine

open Stencil.Template

structure Linked (ρ : Renaming) (gap : Nat) (w w' : World) : Prop where
  settings : w'.settings = w.settings
  registry : w'.registry = w.registry
  files : w'.files = w.files
  object : ∀ r, w'.objects[ρ.object r]? = (w.objects[r]?).map ρ.on
  frame : ∀ r, w'.frames[ρ.frame r]? = (w.frames[r]?).map ρ.on
  context : ∀ r, w'.contexts[ρ.context r]? = (w.contexts[r]?).map ρ.on
  escape : ∀ r, w'.escapes[ρ.escape r]? = (w.escapes[r]?).map ρ.on
  templates : w'.templates = w.templates
  loaded : w'.loaded = w.loaded
  modules : w'.modules = w.modules.mapValues ρ.object
  mark : w'.mark = w.mark
  depth : w'.depth = w.depth + gap
  events : w'.events = w.events

namespace Linked

variable {ρ : Renaming} {gap : Nat} {w w' : World}

/-- What is read of an object follows the renaming as soon as the reader does, object by object. -/
theorem read {α : Type} (h : Linked ρ gap w w') (r : Ref) (on : α → α) {none : α} {part : Object → α}
    (absent : none = on none) (present : ∀ o, part (ρ.on o) = on (part o)) :
    w'.read (ρ.object r) none part = on (w.read r none part) := by
  rw [World.read, World.read, h.object r]
  rcases w.objects[r]? with _ | o
  · exact absent
  · exact present o

theorem listItems (h : Linked ρ gap w w') (r : Ref) : w'.listItems (ρ.object r) = (w.listItems r).map ρ.on :=
  h.read r (List.map ρ.on) rfl fun o => by cases o <;> rfl

theorem dictEntries (h : Linked ρ gap w w') (r : Ref) :
    w'.dictEntries (ρ.object r) = (w.dictEntries r).map ρ.on :=
  h.read r (List.map ρ.on) rfl fun o => by cases o <;> rfl

theorem setItems (h : Linked ρ gap w w') (r : Ref) : w'.setItems (ρ.object r) = (w.setItems r).map ρ.on :=
  h.read r (List.map ρ.on) rfl fun o => by cases o <;> rfl

theorem insists (h : Linked ρ gap w w') (r : Ref) : w'.insists (ρ.object r) = w.insists r :=
  h.read r id rfl fun o => by cases o <;> rfl

theorem getContext (h : Linked ρ gap w w') (r : Ref) :
    w'.contexts.getD (ρ.context r) ⟨none, {}, {}, [], {}, none⟩ =
      ρ.on (w.contexts.getD r ⟨none, {}, {}, [], {}, none⟩) := by
  rw [Array.getD_eq_getD_getElem?, Array.getD_eq_getD_getElem?, h.context r]
  rcases w.contexts[r]? with _ | c <;> rfl

theorem getFrame (h : Linked ρ gap w w') (r : Ref) :
    w'.frames.getD (ρ.frame r) ⟨0, none, {}, {}, none⟩ = ρ.on (w.frames.getD r ⟨0, none, {}, {}, none⟩) := by
  rw [Array.getD_eq_getD_getElem?, Array.getD_eq_getD_getElem?, h.frame r]
  rcases w.frames[r]? with _ | f <;> rfl

theorem escapeValue (h : Linked ρ gap w w') (r : Ref) :
    ((w'.contexts[ρ.context r]?).bind fun c => c.escape.bind fun cell => w'.escapes[cell]?) =
      ((w.contexts[r]?).bind fun c => c.escape.bind fun cell => w.escapes[cell]?).map ρ.on := by
  rw [h.context r]
  rcases w.contexts[r]? with _ | c
  · rfl
  · show (c.escape.map ρ.escape).bind (fun cell => w'.escapes[cell]?) = _
    rcases hc : c.escape with _ | cell
    · simp [hc]
    · simp [hc, h.escape cell]

end Linked

theorem Coupling.apart_of_unnoted (x : Fault) (noted : False) : x ≠ .mishap .wrongType := noted.elim

theorem Coupling.never_aside (_ _ : World) (_ : Nat) (aside : False) : False := aside

structure Agreement extends Coupling where
  gap : Nat
  -- the frames that may be written
  frames : Ref → Prop
  -- the contexts that may be written
  contexts : Ref → Prop
  -- the tags that may be used
  tags : Tag → Prop := fun _ => True
  linked : ∀ {w w' : World}, rel w w' → Linked names gap w w'
  excused_cases : ∀ {f : Fault}, excused f → f = .outOfFuel ∨ f = .mishap .tooDeep
  excused_deep : gap = 0 ∨ excused (.mishap .tooDeep)
  noted_apart : ∀ x : Fault, noted x → x ≠ .mishap .wrongType
  aside_depth : ∀ (w w' : World) (n : Nat), aside w w' → aside { w with depth := n } { w' with depth := n + gap }
  newest_frame : ∀ {w : World}, (out w ∨ ∃ w', rel w w') → frames w.frames.size
  newest_context : ∀ {w : World}, (out w ∨ ∃ w', rel w w') → contexts w.contexts.size
  push_object : ∀ o, toCoupling.Sim names.object (alloc o) (alloc (names.on o))
  push_frame : ∀ f, toCoupling.Sim names.frame (newFrame f) (newFrame (names.on f))
  push_context : ∀ c, toCoupling.Sim names.context (newContext c) (newContext (names.on c))
  push_escape : ∀ v, toCoupling.Sim names.escape (newEscape v) (newEscape (names.on v))
  push_template : ∀ c, toCoupling.Sim id (addTemplate c) (addTemplate c)
  write_object : ∀ r (u u' : Object → Object), (∀ o, u' (names.on o) = names.on (u o)) →
    toCoupling.Same (modifyObject r u) (modifyObject (names.object r) u')
  write_frame : ∀ r (u u' : Frame → Frame), frames r → (∀ f, u' (names.on f) = names.on (u f)) →
    toCoupling.Same (modifyFrame r u) (modifyFrame (names.frame r) u')
  write_context : ∀ r (u u' : Context → Context), contexts r → (∀ c, u' (names.on c) = names.on (u c)) →
    toCoupling.Same (modifyContext r u) (modifyContext (names.context r) u')
  write_escape : ∀ r v, toCoupling.Keeps (fun w => { w with escapes := w.escapes.modify r fun _ => v })
    (fun w => { w with escapes := w.escapes.modify (names.escape r) fun _ => names.on v })
  write_loaded : ∀ c, toCoupling.Same (setLoaded c) (setLoaded c)
  write_module : ∀ t r, toCoupling.Same (keepModule t r) (keepModule t (names.object r))
  write_mark : ∀ n, toCoupling.Keeps (fun w => { w with mark := n }) (fun w => { w with mark := n })
  write_depth : ∀ n, toCoupling.Keeps (fun w => { w with depth := n }) (fun w => { w with depth := n + gap })
  write_log : ∀ line, line.isCompilation = false → toCoupling.Same (writeLog line) (writeLog line)
  write_events : ∀ (u : List Event → List Event),
    toCoupling.Keeps (fun w => { w with events := u w.events }) (fun w => { w with events := u w.events })

class Agreement.Complete (A : Agreement) : Prop where
  found_tag : ∀ {w : World} {id : String} {tag : Tag}, (A.out w ∨ ∃ w', A.rel w w') → w.registry.getTag? id = some tag →
    A.tags tag
  unconnected : ∀ {w : World} {tag : Tag}, (A.out w ∨ ∃ w', A.rel w w') → A.tags tag →
    w.registry.connected.contains tag.owner = false → A.raised .unconnected
  uncompiled : ∀ {settings : Settings} {tags : List String} {name file : Option String} {source : String} {x : Fault},
    compiledText settings tags name file source = .error x → A.raised x
  compile_text : ∀ name source, A.toCoupling.quiet.Sim id (compileText name source) (compileText name source)

namespace Agreement

def heeding (A : Agreement) (noted : Fault → Prop) (aside : World → World → Prop)
    (noted_apart : ∀ x : Fault, noted x → x ≠ .mishap .wrongType)
    (aside_depth : ∀ (w w' : World) (n : Nat), aside w w' → aside { w with depth := n } { w' with depth := n + A.gap }) :
    Agreement :=
  { A with
    toCoupling := A.toCoupling.heeding noted aside
    noted_apart
    aside_depth
    push_object := fun o => (A.push_object o).total fun _ => ⟨_, _, rfl⟩
    push_frame := fun f => (A.push_frame f).total fun _ => ⟨_, _, rfl⟩
    push_context := fun c => (A.push_context c).total fun _ => ⟨_, _, rfl⟩
    push_escape := fun v => (A.push_escape v).total fun _ => ⟨_, _, rfl⟩
    push_template := fun c => (A.push_template c).total fun _ => ⟨_, _, rfl⟩
    write_object := fun r u u' hu => (A.write_object r u u' hu).total fun _ => ⟨_, _, rfl⟩
    write_frame := fun r u u' hr hu => (A.write_frame r u u' hr hu).total fun _ => ⟨_, _, rfl⟩
    write_context := fun r u u' hr hu => (A.write_context r u u' hr hu).total fun _ => ⟨_, _, rfl⟩
    write_loaded := fun c => (A.write_loaded c).total fun _ => ⟨_, _, rfl⟩
    write_module := fun t r => (A.write_module t r).total fun _ => ⟨_, _, rfl⟩
    write_log := fun line told => (A.write_log line told).total fun _ => ⟨_, _, rfl⟩ }

instance heeding_complete (A : Agreement) (noted : Fault → Prop) (aside : World → World → Prop)
    (noted_apart : ∀ x : Fault, noted x → x ≠ .mishap .wrongType)
    (aside_depth : ∀ (w w' : World) (n : Nat), aside w w' → aside { w with depth := n } { w' with depth := n + A.gap })
    [A.Complete] : (A.heeding noted aside noted_apart aside_depth).Complete where
  found_tag := Complete.found_tag (A := A)
  unconnected := Complete.unconnected (A := A)
  uncompiled := Complete.uncompiled (A := A)
  compile_text := Complete.compile_text (A := A)

abbrev sparing (A : Agreement) (P : Fault → Bool) : Agreement :=
  A.heeding (fun x => A.noted x ∧ P x = false) A.aside (fun x both => A.noted_apart x both.1) A.aside_depth

variable {A : Agreement} {α β γ δ : Type} {f : α → β} {g : γ → δ}

def Writes (A : Agreement) (env : Env) : Prop := A.frames env.frame ∧ (env.top = true → A.contexts env.context)

theorem sim_alloc (o : Object) : A.Sim A.names.object (alloc o) (alloc (A.names.on o)) := A.push_object o

theorem sim_object? (r : Ref) : A.Same (object? r) (object? (A.names.object r)) :=
  .read _ _ fun _ _ h => (A.linked h).object r

theorem sim_setObject (r : Ref) (o : Object) : A.Same (setObject r o) (setObject (A.names.object r) (A.names.on o)) :=
  A.write_object r _ _ fun _ => rfl

theorem sim_newList (items : List Value) : A.Same (newList items) (newList (items.map A.names.on)) :=
  (sim_alloc (.list items)).bind fun _ => .ret rfl

theorem sim_newDict (entries : List (Value × Value)) :
    A.Same (newDict entries) (newDict (entries.map A.names.on)) :=
  (sim_alloc (.dict entries false)).bind fun _ => .ret rfl

theorem sim_newIter (it : Iter) : A.Same (newIter it) (newIter (A.names.on it)) :=
  (sim_alloc (.iter it)).bind fun _ => .ret rfl

theorem sim_freshMark : A.Sim id freshMark freshMark := by
  refine ⟨fun w hw => (A.write_mark (w.mark + 1)).1 w hw, fun w w' h => ?_, Coupling.level_of fun w _ _ ends => ?_⟩
  swap
  · cases ends
    rfl
  have hm : w'.mark = w.mark := (A.linked h).mark
  rcases (A.write_mark (w.mark + 1)).2 w w' h with hout | hrel
  · exact .inl hout
  · refine .inr ⟨hm, ?_⟩
    simpa [freshMark, hm] using hrel

theorem sim_newFloat (x : Float) : A.Same (newFloat x) (newFloat x) :=
  .branch (sim_freshMark.bind fun _ => .ret rfl) (.ret rfl)

theorem sim_listItems (r : Ref) : A.Same (listItems r) (listItems (A.names.object r)) :=
  .read _ _ fun _ _ h => (A.linked h).listItems r

theorem sim_dictEntries (r : Ref) : A.Same (dictEntries r) (dictEntries (A.names.object r)) :=
  .read _ _ fun _ _ h => (A.linked h).dictEntries r

theorem sim_setItems (r : Ref) : A.Same (setItems r) (setItems (A.names.object r)) :=
  .read _ _ fun _ _ h => (A.linked h).setItems r

theorem sim_setEntries (r : Ref) (entries : List (Value × Value)) :
    A.Same (setEntries r entries) (setEntries (A.names.object r) (entries.map A.names.on)) :=
  A.write_object r _ _ fun o => by cases o <;> rfl

theorem sim_loop? (r : Ref) : A.Same (loop? r) (loop? (A.names.object r)) := by
  refine (sim_object? r).bind fun o => ?_
  rcases o with _ | o
  · exact .ret rfl
  · cases o <;> exact .ret rfl

theorem sim_context (r : Ref) : A.Same (context r) (context (A.names.context r)) :=
  .read _ _ fun _ _ h => (A.linked h).getContext r

theorem sim_frame (r : Ref) : A.Same (frame r) (frame (A.names.frame r)) :=
  .read _ _ fun _ _ h => (A.linked h).getFrame r

theorem sim_escapeValue (r : Ref) : A.Same (escapeValue r) (escapeValue (A.names.context r)) := by
  refine .read _ _ fun w w' h => ?_
  rw [(A.linked h).escapeValue r]
  rcases ((w.contexts[r]?).bind fun c => c.escape.bind fun cell => w.escapes[cell]?) with _ | v <;> rfl

theorem sim_setEscape (env : Env) (v : Value) :
    A.Same (setEscape env v) (setEscape (A.names.on env) (A.names.on v)) := by
  refine (sim_context env.context).bind fun c => ?_
  rw [Renaming.context_escape]
  rcases c.escape with _ | cell
  · exact .ret rfl
  · exact .update (A.write_escape cell v) fun _ => rfl

theorem sim_compiled? (t : Script) : A.Sim id (compiled? t) (compiled? t) := by
  cases t with
  | file r =>
    refine .read _ _ fun w w' h => ?_
    rw [(A.linked h).templates, id]
  | text c => exact .ret rfl

theorem sim_currentSettings : A.Sim id currentSettings currentSettings :=
  .read _ _ fun _ _ h => (A.linked h).settings

theorem sim_currentRegistry : A.Sim id currentRegistry currentRegistry :=
  .read _ _ fun _ _ h => (A.linked h).registry

theorem sim_currentFiles : A.Sim id currentFiles currentFiles := .read _ _ fun _ _ h => (A.linked h).files

theorem sim_currentDepth : A.Sim (· + A.gap) currentDepth currentDepth := .read _ _ fun _ _ h => (A.linked h).depth

theorem sim_insists (r : Ref) : A.Same (insists r) (insists (A.names.object r)) :=
  .read _ _ fun _ _ h => (A.linked h).insists r

theorem sim_newMissing (sought : Sought) (message : String) :
    A.Same (newMissing sought message) (newMissing sought message) :=
  sim_currentSettings.bind fun _ => sim_freshMark.bind fun _ => .ret rfl

theorem sim_undefinedName (id : String) : A.Same (undefinedName id) (undefinedName id) := sim_newMissing _ _

theorem sim_failMissing (m : Missing) : A.Sim f (failMissing m) (failMissing m) := .raise _ rfl

theorem sim_liftOption (m : Mishap) (x : Option α) :
    A.Sim f (liftOption m x) (liftOption m (x.map f)) := by
  cases x with
  | none => exact .fails m
  | some a => exact .ret rfl

theorem sim_liftOption_inert [Inert α] (m : Mishap) (x : Option α) :
    A.Same (liftOption m x) (liftOption m x) := by
  cases x with
  | none => exact .fails m
  | some a => exact .ret (A.names.on_inert a).symm

theorem sim_liftExcept (x : Except Fault α) (h : ∀ y, x = .error y → A.raised y) :
    A.Sim id (liftExcept x) (liftExcept x) := by
  cases x with
  | error x => exact .throws (h x rfl)
  | ok a => exact .ret rfl

theorem follows_setDepth (n : Nat) : A.Follows A.names.on (setDepth n) (setDepth (n + A.gap)) := .update (A.write_depth n)

theorem depth_of_deeper {amount : Nat} {e : Eval α} {w w₁ : World} {a : α} (run : outcome (deeper amount e) w = (.ok a, w₁)) :
    w₁.depth = w.depth := by
  unfold deeper at run
  rw [outcome_bind, show outcome currentDepth w = (.ok w.depth, w) from rfl] at run
  dsimp only at run
  by_cases h : callLimit < w.depth + amount
  · rw [if_pos h] at run
    cases run
  · rw [if_neg h] at run
    obtain ⟨_, _, -, inside⟩ := Coupling.outcome_bind_eq_ok run
    obtain ⟨_, _, -, behind⟩ := Coupling.outcome_bind_eq_ok inside
    obtain ⟨_, _, back, given⟩ := Coupling.outcome_bind_eq_ok behind
    cases back
    cases given
    rfl

/-- The second run is deeper, so it may be refused where the first is not. -/
theorem sim_deeper (amount : Nat) {e : Eval α} {e' : Eval β} (he : A.Sim f e e') :
    A.Sim f (deeper amount e) (deeper amount e') := by
  suffices follows : A.Follows f (deeper amount e) (deeper amount e') from
    ⟨follows.stays, follows.ends, Coupling.level_of fun _ _ _ => depth_of_deeper⟩
  refine sim_currentDepth.follows.bind fun outer => ?_
  have rest : A.Follows f (do setDepth (outer + amount); let a ← e; setDepth outer; pure a)
      (do setDepth (outer + A.gap + amount); let a ← e'; setDepth (outer + A.gap); pure a) := by
    rw [Nat.add_right_comm]
    exact (follows_setDepth _).bind fun _ => he.follows.bind fun _ => (follows_setDepth _).bind fun _ =>
      (Coupling.Sim.ret rfl).follows
  dsimp only
  by_cases h : callLimit < outer + amount
  · rw [if_pos h, if_pos (by omega)]
    exact (Coupling.Sim.failing _ _ _).follows
  · rw [if_neg h]
    by_cases h' : callLimit < outer + A.gap + amount
    · rw [if_pos h']
      have deep : A.excused (.mishap .tooDeep) := A.excused_deep.resolve_left (by omega)
      exact .excused deep rest.1
    · rw [if_neg h']
      exact rest

theorem outcome_needRoom (amount : Nat) (w : World) : outcome (needRoom amount) w =
    if callLimit < w.depth + amount then (.error (.mishap .tooDeep), w) else (.ok (), w) := by
  show outcome (if callLimit < w.depth + amount then fail .tooDeep else pure ()) w = _
  split <;> rfl

theorem sim_needRoom (amount : Nat) : A.Same (needRoom amount) (needRoom amount) := by
  refine sim_currentDepth.bind fun outer => ?_
  by_cases h : callLimit < outer + amount
  · rw [if_pos h, if_pos (by omega)]
    exact .fails _
  · rw [if_neg h]
    by_cases h' : callLimit < outer + A.gap + amount
    · rw [if_pos h']
      have deep : A.excused (.mishap .tooDeep) := A.excused_deep.resolve_left (by omega)
      exact ⟨fun _ => id, fun _ _ _ => .inr deep, Coupling.level_of_error fun w => ⟨_, w, rfl⟩⟩
    · rw [if_neg h']
      exact .ret rfl

section Recover

variable {P : Fault → Bool} {e h : Eval α} {e' h' : Eval β}

/-- What cuts a run off is not caught. -/
theorem spared_of_excused (fuel : P .outOfFuel = false) (deep : P (.mishap .tooDeep) = false) {y : Fault}
    (excused : A.excused y) : P y = false := by
  rcases A.excused_cases excused with rfl | rfl
  · exact fuel
  · exact deep

theorem outcome_handler (outer : Nat) (x : Fault) (w : World) :
    outcome (do setDepth outer; if P x then h else throw x) w =
      outcome (if P x then h else throw x) { w with depth := outer } := rfl

theorem stays_handler (hh : A.Sim f h h') (outer : Nat) (x : Fault) {w : World} (hw : A.out w) :
    A.out (outcome (do setDepth outer; if P x then h else throw x) w).2 := by
  have lowered : A.out { w with depth := outer } := (A.write_depth outer).1 w hw
  rw [outcome_handler]
  split
  · exact hh.stays _ lowered
  · exact lowered

/-- What is caught is handled at the depth where it is caught. -/
theorem level_recover (he : (A.sparing P).Sim f e e') (hh : A.Sim f h h') (fuel : P .outOfFuel = false)
    (deep : P (.mishap .tooDeep) = false) :
    A.Level (recover e fun x => if P x then h else throw x) (recover e' fun x => if P x then h' else throw x) := by
  intro w w' hr a w₁ b w₁' run run'
  unfold recover at run run'
  rw [outcome_bind, show outcome currentDepth w = (.ok w.depth, w) from rfl] at run
  rw [outcome_bind, show outcome currentDepth w' = (.ok w'.depth, w') from rfl] at run'
  dsimp only at run run'
  rw [outcome_tryCatch] at run run'
  have ends := he.ends w w' hr
  have level := he.level w w' hr
  revert ends level run run'
  rcases outcome e w with ⟨x | c, v⟩ <;> rcases outcome e' w' with ⟨y | d, v'⟩ <;> intro run run' ends level <;>
    dsimp only at run run' ends
  · rcases ends with hout | ⟨rfl, ⟨-, hr₁⟩ | ⟨noted, -⟩⟩ | excused
    · have stays := stays_handler (P := P) hh w.depth x hout
      rw [run] at stays
      exact .inl stays
    · rw [outcome_handler] at run run'
      cases caught : P y with
      | false =>
        rw [caught] at run
        cases run
      | true =>
        rw [caught, if_pos rfl] at run run'
        rw [(A.linked hr).depth] at run'
        rcases (A.write_depth w.depth).2 v v' hr₁ with hout | hr₂
        · have stays := hh.stays _ hout
          rw [run] at stays
          exact .inl stays
        · exact hh.level _ _ hr₂ a w₁ b w₁' run run'
    · rw [outcome_handler, noted.2] at run
      cases run
    · rw [outcome_handler, spared_of_excused fuel deep excused] at run'
      cases run'
  · rcases ends with hout | never
    · have stays := stays_handler (P := P) hh w.depth x hout
      rw [run] at stays
      exact .inl stays
    · exact never.elim
  · rcases ends with hout | excused
    · cases run
      exact .inl hout
    · rw [outcome_handler, spared_of_excused fuel deep excused] at run'
      cases run'
  · cases run
    exact level _ _ d v' rfl rfl

/-- A handler of faults that are not noted. What cuts a run off is left alone. -/
theorem sim_recover (he : (A.sparing P).Sim f e e') (hh : A.Sim f h h') (fuel : P .outOfFuel = false)
    (deep : P (.mishap .tooDeep) = false) :
    A.Sim f (recover e fun x => if P x then h else throw x) (recover e' fun x => if P x then h' else throw x) := by
  have handles (outer : Nat) (x : Fault) (raised : A.raised x) :
      A.Follows f (do setDepth outer; if P x then h else throw x) (do setDepth (outer + A.gap); if P x then h' else throw x) :=
    (follows_setDepth outer).bind fun _ => (Coupling.Sim.branch hh (.throws raised)).follows
  suffices follows : A.Follows f (recover e fun x => if P x then h else throw x)
      (recover e' fun x => if P x then h' else throw x) from ⟨follows.stays, follows.ends, level_recover he hh fuel deep⟩
  refine sim_currentDepth.follows.bind fun outer => .catches he.follows (handles outer) (fun x w w' noted aside => ?_)
    (fun x w hw => stays_handler hh outer x hw) fun y w hy => ?_
  · rw [outcome_handler, outcome_handler]
    simp only [noted.2]
    exact .inl ⟨rfl, .inr ⟨noted.1, A.aside_depth w w' outer aside⟩⟩
  · rw [outcome_handler, spared_of_excused fuel deep hy]
    rfl

end Recover

/-- The tag that a registry has under a name, if it has one, may be used. -/
theorem sim_registered [A.Complete] (id : String) (k : Option Tag → Eval α) (k' : Option Tag → Eval β)
    (absent : A.Sim f (k none) (k' none)) (present : ∀ tag, A.tags tag → A.Sim f (k (some tag)) (k' (some tag))) :
    A.Sim f (do k ((← currentRegistry).getTag? id)) (do k' ((← currentRegistry).getTag? id)) := by
  have either : ∀ w, (A.out w ∨ ∃ w', A.rel w w') → A.Sim f (k (w.registry.getTag? id)) (k' (w.registry.getTag? id)) := by
    intro w known
    cases found : w.registry.getTag? id with
    | none => exact absent
    | some tag => exact present tag (Complete.found_tag known found)
  refine ⟨fun w hw => (either w (.inl hw)).1 w hw, fun w w' hr => ?_, fun w w' hr => ?_⟩
  · show A.out (outcome (k (w.registry.getTag? id)) w).2 ∨
      A.Match f (outcome (k (w.registry.getTag? id)) w) (outcome (k' (w'.registry.getTag? id)) w')
    rw [(A.linked hr).registry]
    exact (either w (.inr ⟨w', hr⟩)).ends w w' hr
  · show ∀ a w₁ b w₁', outcome (k (w.registry.getTag? id)) w = (.ok a, w₁) →
      outcome (k' (w'.registry.getTag? id)) w' = (.ok b, w₁') → A.out w₁ ∨ w₁.depth = w.depth
    rw [(A.linked hr).registry]
    exact (either w (.inr ⟨w', hr⟩)).level w w' hr

structure Aligned (A : Agreement) (I I' : Interp) : Prop where
  nodes : ∀ env nodes, A.Writes env → A.Same (I.nodes env nodes) (I'.nodes (A.names.on env) nodes)
  call : ∀ env v args named, A.Same (I.call env v args named)
    (I'.call (A.names.on env) (A.names.on v) (args.map A.names.on) (named.map A.names.on))
  next : ∀ r, A.Same (I.next r) (I'.next (A.names.object r))
  drain : ∀ r, A.Same (I.drain r) (I'.drain (A.names.object r))
  seek : ∀ r v, A.Same (I.seek r v) (I'.seek (A.names.object r) (A.names.on v))
  turns : ∀ env counted source target body turns out, A.Writes env →
    A.Same (I.turns env counted source target body turns out)
      (I'.turns (A.names.on env) counted (A.names.object source) target body turns out)
  body : ∀ m bound, A.Same (I.body m bound) (I'.body (A.names.on m) (bound.map A.names.on))
  template : ∀ t r, A.contexts r → A.Same (I.template t r) (I'.template t (A.names.context r))
  block : ∀ fn r, A.Same (I.block fn r) (I'.block fn (A.names.context r))
  filter : ∀ env id args named, A.Same (I.filter env id args named)
    (I'.filter (A.names.on env) id (args.map A.names.on) (named.map A.names.on))
  tag : ∀ env tag markup body, A.tags tag →
    A.Same (I.tag env tag markup body) (I'.tag (A.names.on env) tag markup body)
  render : ∀ name vars source, A.Same (I.render name vars source) (I'.render name (A.names.on vars) source)
  -- the faults that an include ignores are not noted
  sought : ∀ env e ignoring, (A.sparing fun x => ignoring && isNotFound x).Sim id (I.sought env e ignoring)
    (I'.sought (A.names.on env) e ignoring)

end Agreement

end Stencil.Engine
