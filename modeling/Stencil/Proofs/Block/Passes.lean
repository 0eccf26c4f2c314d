import Stencil.Proofs.Block.Preparing
import Stencil.Proofs.Invariant

/-!
# The two passes of a render block

What a render block does when it runs, step by step: the first pass runs the body in a frame of its own, and the
second pass renders what came of it as a template. Both only add to the world, apart from objects.
-/

set_option autoImplicit false

namespace Stencil.Table

variable {κ υ : Type} [BEq κ] [LawfulBEq κ]

theorem find?_erase_self (t : Table κ υ) (key : κ) : (t.erase key).find? key = none := by
  obtain ⟨es⟩ := t
  show findEntries? key (es.filter fun e => !(e.1 == key)) = none
  induction es with
  | nil => rfl
  | cons e es ih =>
    rw [List.filter_cons]
    split
    · next kept =>
      rw [findEntries?, if_neg (by simpa using kept)]
      exact ih
    · exact ih

theorem find?_erase_of_ne (t : Table κ υ) {key other : κ} (h : key ≠ other) : (t.erase key).find? other = t.find? other := by
  obtain ⟨es⟩ := t
  show findEntries? other (es.filter fun e => !(e.1 == key)) = findEntries? other es
  induction es with
  | nil => rfl
  | cons e es ih =>
    rw [List.filter_cons]
    split
    · rw [findEntries?, findEntries?, ih]
    · next erased =>
      have same : e.1 = key := by simpa using erased
      rw [findEntries?, if_neg (by simpa [same] using h)]
      exact ih

end Stencil.Table

namespace Stencil.Engine

open Stencil.Template

/-! ## Runs that only add -/

theorem getElem?_push_of_some {α : Type} {xs : Array α} {i : Nat} {a : α} (x : α) (h : xs[i]? = some a) :
    (xs.push x)[i]? = some a := by
  have small : i < xs.size := (Array.getElem?_eq_some_iff.mp h).1
  rw [Array.getElem?_push, if_neg (Nat.ne_of_lt small), h]

structure Kept (w w' : World) : Prop where
  settings : w'.settings = w.settings
  registry : w'.registry = w.registry
  faithful : w.Faithful → w'.Faithful
  frames : ∀ {r : Ref} {f : Frame}, w.frames[r]? = some f → w'.frames[r]? = some f
  contexts : ∀ {r : Ref} {c : Context}, w.contexts[r]? = some c → w'.contexts[r]? = some c
  escapes : ∀ {r : Ref} {v : Value}, w.escapes[r]? = some v → w'.escapes[r]? = some v

namespace Kept

variable {w w₁ w₂ : World}

theorem trans (h : Kept w w₁) (h' : Kept w₁ w₂) : Kept w w₂ :=
  ⟨h'.settings.trans h.settings, h'.registry.trans h.registry, fun hw => h'.faithful (h.faithful hw),
    fun hr => h'.frames (h.frames hr), fun hr => h'.contexts (h.contexts hr), fun hr => h'.escapes (h.escapes hr)⟩

/-- A change of nothing but objects, the log, marks and the depth. -/
theorem of_eq (settings : w₁.settings = w.settings) (registry : w₁.registry = w.registry) (texts : w₁.texts = w.texts)
    (frames : w₁.frames = w.frames) (contexts : w₁.contexts = w.contexts) (escapes : w₁.escapes = w.escapes) : Kept w w₁ :=
  ⟨settings, registry, fun h => h.of_fields settings registry texts, fun h => frames ▸ h, fun h => contexts ▸ h,
    fun h => escapes ▸ h⟩

theorem refl (w : World) : Kept w w := of_eq rfl rfl rfl rfl rfl rfl

theorem depth (w : World) (n : Nat) : Kept w { w with depth := n } := of_eq rfl rfl rfl rfl rfl rfl

theorem log (w : World) (lines : List LogLine) : Kept w { w with log := lines } := of_eq rfl rfl rfl rfl rfl rfl

theorem objects (w : World) (objects : Array Object) : Kept w { w with objects } := of_eq rfl rfl rfl rfl rfl rfl

theorem frame (w : World) (f : Frame) : Kept w { w with frames := w.frames.push f } :=
  ⟨rfl, rfl, fun h => h.of_fields rfl rfl rfl, fun h => getElem?_push_of_some _ h, fun h => h, fun h => h⟩

theorem context (w : World) (v : Value) (c : Context) :
    Kept w { w with escapes := w.escapes.push v, contexts := w.contexts.push c } :=
  ⟨rfl, rfl, fun h => h.of_fields rfl rfl rfl, fun h => h, fun h => getElem?_push_of_some _ h,
    fun h => getElem?_push_of_some _ h⟩

end Kept

section Yields

variable {α β : Type}

def Yields (w : World) (e : Eval α) (Q : α → Prop) : Prop :=
  ∃ a w', outcome e w = (.ok a, w') ∧ Q a ∧ Kept w w' ∧ w'.depth = w.depth

variable {w : World} {e : Eval α} {Q : α → Prop} {R : β → Prop}

theorem outcome_bind_of {k : α → Eval β} {a : α} {w' : World} (h : outcome e w = (.ok a, w')) :
    outcome (e >>= k) w = outcome (k a) w' := by
  rw [outcome_bind, h]

theorem outcome_bind_error {k : α → Eval β} {x : Fault} {w' : World} (h : outcome e w = (.error x, w')) :
    outcome (e >>= k) w = (.error x, w') := by
  rw [outcome_bind, h]

theorem Yields.ret {a : α} (h : Q a) : Yields w (pure a) Q := ⟨a, w, rfl, h, .refl w, rfl⟩

theorem Yields.of_outcome {a : α} {w' : World} (h : outcome e w = (.ok a, w')) (result : Q a) (kept : Kept w w')
    (depth : w'.depth = w.depth) : Yields w e Q := ⟨a, w', h, result, kept, depth⟩

theorem Yields.bind {k : α → Eval β} (he : Yields w e Q)
    (hk : ∀ a w', Q a → Kept w w' → w'.depth = w.depth → Yields w' (k a) R) : Yields w (e >>= k) R := by
  obtain ⟨a, w₁, first, result, kept, level⟩ := he
  obtain ⟨b, w₂, second, result', kept', level'⟩ := hk a w₁ result kept level
  refine ⟨b, w₂, ?_, result', kept.trans kept', level'.trans level⟩
  rw [outcome_bind, first]
  exact second

theorem outcome_deeper {amount : Nat} (shallow : w.depth + amount ≤ callLimit) : outcome (deeper amount e) w =
    outcome (e >>= fun a => setDepth w.depth >>= fun _ => pure a) { w with depth := w.depth + amount } := by
  unfold deeper
  rw [outcome_bind, show outcome currentDepth w = (.ok w.depth, w) from rfl]
  dsimp only
  rw [if_neg (Nat.not_lt.mpr shallow)]
  rfl

theorem outcome_deeper_beyond {amount : Nat} (deep : callLimit < w.depth + amount) :
    outcome (deeper amount e) w = (.error (.mishap .tooDeep), w) := by
  unfold deeper
  rw [outcome_bind, show outcome currentDepth w = (.ok w.depth, w) from rfl]
  dsimp only
  rw [if_pos deep]
  rfl

theorem outcome_deeper_of {amount : Nat} {a : α} {w' : World} (shallow : w.depth + amount ≤ callLimit)
    (run : outcome e { w with depth := w.depth + amount } = (.ok a, w')) :
    outcome (deeper amount e) w = (.ok a, { w' with depth := w.depth }) := by
  rw [outcome_deeper shallow, outcome_bind, run]
  rfl

theorem Yields.deeper {amount : Nat} (shallow : w.depth + amount ≤ callLimit)
    (he : Yields { w with depth := w.depth + amount } e Q) : Yields w (deeper amount e) Q := by
  obtain ⟨a, w₁, run, result, kept, -⟩ := he
  exact ⟨a, _, outcome_deeper_of shallow run, result, ((Kept.depth w _).trans kept).trans (.depth w₁ _), rfl⟩

theorem outcome_needRoom_of {amount : Nat} (shallow : w.depth + amount ≤ callLimit) :
    outcome (needRoom amount) w = (.ok (), w) := by
  rw [Agreement.outcome_needRoom, if_neg (Nat.not_lt.mpr shallow)]

end Yields

/-! ## Reading variables -/

section Reading

variable {α β : Type} {env : Env} {w : World}

def Looks (w : World) (e : Eval α) : Prop := ∃ a, outcome e w = (.ok a, w)

theorem Looks.bind {e : Eval α} {k : α → Eval β} (he : Looks w e) (hk : ∀ a, Looks w (k a)) : Looks w (e >>= k) := by
  obtain ⟨a, ha⟩ := he
  obtain ⟨b, hb⟩ := hk a
  refine ⟨b, ?_⟩
  rw [outcome_bind, ha]
  exact hb

theorem Looks.yields {e : Eval α} (h : Looks w e) : Yields w e fun _ => True := by
  obtain ⟨a, ha⟩ := h
  exact .of_outcome ha trivial (.refl w) rfl

theorem looks_mapM {f : α → Eval β} (h : ∀ a, Looks w (f a)) (l : List α) : Looks w (l.mapM f) := by
  induction l with
  | nil => exact ⟨[], rfl⟩
  | cons a l ih =>
    rw [List.mapM_cons]
    exact (h a).bind fun _ => ih.bind fun _ => ⟨_, rfl⟩

theorem looks_visibleNames (env : Env) (w : World) : Looks w (visibleNames env) := by
  unfold visibleNames visibleLocals
  refine Looks.bind ⟨_, rfl⟩ fun c => Looks.bind (Looks.bind ?_ fun _ => ⟨_, rfl⟩) fun _ => ⟨_, rfl⟩
  refine looks_mapM ?_ env.scopes.visible
  exact fun _ => ⟨_, rfl⟩

theorem looks_tagVariables (counts : (env.scopes.find? "loop").isSome = true) : Looks w (tagVariables env) := by
  obtain ⟨slot, hs⟩ := Option.isSome_iff_exists.mp counts
  unfold tagVariables lookup?
  rw [hs]
  refine (looks_visibleNames env w).bind fun names => Looks.bind ⟨_, rfl⟩ fun v => ?_
  rcases v with _ | v
  · exact ⟨_, rfl⟩
  · cases v <;> exact ⟨_, rfl⟩

/-- A slot of the frame that the environment stands in. -/
theorem outcome_readSlot_own {f : Frame} {slot : Slot} (at_frame : w.frames[env.frame]? = some f)
    (own : f.base ≤ slot.depth) : outcome (readSlot env slot) w = (.ok (f.read slot), w) := by
  have small : env.frame < w.frames.size := (Array.getElem?_eq_some_iff.mp at_frame).1
  have found : w.frameFor slot.depth w.frames.size env.frame = env.frame := by
    obtain ⟨n, hn⟩ : ∃ n, w.frames.size = n + 1 := Nat.exists_eq_add_one.mpr (Nat.zero_lt_of_lt small)
    rw [hn, World.frameFor, at_frame]
    dsimp only
    cases f.outer with
    | none => rfl
    | some outer =>
      dsimp only
      rw [decide_eq_true own, Bool.true_or]
      rfl
  show (Except.ok ((w.frames.getD (w.frameFor slot.depth w.frames.size env.frame) _).read slot), w) = _
  rw [found, Array.getD_eq_getD_getElem?, at_frame]
  rfl

end Reading

/-! ## Frames as they are entered -/

def World.withFrame (w : World) (f : Frame) : World := { w with frames := w.frames.push f }

def Frame.startRead (f : Frame) (env : Env) (c : Context) : Option String → Frame
  | none => f
  | some id => f.start (env.own id) (c.resolve? id)

section Entering

variable {env : Env} {w : World} {c : Context}

theorem getElem?_withFrame (w : World) (f : Frame) : (w.withFrame f).frames[w.frames.size]? = some f :=
  Array.getElem?_push_size

theorem modify_push {α : Type} (xs : Array α) (x : α) (u : α → α) : (xs.push x).modify xs.size u = xs.push (u x) := by
  apply Array.ext_getElem?
  intro i
  rw [Array.getElem?_modify, Array.getElem?_push, Array.getElem?_push]
  split
  · next same => simp [same]
  · next other => rw [if_neg (Ne.symm other), if_neg (Ne.symm other)]

theorem outcome_modifyFrame_newest (newest : env.frame = w.frames.size) (f : Frame) (u : Frame → Frame) :
    outcome (modifyFrame env.frame u) (w.withFrame f) = (.ok (), w.withFrame (u f)) := by
  show (Except.ok (), { w with frames := (w.frames.push f).modify env.frame u }) = _
  rw [newest, modify_push]
  rfl

/-- A scope with parameters, and at most one name that it reads from the context. -/
theorem outcome_enter_newest (env : Env) (params : List String) (read : Option String)
    (newest : env.frame = w.frames.size) (given : w.contexts[env.context]? = some c)
    (names : env.ownNames = params.map (·, Origin.param) ++ read.toList.map (·, Origin.resolve)) (f : Frame) :
    outcome (enter env) (w.withFrame f) = (.ok (), w.withFrame (f.startRead env c read)) := by
  have allSet : env.ownNames.partition (fun e => e.2 == .unset) = ([], env.ownNames) := by
    have none_unset : ∀ e ∈ env.ownNames, (e.2 == Origin.unset) = false := by
      rw [names]
      intro e he
      rcases List.mem_append.mp he with h | h <;> obtain ⟨id, -, rfl⟩ := List.mem_map.mp h <;> rfl
    rw [List.partition_eq_filter_filter, List.filter_eq_nil_iff.mpr (by simpa using none_unset),
      List.filter_eq_self.mpr (by simpa using none_unset)]
  have skipped (ids : List String) (rest : List (String × Origin)) :
      outcome ((ids.map (·, Origin.param) ++ rest).forM fun e => startName env e.1 e.2) (w.withFrame f) =
        outcome (rest.forM fun e => startName env e.1 e.2) (w.withFrame f) := by
    induction ids with
    | nil => rfl
    | cons id ids ih => exact ih
  unfold enter
  rw [allSet]
  dsimp only
  rw [List.append_nil, names, skipped]
  cases read with
  | none => rfl
  | some id =>
    have context : outcome (contextValue? env id) (w.withFrame f) = (.ok (c.resolve? id), w.withFrame f) := by
      show (Except.ok ((w.contexts.getD env.context ⟨none, {}, {}, [], {}, none⟩).resolve? id), w.withFrame f) = _
      rw [Array.getD_eq_getD_getElem?, given]
      rfl
    show outcome (startName env id .resolve >>= fun _ => pure ()) _ = _
    unfold startName
    dsimp only
    rw [outcome_bind, outcome_bind, context]
    dsimp only
    rw [outcome_modifyFrame_newest newest]
    rfl

theorem read_start_self (f : Frame) (slot : Slot) (v : Option Value) : (f.start slot v).read slot = v := by
  cases v with
  | none => simp [Frame.start, Frame.clear, Frame.read, Table.find?_erase_self]
  | some v => simp [Frame.start, Frame.clear, Frame.read, Table.find?_erase_self, Table.find?_insert_self]

theorem read_start_of_ne (f : Frame) {slot other : Slot} (v : Option Value) (h : slot ≠ other) :
    (f.start slot v).read other = f.read other := by
  cases v with
  | none => simp [Frame.start, Frame.clear, Frame.read, Table.find?_erase_of_ne _ h]
  | some v => simp [Frame.start, Frame.clear, Frame.read, Table.find?_erase_of_ne _ h, Table.find?_insert_of_ne _ _ h]

theorem base_start (f : Frame) (slot : Slot) (v : Option Value) : (f.start slot v).base = f.base := by
  cases v <;> rfl

theorem outer_start (f : Frame) (slot : Slot) (v : Option Value) : (f.start slot v).outer = f.outer := by
  cases v <;> rfl

theorem parent_start (f : Frame) (slot : Slot) (v : Option Value) : (f.start slot v).parent = f.parent := by
  cases v <;> rfl

theorem base_startRead (f : Frame) (env : Env) (c : Context) (read : Option String) :
    (f.startRead env c read).base = f.base := by
  cases read with
  | none => rfl
  | some id => exact base_start f _ _

theorem outer_startRead (f : Frame) (env : Env) (c : Context) (read : Option String) :
    (f.startRead env c read).outer = f.outer := by
  cases read with
  | none => rfl
  | some id => exact outer_start f _ _

theorem parent_startRead (f : Frame) (env : Env) (c : Context) (read : Option String) :
    (f.startRead env c read).parent = f.parent := by
  cases read with
  | none => rfl
  | some id => exact parent_start f _ _

end Entering

/-! ## Texts as templates -/

def textContext (w : World) (c : Compiled) (vars : Table String Value) : Context :=
  { name := c.name, parent := globals.update vars, blocks := blockTable (.text c) c.blocks, escape := some w.escapes.size }

def World.withText (w : World) (c : Compiled) (vars : Table String Value) : World :=
  { w with escapes := w.escapes.push (.bool w.settings.escape), contexts := w.contexts.push (textContext w c vars) }

def textEnv (w : World) (c : Compiled) : Env :=
  { script := .text c, context := w.contexts.size, frame := w.frames.size, scopes := Scopes.unit ["self"] c.body,
    escape := ⟨w.settings.escape, false⟩, top := true, dropping := if c.inherits then some w.frames.size else none }

def textFrame (w : World) (c : Compiled) (vars : Table String Value) (read : Option String) : Frame :=
  ({ base := 0, outer := none } : Frame).startRead (textEnv w c) (textContext w c vars) read

section Texts

variable {w : World} {c : Compiled} {vars : Table String Value} {read : Option String} {k : Nat}

theorem kept_withText : Kept w (w.withText c vars) := .context w _ _

theorem context_withText : (w.withText c vars).contexts[(textEnv w c).context]? = some (textContext w c vars) :=
  Array.getElem?_push_size

def finishText (I : Interp) (env : Env) (out : Output) : Eval String := do
  match (← frame env.frame).parent with
  | some parent => (out ++ (← deeper 1 (I.template (.file parent) env.context))).joined
  | none => out.joined

theorem outcome_finishText {I : Interp} {env : Env} {f : Frame} (held : w.frames[env.frame]? = some f)
    (alone : f.parent = none) (s : String) : outcome (finishText I env (.ofText s)) w = (.ok s, w) := by
  have found : outcome (frame env.frame) w = (.ok f, w) := by
    show (Except.ok (w.frames.getD env.frame _), w) = _
    rw [Array.getD_eq_getD_getElem?, held]
    rfl
  unfold finishText
  rw [outcome_bind, found]
  dsimp only
  rw [alone]
  rfl

/-- A text is rendered by entering its scope and running its statements. -/
theorem outcome_renderTemplate_entered {f : Frame} (unnamed : isFree "self" c.body = false)
    (start : outcome (enter (textEnv w c)) ((w.withText c vars).withFrame { base := 0, outer := none }) =
      (.ok (), (w.withText c vars).withFrame f)) :
    outcome (renderTemplate (interp (k + 1)) (.text c) vars) w =
      outcome (runAll (interp k) (textEnv w c) c.body >>= finishText (interp k) (textEnv w c))
        ((w.withText c vars).withFrame f) := by
  show outcome ((giveSpecial (textEnv w c) c.body "self" _ >>= fun _ => runToParent (interp k) (textEnv w c) c.body) >>=
    Output.joined) ((w.withText c vars).withFrame { base := 0, outer := none }) = _
  unfold giveSpecial runToParent
  rw [unnamed, if_neg Bool.false_ne_true, pure_bind]
  simp only [bind_assoc]
  rw [outcome_bind, start]
  dsimp only
  rw [outcome_bind, outcome_bind]
  rcases outcome (runAll (interp k) (textEnv w c) c.body) _ with ⟨f | out, w₁⟩
  · rfl
  · dsimp only
    unfold finishText
    rw [outcome_bind, outcome_bind]
    rcases outcome (frame (textEnv w c).frame) w₁ with ⟨f | f, w₂⟩
    · rfl
    · dsimp only
      cases f.parent with
      | none => rfl
      | some parent => simp only [bind_assoc, pure_bind]

/-- A text that only reads names is rendered by running its statements. -/
theorem outcome_renderTemplate (read : Option String) (unnamed : isFree "self" c.body = false)
    (names : (textEnv w c).ownNames = read.toList.map (·, Origin.resolve)) :
    outcome (renderTemplate (interp (k + 1)) (.text c) vars) w =
      outcome (runAll (interp k) (textEnv w c) c.body >>= finishText (interp k) (textEnv w c))
        ((w.withText c vars).withFrame (textFrame w c vars read)) :=
  outcome_renderTemplate_entered unnamed
    (outcome_enter_newest (w := w.withText c vars) (textEnv w c) [] read rfl context_withText names _)

/-- A text that finds no parent is rendered by running its statements. -/
theorem yields_renderTemplate (read : Option String) (unnamed : isFree "self" c.body = false)
    (names : (textEnv w c).ownNames = read.toList.map (·, Origin.resolve)) {s : String}
    (runs : Yields ((w.withText c vars).withFrame (textFrame w c vars read)) (runAll (interp k) (textEnv w c) c.body)
      (· = .ofText s)) : Yields w (renderTemplate (interp (k + 1)) (.text c) vars) (· = s) := by
  obtain ⟨out, w₁, run, rfl, kept, level⟩ := runs
  have still : w₁.frames[(textEnv w c).frame]? = some (textFrame w c vars read) :=
    kept.frames (getElem?_withFrame (w.withText c vars) _)
  refine ⟨s, w₁, ?_, rfl, (kept_withText.trans (.frame _ _)).trans kept, level⟩
  rw [outcome_renderTemplate read unnamed names, outcome_bind, run]
  exact outcome_finishText still (parent_startRead _ _ _ _) s

theorem yields_compileText {name source : String} (faithful : w.Faithful) (can : w.CanHave name source)
    (compiled : compiledText w.settings w.registry.listTags none none source = .ok c) :
    Yields w (compileText name source) (· = c) := by
  obtain ⟨texts, log, run, faithful'⟩ := outcome_compileText_faithful faithful can
  rw [compiled] at run
  exact .of_outcome run rfl ⟨rfl, rfl, fun _ => faithful', id, id, id⟩ rfl

/-- A text is compiled and rendered. -/
theorem yields_render {name source : String} (read : Option String) (faithful : w.Faithful) (can : w.CanHave name source)
    (shallow : w.depth + 3 ≤ callLimit) (compiled : compiledText w.settings w.registry.listTags none none source = .ok c)
    (unnamed : isFree "self" c.body = false)
    (names : ∀ w, (textEnv w c).ownNames = read.toList.map (·, Origin.resolve)) {s : String}
    (runs : ∀ w₁, Kept w w₁ → Yields ((w₁.withText c vars).withFrame (textFrame w₁ c vars read))
      (runAll (interp k) (textEnv w₁ c) c.body) (· = .ofText s)) :
    Yields w ((interp (k + 2)).render name vars source) (· = s) := by
  show Yields w (compileText name source >>= fun c => deeper 3 (renderTemplate (interp (k + 1)) (.text c) vars)) _
  refine (yields_compileText faithful can compiled).bind fun c' w₁ same kept level => ?_
  rw [same]
  exact .deeper (level ▸ shallow) (yields_renderTemplate read unnamed (names _) (runs _ (kept.trans (.depth w₁ _))))

end Texts

/-! ## The second pass -/

theorem append_empty (o : Output) : o ++ ({} : Output) = o := by
  show Output.append o {} = o
  unfold Output.append
  rw [String.append_empty, String.append_empty, Bool.or_false, Bool.or_false]

section SecondPass

variable {w : World} {k : Nat}

theorem runAll_single (I : Interp) (env : Env) (node : Node) : runAll I env [node] = run I env node := by
  rw [runAll, runAll]
  simp only [pure_bind, append_empty, bind_pure]

theorem yields_single {I : Interp} {env : Env} {node : Node} {out : Output} (runs : Yields w (run I env node) (· = out)) :
    Yields w (runAll I env [node]) (· = out) := by
  rw [runAll_single]
  exact runs

theorem outcome_fixed {I : Interp} {env : Env} (shown : env.dropping = none) (text : String) :
    outcome (run I env (.output [.fixed text none])) w = (.ok (.ofText text), w) := by
  unfold run isDropped
  rw [shown]
  show (Except.ok (Output.ofText (text ++ "")), w) = _
  rw [String.append_empty]

theorem yields_fixed {I : Interp} {env : Env} (shown : env.dropping = none) (text : String) :
    Yields w (run I env (.output [.fixed text none])) (· = .ofText text) :=
  .of_outcome (outcome_fixed shown text) rfl (.refl w) rfl

/-- Text without delimiters is itself, as the layout prepares it. -/
theorem yields_render_clear {name : String} {cs : List Char} (faithful : w.Faithful) (can : w.CanHave name (String.ofList cs))
    (shallow : w.depth + 3 ≤ callLimit) (clear : Clear (w.settings.layout.prepare cs)) (vars : Table String Value) :
    Yields w ((interp (k + 2)).render name vars (String.ofList cs)) (· = String.ofList (w.settings.layout.prepare cs)) := by
  have compiled := compiledText_clear w.settings w.registry.listTags clear
  generalize w.settings.layout.prepare cs = u at compiled
  cases u with
  | nil => exact yields_render none faithful can shallow compiled rfl (fun _ => rfl) fun _ _ => .ret rfl
  | cons c u =>
    exact yields_render none faithful can shallow compiled rfl (fun _ => rfl) fun _ _ => yields_single (yields_fixed rfl _)

theorem outcome_readName {env : Env} {f : Frame} {slot : Slot} {id : String} {v : Value}
    (found : env.scopes.find? id = some slot) (held : w.frames[env.frame]? = some f) (own : f.base ≤ slot.depth)
    (value : f.read slot = some v) : outcome (readName env id) w = (.ok v, w) := by
  unfold readName lookup?
  rw [found, outcome_bind, outcome_readSlot_own held own, value]
  rfl

/-- A reference is written escaped. -/
theorem outcome_reference {I : Interp} {env : Env} {f : Frame} (slot : Slot) {v : String} (escapes : env.escape = ⟨true, false⟩)
    (shown : env.dropping = none) (found : env.scopes.find? "x" = some slot) (held : w.frames[env.frame]? = some f)
    (own : f.base ≤ slot.depth) (value : f.read slot = some (.text v)) :
    outcome (run I env (.output [.value (.name "x" 1)])) w = (.ok (.ofText (Text.htmlEscape v)), w) := by
  have text : outcome (runPieces I env [.value (.name "x" 1)]) w = (.ok (Text.htmlEscape v), w) := by
    unfold runPieces escapesHere
    rw [escapes]
    show outcome (readName env "x" >>= fun v => written I true v >>= fun s => runPieces I env [] >>= fun t => pure (s ++ t)) w = _
    rw [outcome_bind, outcome_readName found held own value]
    show (Except.ok (Text.htmlEscape v ++ ""), w) = _
    rw [String.append_empty]
  unfold run isDropped
  rw [shown]
  show outcome (runPieces I env [.value (.name "x" 1)] >>= fun s => pure (Output.ofText s)) w = _
  rw [outcome_bind, text]
  rfl

/-- A reference alone, where what it refers to is known. -/
theorem yields_render_reference (faithful : w.Faithful) (room : w.HasRoom) (escapes : w.settings.escape = true) {v : String}
    {vars : Table String Value} (known : (globals.update vars).find? "x" = some (.text v)) (name : String) :
    Yields w ((interp (k + 2)).render name vars (String.ofList referenceText)) (· = Text.htmlEscape v) := by
  refine yields_render (some "x") faithful (.inl room) room.shallow (compiledText_reference w.settings w.registry.listTags) rfl
    (fun _ => rfl) fun w₁ kept => ?_
  refine yields_single (.of_outcome (outcome_reference (slotAt 0 "x") ?_ rfl rfl (getElem?_withFrame _ _) ?_ ?_) rfl
    (.refl _) rfl)
  · show EscapeMode.mk w₁.settings.escape false = _
    rw [kept.settings, escapes]
  · rw [textFrame, base_startRead]
    exact Nat.zero_le _
  · exact (read_start_self _ _ _).trans known

end SecondPass

/-! ## Blocks -/

def firstPass (I : Interp) (env : Env) (tag : Tag) (markup : String) (body : List Node) : Eval Rendered := do
  let macroBody ← newMacro env none blockParams body
  let vars ← tagVariables env
  let call : TagCall := ⟨tag, markup, (← context env.context).name, macroBody⟩
  setDepth ((← currentDepth) + 3)
  if markup != "" then
    writeLog ⟨.debug, "Ignoring arguments of '" ++ tag.name ++ "' tag: " ++ markup⟩
  call.renderBody I vars

theorem follows_firstPass {A : Agreement} {I I' : Interp} (hI : Agreement.Aligned A I I') (env : Env) (tag : Tag)
    (markup : String) (body : List Node) :
    A.Follows A.names.on (firstPass I env tag markup body) (firstPass I' (A.names.on env) tag markup body) := by
  refine (Agreement.sim_newMacro env none blockParams body).follows.bind fun macroBody => ?_
  refine (Agreement.sim_tagVariables env).follows.bind fun vars => (Agreement.sim_context env.context).follows.bind fun c => ?_
  refine Agreement.sim_currentDepth.follows.bind fun depth => ?_
  rw [Nat.add_right_comm]
  refine (Agreement.follows_setDepth (depth + 3)).bind fun _ => ?_
  have body := Agreement.sim_renderBody hI ⟨tag, markup, c.name, macroBody⟩ vars
  refine Coupling.Sim.follows (.branch ((A.write_log _ ?_).bind fun _ => body) body)
  exact LogLine.isCompilation_of_head? (c := 'I') (by simp) (by decide)

def TagCall.noted (call : TagCall) (log : List LogLine) : List LogLine :=
  if call.markup != "" then log ++ [⟨.debug, "Ignoring arguments of '" ++ call.tag.name ++ "' tag: " ++ call.markup⟩]
  else log

def Decided (env : Env) (w : World) (b : Bool) : Prop :=
  ∃ c cell, w.contexts[env.context]? = some c ∧ c.escape = some cell ∧ w.escapes[cell]? = some (.bool b)

theorem Decided.kept {env : Env} {w w' : World} {b : Bool} (h : Decided env w b) (kept : Kept w w') : Decided env w' b := by
  obtain ⟨c, cell, hc, he, hb⟩ := h
  exact ⟨c, cell, kept.contexts hc, he, kept.escapes hb⟩

theorem Decided.outcome_escapeValue {env : Env} {w : World} {b : Bool} (h : Decided env w b) :
    outcome (escapeValue env.context) w = (.ok (.bool b), w) := by
  obtain ⟨c, cell, hc, he, hb⟩ := h
  show (Except.ok (((w.contexts[env.context]?).bind fun c => c.escape.bind fun cell => w.escapes[cell]?).getD _), w) = _
  rw [hc, Option.bind_some, he, Option.bind_some, hb]
  rfl

section Blocks

variable {I : Interp} {env : Env} {tag : Tag} {markup : String} {body : List Node} {w w₁ : World}

/-- Tag variables are looked up without a change of the world, or the name `loop` is unbound. -/
theorem tagVariables_cases (env : Env) (w : World) :
    (∃ vars, outcome (tagVariables env) w = (.ok vars, w)) ∨ ∃ f, outcome (tagVariables env) w = (.error f, w) := by
  cases found : env.scopes.find? "loop" with
  | some slot => exact .inl (looks_tagVariables (by rw [found]; rfl))
  | none =>
    refine .inr ⟨.unboundName "loop", ?_⟩
    obtain ⟨names, hn⟩ := looks_visibleNames env w
    unfold tagVariables lookup?
    rw [outcome_bind, hn, found]
    rfl

theorem outcome_needRenderer (call : TagCall) (w : World) : outcome call.needRenderer w =
    (if w.registry.connected.contains call.tag.owner then .ok () else .error .unconnected, w) := by
  show outcome (if (!w.registry.connected.contains call.tag.owner) = true then throw .unconnected else pure ()) w = _
  cases w.registry.connected.contains call.tag.owner <;> rfl

theorem outcome_needRenderer_connected (call : TagCall) {w : World} (connected : w.registry.connected.contains call.tag.owner = true) :
    outcome call.needRenderer w = (.ok (), w) := by
  rw [outcome_needRenderer, if_pos connected]

def firstPassed (tag name source : String) : LogLine :=
  ⟨.debug, "First pass of '" ++ tag ++ "' in '" ++ shownName name ++ "' produced " ++ toString source.length ++ " chars"⟩

def TagCall.measured (call : TagCall) (source : String) (log : List LogLine) : List LogLine :=
  log ++ [firstPassed call.tag.name call.nameText source]

/-- What follows a first pass that gave a text. -/
theorem outcome_bothPasses {call : TagCall} {vars vars₁ : Table String Value} {text : Value} {source : String}
    (first : outcome (call.renderBody I vars) w = (.ok (text, vars₁), w₁)) (isText : textOf? text = some source) :
    outcome (call.bothPasses I vars) w =
      outcome (do
        call.needRenderer
        let s ← deeper 2 (I.render call.nameText vars₁ source)
        return Value.text s) { w₁ with log := call.measured source w₁.log } := by
  have measured : outcome (size I text) w₁ = (.ok source.length, w₁) := by
    cases text with
    | text s | safe s =>
      cases isText
      rfl
    | _ => cases isText
  unfold TagCall.bothPasses
  refine (outcome_bind_of first).trans ((outcome_bind_of measured).trans ?_)
  refine (outcome_bind_of (show outcome (writeLog _) w₁ = (.ok (), _) from rfl)).trans ?_
  unfold TagCall.renderAgain
  rw [isText]
  rfl

theorem outcome_renderTwice (call : TagCall) (vars : Table String Value) (w : World) :
    outcome (call.renderTwice I vars) w = outcome (call.bothPasses I vars) { w with log := call.noted w.log } := by
  unfold TagCall.renderTwice TagCall.noted
  split <;> rfl

def blockCall (env : Env) (tag : Tag) (markup : String) (body : List Node) (w : World) : TagCall :=
  ⟨tag, markup, (w.contexts.getD env.context ⟨none, {}, {}, [], {}, none⟩).name, none, blockParams, body, env,
    ((w.contexts[env.context]?).bind fun c => c.escape.bind fun cell => w.escapes[cell]?).getD (.bool false),
    anyLeaks body⟩

theorem outcome_firstPass {vars : Table String Value} (seen : outcome (tagVariables env) w = (.ok vars, w)) :
    outcome (firstPass I env tag markup body) w = outcome ((blockCall env tag markup body w).renderBody I vars)
      { w with depth := w.depth + 3, log := (blockCall env tag markup body w).noted w.log } := by
  have made : outcome (newMacro env none blockParams body) w = (.ok (blockCall env tag markup body w).body, w) := rfl
  unfold firstPass
  rw [outcome_bind, made]
  dsimp only
  rw [outcome_bind, seen]
  dsimp only
  unfold TagCall.noted
  rw [show (blockCall env tag markup body w).markup = markup from rfl]
  rw [outcome_bind, show outcome (context env.context) w = (.ok _, w) from rfl]
  dsimp only
  rw [outcome_bind, show outcome currentDepth w = (.ok _, w) from rfl]
  dsimp only
  rw [outcome_bind, show ∀ n, outcome (setDepth n) w = (.ok (), { w with depth := n }) from fun _ => rfl]
  dsimp only
  split <;> rfl

/-- What follows the first pass: the text is rendered, and what comes of that is written as it is. -/
theorem outcome_runTag {text : Value} {vars : Table String Value} {source : String}
    (twice : tag.action = .renderTwice) (shallow : w.depth + 3 ≤ callLimit)
    (first : outcome (firstPass I env tag markup body) w = (.ok (text, vars), w₁)) (isText : textOf? text = some source) :
    outcome (runTag I env tag markup body) w = outcome (do
      (blockCall env tag markup body w).needRenderer
      let s ← deeper 2 (I.render (blockCall env tag markup body w).nameText vars source)
      setDepth w.depth
      let _ ← escapesNow I env
      return .ofText s) { w₁ with log := (blockCall env tag markup body w).measured source w₁.log } := by
  obtain ⟨vars₀, seen⟩ | ⟨f, unseen⟩ := tagVariables_cases env w
  case inr =>
    unfold firstPass at first
    rw [outcome_bind, show outcome (newMacro env none blockParams body) w = (.ok _, w) from rfl] at first
    dsimp only at first
    rw [outcome_bind, unseen] at first
    cases first
  rw [outcome_firstPass seen] at first
  have ran := outcome_bothPasses first isText
  have result : outcome (deeper 3 ((blockCall env tag markup body w).run I vars₀)) w =
      outcome (do
        (blockCall env tag markup body w).needRenderer
        let s ← deeper 2 (I.render (blockCall env tag markup body w).nameText vars source)
        setDepth w.depth
        return .text s) { w₁ with log := (blockCall env tag markup body w).measured source w₁.log } := by
    rw [outcome_deeper shallow, outcome_bind, TagCall.run,
      show (blockCall env tag markup body w).tag.action = .renderTwice from twice]
    dsimp only
    rw [outcome_renderTwice, ran, ← outcome_bind]
    simp only [bind_assoc]
    rfl
  have made : outcome (newMacro env none ⟨[bodyLocals], []⟩ body) w = (.ok (blockCall env tag markup body w).body, w) := rfl
  unfold runTag
  refine (outcome_bind_of made).trans ((outcome_bind_of seen).trans ?_)
  refine (outcome_bind_of (show outcome (context env.context) w = (.ok _, w) from rfl)).trans ?_
  rw [show (⟨tag, markup, (w.contexts.getD env.context ⟨none, {}, {}, [], {}, none⟩).name,
    (blockCall env tag markup body w).body⟩ : TagCall) = blockCall env tag markup body w from rfl]
  rw [outcome_bind, result, ← outcome_bind]
  simp only [bind_assoc, pure_bind]
  congr 1
  refine bind_congr fun _ => bind_congr fun s => bind_congr fun _ => bind_congr fun b => ?_
  cases b <;> rfl

theorem Decided.outcome_escapesNow {b : Bool} (h : Decided env w b) : outcome (escapesNow I env) w = (.ok b, w) := by
  unfold escapesNow
  rw [outcome_bind, h.outcome_escapeValue]
  rfl

/-- A block ends as its second pass does, where it is settled whether results are escaped. -/
theorem outcome_runTag_second {text : Value} {vars : Table String Value} {source : String} (twice : tag.action = .renderTwice)
    (shallow : w.depth + 3 ≤ callLimit)
    (first : outcome (firstPass I env tag markup body) w = (.ok (text, vars), w₁)) (isText : textOf? text = some source)
    (connected : w₁.registry.connected.contains tag.owner = true) (low : w₁.depth + 2 ≤ callLimit) :
    let call := blockCall env tag markup body w
    let w₂ : World := { w₁ with log := call.measured source w₁.log, depth := w₁.depth + 2 }
    (∀ x v, outcome (I.render call.nameText vars source) w₂ = (.error x, v) →
        outcome (runTag I env tag markup body) w = (.error x, v)) ∧
      ∀ s v b, outcome (I.render call.nameText vars source) w₂ = (.ok s, v) → Decided env v b →
        outcome (runTag I env tag markup body) w = (.ok (.ofText s), { v with depth := w.depth }) := by
  intro call w₂
  have ran := outcome_runTag twice shallow first isText
  have sinks : outcome (deeper 2 (I.render call.nameText vars source)) { w₁ with log := call.measured source w₁.log } = _ :=
    outcome_deeper low
  rw [outcome_bind_of (outcome_needRenderer_connected _ connected), outcome_bind, sinks, outcome_bind] at ran
  refine ⟨fun x v second => ?_, fun s v b second decided => ?_⟩
  · rw [ran, second]
  · have decided' : Decided env { v with depth := w.depth } b := decided
    rw [ran, second]
    exact outcome_bind_of decided'.outcome_escapesNow

/-- A block both of whose passes have a result has only to ask whether results are escaped. -/
theorem runTag_of_passes {text : Value} {vars : Table String Value} {source out : String}
    (twice : tag.action = .renderTwice) (shallow : w.depth + 3 ≤ callLimit)
    (first : outcome (firstPass I env tag markup body) w = (.ok (text, vars), w₁)) (isText : textOf? text = some source)
    (connected : w₁.registry.connected.contains tag.owner = true) (low : w₁.depth + 2 ≤ callLimit)
    (second : ∀ w₂ name, Kept w₁ w₂ → w₂.depth = w₁.depth + 2 → Yields w₂ (I.render name vars source) (· = out)) :
    ∃ w₂, Kept w₁ w₂ ∧ w₂.depth = w.depth ∧ outcome (runTag I env tag markup body) w =
      outcome (do
        let _ ← escapesNow I env
        return .ofText out) w₂ := by
  have ran := outcome_runTag twice shallow first isText
  generalize (blockCall env tag markup body w).measured source w₁.log = log at ran
  have again : Yields { w₁ with log } (deeper 2 (I.render (blockCall env tag markup body w).nameText vars source))
      (· = out) :=
    Yields.deeper low (second _ _ ((Kept.log w₁ log).trans (.depth _ _)) rfl)
  obtain ⟨s, w₂, run, rfl, kept, -⟩ := again
  refine ⟨{ w₂ with depth := w.depth }, ((Kept.log w₁ log).trans kept).trans (.depth w₂ _), rfl, ?_⟩
  rw [ran]
  refine (outcome_bind_of (outcome_needRenderer_connected _ connected)).trans ((outcome_bind_of run).trans ?_)
  exact outcome_bind_of (show outcome (setDepth w.depth) w₂ = (.ok (), _) from rfl)

/-- A block is handed to the tag that has its name when the block is reached. -/
theorem outcome_tagBlock {k : Nat} {id : String} (found : w.registry.getTag? id = some tag) :
    outcome (run (interp (k + 1)) env (.tagBlock id markup body)) w =
      outcome (runTag (interp k) env tag markup body) w := by
  unfold run
  rw [outcome_bind, show outcome currentRegistry w = (.ok w.registry, w) from rfl]
  dsimp only
  rw [found]
  rfl

end Blocks

/-! ## Bodies -/

def blockMacro (env : Env) (body : List Node) (escape : Value) : Macro :=
  ⟨none, blockParams, body ++ [.collect], env, escape, anyLeaks (body ++ [.collect])⟩

structure Plain (env : Env) (read : Option String) (body : List Node) : Prop where
  special : Unspecial body
  sealed : anyLeaks (body ++ [.collect]) = false
  scopes : Scopes.functionBody env.scopes blockParams (body ++ [.collect]) =
    blockScope env.scopes (read.toList.map (·, .resolve)) :: env.scopes
  apart : ∀ id ∈ read, Text.normal id ≠ Text.normal bodyLocals

def bodyEnv (env : Env) (read : Option String) (w : World) : Env :=
  { env.inner (blockScope env.scopes (read.toList.map (·, .resolve)) :: env.scopes) with
    frame := w.frames.size, dropping := none, captures := true }

def bodyFrame (env : Env) (read : Option String) (w : World) (c : Context) (collected : Ref) : Frame :=
  (({ base := env.scopes.nextDepth, outer := some env.frame } : Frame).give
    ((bodyEnv env read w).own bodyLocals) (.dict collected)).startRead (bodyEnv env read w) c read

section Bodies

variable {I : Interp} {env : Env} {w : World} {c : Context} {read : Option String} {collected : Ref}
variable {body : List Node} {escape : Value}

theorem bodyFrame_base : (bodyFrame env read w c collected).base = env.scopes.nextDepth := base_startRead _ _ _ _

theorem bodyFrame_bodyLocals (apart : ∀ id ∈ read, Text.normal id ≠ Text.normal bodyLocals) :
    (bodyFrame env read w c collected).read ((bodyEnv env read w).own bodyLocals) = some (.dict collected) := by
  have given : ∀ f : Frame, (f.give ((bodyEnv env read w).own bodyLocals) (.dict collected)).read
      ((bodyEnv env read w).own bodyLocals) = some (.dict collected) := by
    intro f
    rw [Frame.read, Frame.give, Table.find?_insert_self, Option.some_or]
  unfold bodyFrame Frame.startRead
  cases read with
  | none => exact given _
  | some id =>
    refine (read_start_of_ne _ _ fun same => apart id rfl ?_).trans (given _)
    exact congrArg Slot.id same

theorem bodyFrame_read {id : String} :
    (bodyFrame env (some id) w c collected).read ((bodyEnv env (some id) w).own id) = c.resolve? id :=
  read_start_self _ _ _

theorem looks_putAll (entries : List (Value × Value)) (names : List (String × Value)) :
    Looks w (putAll entries (names.map fun e => (Value.text e.1, e.2))) := by
  unfold putAll
  induction names generalizing entries with
  | nil => exact ⟨entries, rfl⟩
  | cons e names ih =>
    rw [List.map_cons, List.foldlM_cons]
    exact Looks.bind ⟨_, rfl⟩ ih

/-- At its end a body puts the names that it can see into its map. -/
theorem outcome_collect {names : Table String Value} {more : List (Value × Value)} (room : w.depth + 7 ≤ callLimit)
    (read : outcome (readName env bodyLocals) w = (.ok (.dict collected), w))
    (seen : outcome (visibleNames env) w = (.ok names, w))
    (put : outcome (putAll (w.dictEntries collected) (names.entries.map fun e => (Value.text e.1, e.2))) w = (.ok more, w)) :
    outcome (run I env .collect) w = (.ok {}, { w with
      objects := w.objects.modify collected (.withEntries (more.filter fun e => !keyEqual e.1 (.text bodyLocals))) }) := by
  unfold run collectNames
  rw [outcome_bind, outcome_bind_of (outcome_needRoom_of room), outcome_bind, read]
  dsimp only
  rw [outcome_bind, seen]
  dsimp only
  rw [outcome_bind, show outcome (dictEntries collected) w = (.ok (w.dictEntries collected), w) from rfl]
  dsimp only
  rw [outcome_bind, put]
  rfl

theorem exists_collect {f : Frame} {slot : Slot} (room : w.depth + 7 ≤ callLimit) (found : env.scopes.find? bodyLocals = some slot)
    (held : w.frames[env.frame]? = some f) (own : f.base ≤ slot.depth) (value : f.read slot = some (.dict collected)) :
    ∃ objects, outcome (run I env .collect) w = (.ok {}, { w with objects }) := by
  obtain ⟨names, seen⟩ := looks_visibleNames env w
  obtain ⟨more, put⟩ := looks_putAll (w := w) (w.dictEntries collected) names.entries
  exact ⟨_, outcome_collect room (outcome_readName found held own value) seen put⟩

theorem find?_bodyLocals : (bodyEnv env read w).scopes.find? bodyLocals = some ((bodyEnv env read w).own bodyLocals) := by
  show Scopes.find? (blockScope env.scopes (read.toList.map (·, .resolve)) :: env.scopes) bodyLocals = _
  rw [Scopes.find?, if_pos]
  · rfl
  · show (Table.find? ⟨(bodyLocals, Origin.param) :: _⟩ bodyLocals).isSome = true
    rw [Table.find?, Table.findEntries?, if_pos (BEq.rfl)]
    rfl

/-- The body of a block runs in a frame of its own, in which it finds the map for its names. -/
theorem outcome_runMacroBody (plain : Plain env read body) (given : w.contexts[env.context]? = some c) :
    outcome (runMacroBody I (blockMacro env body escape) [(bodyLocals, some (.dict collected))]) w =
      outcome (I.nodes (bodyEnv env read w) (body ++ [.collect])) (w.withFrame (bodyFrame env read w c collected)) := by
  have give : outcome (giveName (bodyEnv env read w) bodyLocals (.dict collected))
      (w.withFrame { base := env.scopes.nextDepth, outer := some env.frame }) = (.ok (), w.withFrame
        (({ base := env.scopes.nextDepth, outer := some env.frame } : Frame).give
          ((bodyEnv env read w).own bodyLocals) (.dict collected))) := outcome_modifyFrame_newest rfl _ _
  have start : outcome (enter (bodyEnv env read w)) (w.withFrame
      (({ base := env.scopes.nextDepth, outer := some env.frame } : Frame).give
        ((bodyEnv env read w).own bodyLocals) (.dict collected))) =
      (.ok (), w.withFrame (bodyFrame env read w c collected)) :=
    outcome_enter_newest (bodyEnv env read w) [bodyLocals] read rfl given rfl _
  have found : outcome (lookup? (bodyEnv env read w) bodyLocals) (w.withFrame (bodyFrame env read w c collected)) =
      (.ok (some (.dict collected)), w.withFrame (bodyFrame env read w c collected)) := by
    unfold lookup?
    rw [find?_bodyLocals]
    dsimp only
    rw [outcome_readSlot_own (getElem?_withFrame _ _), bodyFrame_bodyLocals plain.apart]
    rw [bodyFrame_base]
    rfl
  have filled : outcome (fillDefaults I (bodyEnv env read w) blockParams 0 [bodyLocals])
      (w.withFrame (bodyFrame env read w c collected)) = (.ok (), w.withFrame (bodyFrame env read w c collected)) := by
    unfold fillDefaults
    rw [outcome_bind, found]
    rfl
  unfold runMacroBody blockMacro
  rw [plain.scopes]
  refine (outcome_bind_of (show outcome (newFrame _) w = (.ok w.frames.size, w.withFrame _) from rfl)).trans ?_
  refine (outcome_bind_of ((outcome_bind_of give).trans rfl)).trans ?_
  refine (outcome_bind_of start).trans ?_
  exact outcome_bind_of filled

theorem outcome_bindArguments (special : Unspecial body) (v : Value) :
    outcome (bindArguments (blockMacro env body escape) [v] []) w = (.ok [(bodyLocals, some v)], w) := by
  have uncalled : ∀ args byName, wantsCaller (blockMacro env body escape) args byName = false := by
    intro args byName
    rw [wantsCaller, blockMacro, special "caller" (by decide), Bool.false_and]
  have unfilled : Scopes.specialParams (blockMacro env body escape).params (blockMacro env body escape).body = [] :=
    specialParams_eq_nil special
  unfold bindArguments
  rw [unfilled]
  simp only [uncalled]
  rfl

def bodyText (b : Bool) (text : String) : Value := if b then .safe text else .text text

/-- A body whose text is known gives it. -/
theorem outcome_callMacro {k : Nat} {text : String} {b : Bool} {w₁ : World} (plain : Plain env read body)
    (given : w.contexts[env.context]? = some c) (shallow : w.depth + 4 ≤ callLimit)
    (runs : outcome (runAll (interp k) (bodyEnv env read w) (body ++ [.collect]))
      ({ w with depth := w.depth + 4 }.withFrame (bodyFrame env read w c collected)) = (.ok (.ofText text), w₁)) :
    outcome (callMacro (interp (k + 2)) (blockMacro env body escape) (.bool b) [.dict collected] []) w =
      (.ok (bodyText b text), { w₁ with depth := w.depth }) := by
  have written : outcome (runMacroBody (interp (k + 1)) (blockMacro env body escape) [(bodyLocals, some (.dict collected))])
      { w with depth := w.depth + 4 } = (.ok (.ofText text), w₁) :=
    (outcome_runMacroBody (w := { w with depth := w.depth + 4 }) plain given).trans runs
  have joined : outcome (macroResult (interp (k + 2)) (blockMacro env body escape) [(bodyLocals, some (.dict collected))]) w =
      (.ok (.text text), { w₁ with depth := w.depth }) := by
    unfold macroResult
    rw [show (blockMacro env body escape).leaks = false from plain.sealed, if_neg Bool.false_ne_true, outcome_deeper shallow]
    have act : outcome (do
        return Value.text (← (← (interp (k + 2)).body (blockMacro env body escape) [(bodyLocals, some (.dict collected))]).joined))
        { w with depth := w.depth + 4 } = (.ok (.text text), w₁) := (outcome_bind_of written).trans rfl
    exact outcome_bind_of act
  unfold callMacro
  refine (outcome_bind_of (outcome_bindArguments plain.special _)).trans ((outcome_bind_of joined).trans ?_)
  cases b <;> rfl

theorem outcome_renderBody {call : TagCall} {text : Value} {w₁ : World} (vars : Table String Value)
    (called : outcome (deeper 1 (callMacro I call.body call.body.escape [.dict w.objects.size] []))
      { w with objects := w.objects.push (.dict [] false) } = (.ok text, w₁)) :
    outcome (call.renderBody I vars) w =
      (.ok (text, vars.insertAll (textEntries (w₁.dictEntries w.objects.size))), w₁) := by
  unfold TagCall.renderBody
  rw [outcome_bind, show outcome (alloc _) w = (.ok w.objects.size, _) from rfl]
  dsimp only
  rw [outcome_bind, called]
  rfl

theorem Decided.body_blockCall {b : Bool} (decided : Decided env w b) (tag : Tag) (markup : String) (body : List Node) :
    (blockCall env tag markup (body ++ [.collect]) w).body = blockMacro env body (.bool b) := by
  obtain ⟨c, cell, hc, he, hb⟩ := decided
  unfold blockCall blockMacro
  rw [hc, Option.bind_some, he, Option.bind_some, hb]
  rfl

/-- The first pass gives what its body writes, and hands on the names that it has collected. -/
theorem outcome_firstPass_body {k : Nat} {text : String} {b : Bool} {vars : Table String Value} {w₁ : World} (tag : Tag)
    (plain : Plain env read body) (seen : outcome (tagVariables env) w = (.ok vars, w))
    (given : w.contexts[env.context]? = some c) (decided : Decided env w b) (shallow : w.depth + 8 ≤ callLimit)
    (runs : outcome (runAll (interp k) (bodyEnv env read w) (body ++ [.collect]))
      ({ w with depth := w.depth + 8, objects := w.objects.push (.dict [] false) }.withFrame
        (bodyFrame env read w c w.objects.size)) = (.ok (.ofText text), w₁)) :
    outcome (firstPass (interp (k + 2)) env tag "" (body ++ [.collect])) w =
      (.ok (bodyText b text, vars.insertAll (textEntries (w₁.dictEntries w.objects.size))), { w₁ with depth := w.depth + 3 }) := by
  let w₀ : World := { w with depth := w.depth + 3, objects := w.objects.push (.dict [] false) }
  have called : outcome (callMacro (interp (k + 2)) (blockMacro env body (.bool b)) (.bool b) [.dict w.objects.size] [])
      { w₀ with depth := w.depth + 3 + 1 } = _ := outcome_callMacro plain given shallow runs
  have gives := outcome_deeper_of (w := w₀) (show w.depth + 3 + 1 ≤ callLimit by omega) called
  have passed : outcome (deeper 1 (callMacro (interp (k + 2)) (blockCall env tag "" (body ++ [.collect]) w).body
      (blockCall env tag "" (body ++ [.collect]) w).body.escape [.dict w.objects.size] [])) w₀ =
      (.ok (bodyText b text), { w₁ with depth := w.depth + 3 }) := by
    rw [decided.body_blockCall tag "" body]
    exact gives
  rw [outcome_firstPass seen]
  exact (outcome_renderBody vars passed).trans rfl

theorem outcome_firstPass_plain {k : Nat} {text : String} {b : Bool} (tag : Tag) (plain : Plain env read body)
    (counts : (env.scopes.find? "loop").isSome = true) (given : w.contexts[env.context]? = some c)
    (decided : Decided env w b) (shallow : w.depth + 8 ≤ callLimit)
    (runs : ∀ w₁, Kept w w₁ → w₁.depth = w.depth + 8 → Yields (w₁.withFrame (bodyFrame env read w₁ c w.objects.size))
      (runAll (interp k) (bodyEnv env read w₁) (body ++ [.collect])) (· = .ofText text)) :
    ∃ vars w₁, outcome (firstPass (interp (k + 2)) env tag "" (body ++ [.collect])) w = (.ok (bodyText b text, vars), w₁) ∧
      Kept w w₁ ∧ w₁.depth = w.depth + 3 := by
  obtain ⟨vars, seen⟩ := looks_tagVariables (w := w) counts
  let w₀ : World := { w with depth := w.depth + 8, objects := w.objects.push (.dict [] false) }
  have first : Kept w w₀ := .of_eq rfl rfl rfl rfl rfl rfl
  obtain ⟨out, w₁, run, rfl, kept, -⟩ := runs w₀ first rfl
  exact ⟨_, _, outcome_firstPass_body tag plain seen given decided shallow run,
    ((first.trans (.frame w₀ _)).trans kept).trans (.depth w₁ _), rfl⟩

/-- A statement as the body of a block: the names that can be seen are collected behind it. -/
theorem exists_body {node : Node} {out : Output} {w₁ : World} (room : w₁.depth + 7 ≤ callLimit)
    (apart : ∀ id ∈ read, Text.normal id ≠ Text.normal bodyLocals) (kept : Kept (w.withFrame (bodyFrame env read w c collected)) w₁)
    (runs : outcome (run I (bodyEnv env read w) node) (w.withFrame (bodyFrame env read w c collected)) = (.ok out, w₁)) :
    ∃ objects, outcome (runAll I (bodyEnv env read w) ([node] ++ [.collect])) (w.withFrame (bodyFrame env read w c collected)) =
      (.ok out, { w₁ with objects }) := by
  obtain ⟨objects, collects⟩ := exists_collect (I := I) room find?_bodyLocals
    (kept.frames (getElem?_withFrame w (bodyFrame env read w c collected))) (Nat.le_of_eq bodyFrame_base) (bodyFrame_bodyLocals apart)
  refine ⟨objects, ?_⟩
  rw [← runAll_single] at collects
  rw [List.singleton_append, runAll]
  refine (outcome_bind_of runs).trans ((outcome_bind_of collects).trans ?_)
  rw [append_empty]
  rfl

theorem yields_body {node : Node} {out : Output} (room : w.depth + 7 ≤ callLimit) (apart : ∀ id ∈ read, Text.normal id ≠ Text.normal bodyLocals)
    (runs : Yields (w.withFrame (bodyFrame env read w c collected)) (run I (bodyEnv env read w) node) (· = out)) :
    Yields (w.withFrame (bodyFrame env read w c collected)) (runAll I (bodyEnv env read w) ([node] ++ [.collect]))
      (· = out) := by
  obtain ⟨out, w₁, run, rfl, kept, level⟩ := runs
  obtain ⟨objects, ran⟩ := exists_body (level ▸ room) apart kept run
  exact .of_outcome ran rfl (kept.trans (.objects w₁ objects)) level

theorem textOf?_bodyText (b : Bool) (text : String) : textOf? (bodyText b text) = some text := by
  cases b <;> rfl

theorem plain_fixed (env : Env) (text : String) : Plain env none [.output [.fixed text none]] where
  special := by
    intro id special
    simp only [List.mem_cons, List.not_mem_nil, or_false] at special
    rcases special with rfl | rfl | rfl <;> rfl
  sealed := rfl
  scopes := by
    rw [functionBody_block]
    · rfl
    · intro id special
      simp only [List.mem_cons, List.not_mem_nil, or_false] at special
      rcases special with rfl | rfl | rfl <;> rfl
  apart := by decide

/-- The first pass over a block around a text leaves an object and a frame. -/
theorem outcome_firstPass_fixed {k : Nat} {b : Bool} (tag : Tag) (text : String) (counts : (env.scopes.find? "loop").isSome = true)
    (given : w.contexts[env.context]? = some c) (decided : Decided env w b) (shallow : w.depth + 15 ≤ callLimit) :
    ∃ vars objects f, outcome (firstPass (interp (k + 2)) env tag "" ([.output [.fixed text none]] ++ [.collect])) w =
      (.ok (bodyText b text, vars), { w with depth := w.depth + 3, objects, frames := w.frames.push f }) := by
  have plain := plain_fixed env text
  obtain ⟨vars, seen⟩ := looks_tagVariables (w := w) counts
  let w₀ : World := { w with depth := w.depth + 8, objects := w.objects.push (.dict [] false) }
  have written : outcome (run (interp k) (bodyEnv env none w₀) (.output [.fixed text none]))
      (w₀.withFrame (bodyFrame env none w₀ c w.objects.size)) = _ := outcome_fixed rfl text
  obtain ⟨objects, ran⟩ := exists_body (show w.depth + 15 ≤ callLimit from shallow) plain.apart (.refl _) written
  exact ⟨_, objects, _, outcome_firstPass_body tag plain seen given decided (by omega) ran⟩

section Again

variable {tag : Tag} {k : Nat} {b : Bool} {text : String}

/-- A block around a text for whose second pass there is no room fails behind the first. -/
theorem outcome_block_full (twice : tag.action = .renderTwice) (found : w.registry.getTag? "render" = some tag)
    (connected : w.registry.connected.contains tag.owner = true) (counts : (env.scopes.find? "loop").isSome = true)
    (given : w.contexts[env.context]? = some c) (decided : Decided env w b)
    (clear : Clear (w.settings.layout.prepare text.toList)) (shallow : w.depth + 15 ≤ callLimit)
    (full : callLimit < w.depth + 22)
    (missing : w.texts.find? (blockCall env tag "" ([.output [.fixed text none]] ++ [.collect]) w).nameText text = none) :
    ∃ w' log, outcome (run (interp (k + 3)) env (renderNode [.output [.fixed text none]])) w = (.error (.mishap .tooDeep), w') ∧
      w'.log = (blockCall env tag "" ([.output [.fixed text none]] ++ [.collect]) w).measured text log := by
  obtain ⟨vars, objects, f, first⟩ := outcome_firstPass_fixed (k := k) tag text counts given decided shallow
  let call := blockCall env tag "" ([.output [.fixed text none]] ++ [.collect]) w
  let w₂ : World := { w with depth := w.depth + 5, objects, frames := w.frames.push f, log := call.measured text w.log }
  have read : compiledText w₂.settings w₂.registry.listTags none none text =
      .ok ⟨none, none, fixedTree (w.settings.layout.prepare text.toList), [], false⟩ := by
    have compiled := compiledText_clear w.settings w.registry.listTags clear
    rwa [String.ofList_toList] at compiled
  have deep : ¬ w₂.HasRoom := by
    show ¬ w.depth + 5 + 17 ≤ callLimit
    omega
  have failed := outcome_compileText_deep deep (show w₂.texts.find? call.nameText text = none from missing)
  rw [read] at failed
  have refused : outcome ((interp (k + 2)).render call.nameText vars text) w₂ = (.error (.mishap .tooDeep), w₂) := by
    show outcome (compileText call.nameText text >>= fun c => deeper 3 (renderTemplate (interp (k + 1)) (.text c) vars)) w₂ = _
    rw [outcome_bind, failed]
    rfl
  obtain ⟨fails, -⟩ := outcome_runTag_second twice (by omega) first (textOf?_bodyText b text) connected
    (show w.depth + 3 + 2 ≤ callLimit by omega)
  exact ⟨w₂, w.log, (outcome_tagBlock found).trans (fails _ w₂ refused), rfl⟩

/-- Where the text is kept there is nothing to compile, and the block writes it. -/
theorem yields_block_kept (twice : tag.action = .renderTwice) (found : w.registry.getTag? "render" = some tag)
    (connected : w.registry.connected.contains tag.owner = true) (faithful : w.Faithful)
    (counts : (env.scopes.find? "loop").isSome = true) (given : w.contexts[env.context]? = some c) (decided : Decided env w b)
    (clear : Clear (w.settings.layout.prepare text.toList)) (shallow : w.depth + 15 ≤ callLimit)
    (kept : (w.texts.find? (blockCall env tag "" ([.output [.fixed text none]] ++ [.collect]) w).nameText text).isSome = true) :
    Yields w (run (interp (k + 3)) env (renderNode [.output [.fixed text none]]))
      (· = .ofText (String.ofList (w.settings.layout.prepare text.toList))) := by
  obtain ⟨vars, objects, f, first⟩ := outcome_firstPass_fixed (k := k) tag text counts given decided shallow
  let call := blockCall env tag "" ([.output [.fixed text none]] ++ [.collect]) w
  let w₂ : World := { w with depth := w.depth + 5, objects, frames := w.frames.push f, log := call.measured text w.log }
  have all : Kept w w₂ := ((Kept.frame w f).trans (.objects _ objects)).trans (.of_eq rfl rfl rfl rfl rfl rfl)
  have again : Yields w₂ ((interp (k + 2)).render call.nameText vars (String.ofList text.toList)) _ :=
    yields_render_clear (all.faithful faithful) (.inr (by rw [String.ofList_toList]; exact kept))
      (show w.depth + 5 + 3 ≤ callLimit by omega) clear vars
  rw [String.ofList_toList] at again
  obtain ⟨s, w₃, ran, rfl, still, -⟩ := again
  obtain ⟨-, ends⟩ := outcome_runTag_second twice (by omega) first (textOf?_bodyText b text) connected
    (show w.depth + 3 + 2 ≤ callLimit by omega)
  exact .of_outcome ((outcome_tagBlock found).trans (ends _ w₃ b ran ((decided.kept all).kept still))) rfl
    ((all.trans still).trans (.depth w₃ _)) rfl

end Again

end Bodies

/-! ## Blocks in each other -/

structure Rendering (tag : Tag) (w : World) : Prop where
  twice : tag.action = .renderTwice
  faithful : w.Faithful
  escapes : w.settings.escape = true
  keeps : w.settings.layout.keepTrailingNewline = true
  found : w.registry.getTag? "render" = some tag
  connected : w.registry.connected.contains tag.owner = true

structure Shows (env : Env) (w : World) (v : String) : Prop where
  escapes : env.escape = ⟨true, false⟩
  fitting : Fitting env.scopes
  decided : Decided env w true
  known : ∃ c, w.contexts[env.context]? = some c ∧ c.resolve? "x" = some (.text v)

section Nested

variable {env : Env} {w w' : World} {tag : Tag} {v : String} {k : Nat}

theorem Rendering.kept (h : Rendering tag w) (kept : Kept w w') : Rendering tag w' where
  twice := h.twice
  faithful := kept.faithful h.faithful
  escapes := kept.settings ▸ h.escapes
  keeps := kept.settings ▸ h.keeps
  found := kept.registry ▸ h.found
  connected := kept.registry ▸ h.connected

/-- A block around one statement writes what its text becomes as a template without delimiters. -/
theorem yields_block {node : Node} {read : Option String} {c : Context} {text : List Char} (rendering : Rendering tag w)
    (plain : Plain env read [node]) (counts : (env.scopes.find? "loop").isSome = true)
    (given : w.contexts[env.context]? = some c) (decided : Decided env w true) (shallow : w.depth + 22 ≤ callLimit)
    (clear : Clear (Text.unifyLines text))
    (runs : ∀ w₁, Kept w w₁ → w₁.depth = w.depth + 8 → Yields (w₁.withFrame (bodyFrame env read w₁ c w.objects.size))
      (run (interp k) (bodyEnv env read w₁) node) (· = .ofText (String.ofList text))) :
    Yields w (run (interp (k + 3)) env (renderNode [node])) (· = .ofText (String.ofList (Text.unifyLines text))) := by
  obtain ⟨vars, w₁, first, kept, level⟩ := outcome_firstPass_plain (k := k) tag plain counts given decided (by omega)
    fun w₁ kept level => yields_body (by omega) plain.apart (runs w₁ kept level)
  have after := rendering.kept kept
  have second (w₂ : World) (name : String) (kept' : Kept w₁ w₂) (level' : w₂.depth = w₁.depth + 2) :
      Yields w₂ ((interp (k + 2)).render name vars (String.ofList text)) (· = String.ofList (Text.unifyLines text)) := by
    rw [← Layout.prepare_of_keeps (after.kept kept').keeps text] at clear ⊢
    have room : w₂.HasRoom := by
      show w₂.depth + 17 ≤ callLimit
      omega
    exact yields_render_clear (after.kept kept').faithful (.inl room) room.shallow clear vars
  obtain ⟨w₂, kept', level', ran⟩ := runTag_of_passes rendering.twice (by omega) first rfl after.connected (by omega) second
  refine ⟨_, w₂, (outcome_tagBlock rendering.found).trans (ran.trans ?_), rfl, kept.trans kept', level'⟩
  exact outcome_bind_of ((decided.kept kept).kept kept').outcome_escapesNow

theorem plain_reference (fitting : Fitting env.scopes) : Plain env (some "x") (nestedTree 0) where
  special := unspecial_nested 0
  sealed := rfl
  scopes := functionBody_reference fitting.reads
  apart := by decide

theorem plain_nested (fitting : Fitting env.scopes) (n : Nat) : Plain env none (nestedTree (n + 1)) where
  special := unspecial_nested (n + 1)
  sealed := rfl
  scopes := functionBody_nested fitting.counts n
  apart := by decide

/-- Inside a block around blocks all is as outside. -/
theorem Shows.inside (h : Shows env w v) (kept : Kept w w') (f : Frame) : Shows (bodyEnv env none w') (w'.withFrame f) v := by
  obtain ⟨c, given, known⟩ := h.known
  exact ⟨h.escapes, h.fitting.block, h.decided.kept (kept.trans (.frame w' f)), c, kept.contexts given, known⟩

/-- Blocks in each other around a reference: the value is escaped in the innermost one, and its line breaks are unified
when that text is rendered. All blocks around find a text that stays as it is. -/
theorem yields_nested (clear : Clear (Text.unifyLines (Text.htmlEscape v).toList)) (n : Nat) (rendering : Rendering tag w)
    (shows : Shows env w v) (shallow : w.depth + 8 * n + 22 ≤ callLimit) :
    Yields w (run (interp (3 * n + k + 3)) env (renderNode (nestedTree n)))
      (· = .ofText (String.ofList (Text.unifyLines (Text.htmlEscape v).toList))) := by
  obtain ⟨c, given, known⟩ := shows.known
  induction n generalizing env w c with
  | zero =>
    rw [Nat.mul_zero, Nat.zero_add]
    refine yields_block rendering (plain_reference shows.fitting) shows.fitting.counts given shows.decided shallow clear
      fun w₁ kept _ => ?_
    have reference : outcome (run (interp k) (bodyEnv env (some "x") w₁) (.output [.value (.name "x" 1)]))
        (w₁.withFrame (bodyFrame env (some "x") w₁ c w.objects.size)) = (.ok (.ofText (Text.htmlEscape v)), _) :=
      outcome_reference (slotAt env.scopes.nextDepth "x") shows.escapes rfl rfl (getElem?_withFrame _ _)
        (Nat.le_of_eq bodyFrame_base) (bodyFrame_read.trans known)
    refine .of_outcome reference ?_ (.refl _) rfl
    rw [String.ofList_toList]
  | succ n ih =>
    have same := unifyLines_unifyLines (Text.htmlEscape v).toList
    rw [show 3 * (n + 1) + k + 3 = (3 * n + k + 3) + 3 by omega, ← same]
    refine yields_block rendering (plain_nested shows.fitting n) shows.fitting.counts given shows.decided (by omega)
      (same.symm ▸ clear) fun w₁ kept level => ?_
    have lower : (w₁.withFrame (bodyFrame env none w₁ c w.objects.size)).depth + 8 * n + 22 ≤ callLimit := by
      show w₁.depth + 8 * n + 22 ≤ callLimit
      omega
    exact ih (rendering.kept (kept.trans (.frame w₁ _))) (shows.inside kept _) lower c (kept.contexts given) known

end Nested

end Stencil.Engine
