import Stencil.Proofs.Block.Passes

/-!
# A macro that calls itself

A macro counts down from a number by calling itself, and does something else at the end. Every call lies four levels deeper
than the one before, and nothing is kept of it but its frame. So the count comes to its end if there is room for all of its
calls, and gives what it does there; it is cut off if there is not.
-/

set_option autoImplicit false

namespace Stencil.Engine

open Stencil.Template

/-! ## The text -/

def counterParams : Params := ⟨["n"], []⟩

def counterTail (b : Bool) : List Node := if b then [renderNode [.output [.fixed "a" none]]] else []

def counterBody (b : Bool) : List Node :=
  [.ifElse (.name "n" 1)
    [.output [.value (.call (.name "m" 1) [.binary .sub (.name "n" 1) (.literal (.int 1))] [] none none)]] [] (counterTail b)]

def counterTree (b : Bool) (n : Nat) : List Node :=
  [.macroDef "m" counterParams (counterBody b) 1,
    .output [.value (.call (.name "m" 1) [.literal (.int n)] [] none none), .fixed "ok" none]]

def counterUnit (b : Bool) (n : Nat) : Compiled := ⟨none, none, counterTree b n, [], false⟩

def counterScope : Scope := ⟨0, ⟨[("m", .unset)]⟩, ["m"]⟩

def counterRead (b : Bool) : Option String := if b then some "loop" else none

def countScope (b : Bool) : Scope := ⟨1, ⟨("n", .param) :: (counterRead b).toList.map (·, .resolve)⟩, ["n"]⟩

def isCounterTail : Bool → List Node → Bool
  | false, [] => true
  | true, [.tagBlock "render" "" [.output [.fixed "a" none], .collect]] => true
  | _, _ => false

def isCounter (b : Bool) (n : Nat) : Compiled → Bool
  | ⟨none, none, [.macroDef "m" ⟨["n"], []⟩ [.ifElse (.name "n" 1)
      [.output [.value (.call (.name "m" 1) [.binary .sub (.name "n" 1) (.literal (.int 1))] [] none none)]] [] tail] 1,
      .output [.value (.call (.name "m" 1) [.literal (.int i)] [] none none), .fixed "ok" none]], [], false⟩ =>
    i == n && isCounterTail b tail
  | _ => false

theorem eq_of_isCounterTail {b : Bool} {tail : List Node} (h : isCounterTail b tail = true) :
    tail = counterTail b := by
  unfold isCounterTail at h
  split at h
  · rfl
  · rfl
  · cases h

theorem eq_of_isCounter {b : Bool} {n : Nat} {c : Compiled} (h : isCounter b n c = true) : c = counterUnit b n := by
  unfold isCounter at h
  split at h
  · obtain ⟨same, tail⟩ := Bool.and_eq_true_iff.mp h
    rw [beq_iff_eq.mp same, eq_of_isCounterTail tail]
    rfl
  · cases h

/-! ## One call -/

def counter (b : Bool) (env : Env) : Macro :=
  ⟨some "m", counterParams, counterBody b, env, .bool false, anyLeaks (counterBody b)⟩

structure Counts (b : Bool) (env : Env) (r : Ref) (c : Context) (w : World) : Prop where
  object : w.objects[r]? = some (.macroFn (counter b env))
  frame : ∃ f, w.frames[env.frame]? = some f ∧ f.outer = none ∧ f.read (slotAt 0 "m") = some (.macroFn r)
  given : w.contexts[env.context]? = some c
  decided : Decided env w false

theorem Counts.kept {b : Bool} {env : Env} {r : Ref} {c : Context} {w w' : World} (h : Counts b env r c w)
    (kept : Kept w w') (objects : w'.objects = w.objects) : Counts b env r c w' := by
  obtain ⟨f, held, rest⟩ := h.frame
  exact ⟨objects ▸ h.object, ⟨f, kept.frames held, rest⟩, kept.contexts h.given, h.decided.kept kept⟩

def countEnv (b : Bool) (env : Env) (w : World) : Env :=
  { env.inner [countScope b, counterScope] with frame := w.frames.size, dropping := none, captures := true }

def countFrame (b : Bool) (env : Env) (w : World) (c : Context) (n : Int) : Frame :=
  (({ base := 1, outer := some env.frame } : Frame).give (slotAt 1 "n") (.int n)).startRead (countEnv b env w) c
    (counterRead b)

/-- A slot that lies outside a body is found in the frame around it. -/
theorem outcome_readSlot_outer {env : Env} {w : World} {f g : Frame} {outer : Ref} {slot : Slot}
    (held : w.frames[env.frame]? = some f) (around : f.outer = some outer) (beyond : slot.depth < f.base)
    (older : outer < env.frame) (held' : w.frames[outer]? = some g) (alone : g.outer = none) :
    outcome (readSlot env slot) w = (.ok (g.read slot), w) := by
  have small : env.frame < w.frames.size := (Array.getElem?_eq_some_iff.mp held).1
  have two : 2 ≤ w.frames.size := Nat.lt_of_le_of_lt (Nat.succ_le_of_lt (Nat.zero_lt_of_lt older)) small
  obtain ⟨n, hn⟩ := Nat.exists_eq_add_of_le' two
  have found : w.frameFor slot.depth w.frames.size env.frame = outer := by
    rw [hn, World.frameFor, held]
    simp only [around]
    have apart : (decide (f.base ≤ slot.depth) || decide (env.frame ≤ outer)) = false := by
      simp [Nat.not_le.mpr beyond, Nat.not_le.mpr older]
    rw [apart, if_neg Bool.false_ne_true, World.frameFor, held']
    simp only [alone]
  show (Except.ok ((w.frames.getD (w.frameFor slot.depth w.frames.size env.frame) _).read slot), w) = _
  rw [found, Array.getD_eq_getD_getElem?, held']
  rfl

/-- A call with one argument, where evaluating the function and the argument changes nothing. -/
theorem outcome_call_single {I : Interp} {env : Env} {w : World} {f arg : Expr} {v a : Value}
    (function : outcome (evaluate I env f) w = (.ok v, w)) (argument : outcome (evaluate I env arg) w = (.ok a, w)) :
    outcome (evaluate I env (.call f [arg] [] none none)) w = outcome (I.call env v [a] []) w := by
  have arguments : outcome (evaluateAll I env [arg]) w = (.ok [a], w) := by
    rw [evaluateAll]
    exact outcome_bind_of argument
  rw [evaluate]
  refine (outcome_bind_of function).trans ((outcome_bind_of arguments).trans ?_)
  rfl

/-- A value that is written where nothing is escaped. -/
theorem outcome_value_plain {I : Interp} {env : Env} {w : World} (shown : env.dropping = none)
    (plain : env.escape = ⟨false, false⟩) (e : Expr) (rest : List Piece) :
    outcome (run I env (.output (.value e :: rest))) w = outcome (do
      let v ← evaluate I env e
      let s ← display I v
      let t ← runPieces I env rest
      return .ofText (s ++ t)) w := by
  rw [run, isDropped, shown]
  show outcome (runPieces I env (.value e :: rest) >>= fun s => pure (Output.ofText s)) w = _
  rw [runPieces, escapesHere, plain]
  show outcome ((evaluate I env e >>= fun v => display I v >>= fun s => runPieces I env rest >>= fun t => pure (s ++ t)) >>=
    fun s => pure (Output.ofText s)) w = _
  simp only [bind_assoc, pure_bind]

theorem empty_append (o : Output) : ({} : Output) ++ o = o := by
  show Output.append {} o = o
  unfold Output.append
  rw [String.empty_append, String.empty_append, Bool.false_or, Bool.false_or]

section Count

variable {b : Bool} {env : Env} {r : Ref} {c : Context} {w : World} {k : Nat}

theorem base_countFrame (n : Int) : (countFrame b env w c n).base = 1 := base_startRead _ _ _ _

theorem outer_countFrame (n : Int) : (countFrame b env w c n).outer = some env.frame := outer_startRead _ _ _ _

theorem read_countFrame (n : Int) : (countFrame b env w c n).read (slotAt 1 "n") = some (.int n) := by
  have given (f : Frame) : (f.give (slotAt 1 "n") (.int n)).read (slotAt 1 "n") = some (.int n) := by
    rw [Frame.read, Frame.give, Table.find?_insert_self, Option.some_or]
  cases b with
  | false => exact given _
  | true => exact (read_start_of_ne _ _ (show slotAt 1 "loop" ≠ slotAt 1 "n" by decide)).trans (given _)

theorem outcome_read_count (n : Int) : outcome (readName (countEnv b env w) "n") (w.withFrame (countFrame b env w c n)) =
    (.ok (.int n), w.withFrame (countFrame b env w c n)) :=
  outcome_readName rfl (getElem?_withFrame _ _) (Nat.le_of_eq (base_countFrame n)) (read_countFrame n)

/-- A call runs the body in a frame that holds the number. -/
theorem outcome_body_counter (I : Interp) (top : env.scopes = [counterScope]) (given : w.contexts[env.context]? = some c)
    (n : Int) : outcome (runMacroBody I (counter b env) [("n", some (.int n))]) w =
      outcome (I.nodes (countEnv b env w) (counterBody b)) (w.withFrame (countFrame b env w c n)) := by
  have scopes : Scopes.functionBody env.scopes counterParams (counterBody b) = [countScope b, counterScope] := by
    rw [top]
    cases b <;> rfl
  have base : env.scopes.nextDepth = 1 := by
    rw [top]
    rfl
  have give : outcome (giveName (countEnv b env w) "n" (.int n)) (w.withFrame { base := 1, outer := some env.frame }) =
      (.ok (), w.withFrame (({ base := 1, outer := some env.frame } : Frame).give (slotAt 1 "n") (.int n))) :=
    outcome_modifyFrame_newest rfl _ _
  have start : outcome (enter (countEnv b env w))
      (w.withFrame (({ base := 1, outer := some env.frame } : Frame).give (slotAt 1 "n") (.int n))) =
      (.ok (), w.withFrame (countFrame b env w c n)) :=
    outcome_enter_newest (countEnv b env w) ["n"] (counterRead b) rfl given rfl _
  have found : outcome (lookup? (countEnv b env w) "n") (w.withFrame (countFrame b env w c n)) =
      (.ok (some (.int n)), w.withFrame (countFrame b env w c n)) := by
    show outcome (readSlot (countEnv b env w) (slotAt 1 "n")) _ = _
    rw [outcome_readSlot_own (getElem?_withFrame _ _) (Nat.le_of_eq (base_countFrame n)), read_countFrame]
  have filled : outcome (fillDefaults I (countEnv b env w) counterParams 0 ["n"]) (w.withFrame (countFrame b env w c n)) =
      (.ok (), w.withFrame (countFrame b env w c n)) := by
    unfold fillDefaults
    rw [outcome_bind, found]
    rfl
  unfold runMacroBody counter
  rw [scopes, base]
  refine (outcome_bind_of (show outcome (newFrame _) w = (.ok w.frames.size, w.withFrame _) from rfl)).trans ?_
  refine (outcome_bind_of ((outcome_bind_of give).trans rfl)).trans ?_
  exact (outcome_bind_of start).trans (outcome_bind_of filled)

/-- The body of a call with nothing is the end of the count. -/
theorem outcome_counterBody_zero : outcome (runAll (interp k) (countEnv b env w) (counterBody b))
      (w.withFrame (countFrame b env w c 0)) =
    outcome (runAll (interp k) (countEnv b env w) (counterTail b)) (w.withFrame (countFrame b env w c 0)) := by
  unfold counterBody
  rw [runAll_single, run]
  exact (outcome_bind_of (outcome_read_count 0)).trans rfl

/-- The body of a call with more writes what the call with one less gives. -/
theorem outcome_counterBody_succ (counts : Counts b env r c w) (plain : env.escape = ⟨false, false⟩) (n : Nat) :
    outcome (runAll (interp (k + 1)) (countEnv b env w) (counterBody b)) (w.withFrame (countFrame b env w c (n + 1))) =
      outcome (do
        let v ← callValue (interp k) (countEnv b env w) (.macroFn r) [.int n] []
        let s ← display (interp (k + 1)) v
        return .ofText (s ++ "")) (w.withFrame (countFrame b env w c (n + 1))) := by
  have number : outcome (readName (countEnv b env w) "n") (w.withFrame (countFrame b env w c (n + 1))) = _ :=
    outcome_read_count (n + 1)
  obtain ⟨f, held, alone, known⟩ := counts.frame
  have older : env.frame < w.frames.size := (Array.getElem?_eq_some_iff.mp held).1
  have itself : outcome (readName (countEnv b env w) "m") (w.withFrame (countFrame b env w c (n + 1))) =
      (.ok (.macroFn r), w.withFrame (countFrame b env w c (n + 1))) := by
    have found : (countEnv b env w).scopes.find? "m" = some (slotAt 0 "m") := by cases b <;> rfl
    unfold readName lookup?
    rw [found, outcome_bind, outcome_readSlot_outer (getElem?_withFrame _ _) (outer_countFrame _)
      (by rw [base_countFrame]; exact Nat.zero_lt_one) older (getElem?_push_of_some _ held) alone, known]
    rfl
  have less : outcome (evaluate (interp (k + 1)) (countEnv b env w) (.binary .sub (.name "n" 1) (.literal (.int 1))))
      (w.withFrame (countFrame b env w c (n + 1))) = (.ok (.int n), w.withFrame (countFrame b env w c (n + 1))) := by
    rw [evaluate]
    · refine (outcome_bind_of number).trans ?_
      show (Except.ok (Value.int ((n : Int) + 1 - 1)), _) = _
      rw [Int.add_sub_cancel]
    · intro d e same
      cases same
  have positive : outcome (truth (interp (k + 1)) (.int (n + 1))) (w.withFrame (countFrame b env w c (n + 1))) =
      (.ok true, w.withFrame (countFrame b env w c (n + 1))) := by
    show (Except.ok ((n : Int) + 1 != 0), _) = _
    rw [bne_iff_ne.mpr (by omega)]
  unfold counterBody
  rw [runAll_single, run]
  refine (outcome_bind_of number).trans ((outcome_bind_of positive).trans ?_)
  have called := outcome_call_single (f := .name "m" 1) itself less
  rw [if_pos rfl, runAll_single, outcome_value_plain (show (countEnv b env w).dropping = none from rfl) plain, outcome_bind,
    called, ← outcome_bind]
  rfl

end Count

/-! ## All calls -/

section Ends

variable {α β : Type} {w : World} {P : World → Prop}

def Ends (w : World) (e : Eval α) (P : World → Prop) : Except Fault α → Prop
  | .ok a => ∃ w', outcome e w = (.ok a, w') ∧ Kept w w'
  | .error f => ∃ w', outcome e w = (.error f, w') ∧ P w'

theorem Ends.bind {e : Eval α} {k : α → Eval β} {r : Except Fault α} {g : α → β} (he : Ends w e P r)
    (hk : ∀ a, r = .ok a → ∀ v, outcome (k a) v = (.ok (g a), v)) : Ends w (e >>= k) P (r.map g) := by
  cases r with
  | ok a =>
    obtain ⟨w', run, kept⟩ := he
    exact ⟨w', (outcome_bind_of run).trans (hk a rfl w'), kept⟩
  | error f =>
    obtain ⟨w', run, holds⟩ := he
    exact ⟨w', by rw [outcome_bind, run], holds⟩

theorem Ends.of_eq {e e' : Eval α} {r : Except Fault α} {w' : World} (he : Ends w e P r) (kept : Kept w' w)
    (same : outcome e' w' = outcome e w) : Ends w' e' P r := by
  cases r with
  | ok a =>
    obtain ⟨v, run, kept'⟩ := he
    exact ⟨v, same.trans run, kept.trans kept'⟩
  | error f =>
    obtain ⟨v, run, holds⟩ := he
    exact ⟨v, same.trans run, holds⟩

/-- What runs deeper ends as it does there, if there is room. -/
theorem Ends.deeper {e : Eval α} {r : Except Fault α} {amount : Nat}
    (he : w.depth + amount ≤ callLimit → Ends { w with depth := w.depth + amount } e P r)
    (cut : callLimit < w.depth + amount → P w) :
    Ends w (deeper amount e) P (if w.depth + amount ≤ callLimit then r else .error (.mishap .tooDeep)) := by
  by_cases shallow : w.depth + amount ≤ callLimit
  · rw [if_pos shallow]
    have he := he shallow
    cases r with
    | ok a =>
      obtain ⟨v, run, kept⟩ := he
      refine ⟨{ v with depth := w.depth }, ?_, ((Kept.depth w _).trans kept).trans (.depth v _)⟩
      rw [outcome_deeper shallow, outcome_bind_of run]
      rfl
    | error f =>
      obtain ⟨v, run, holds⟩ := he
      exact ⟨v, by rw [outcome_deeper shallow, outcome_bind, run], holds⟩
  · rw [if_neg shallow]
    exact ⟨w, outcome_deeper_beyond (Nat.lt_of_not_le shallow), cut (Nat.lt_of_not_le shallow)⟩

end Ends

section Count

variable {b : Bool} {env : Env} {r : Ref} {c : Context} {w : World} {k : Nat} {P : World → Prop} {o : Except Fault String}

/-- A call lies four levels deeper, where the body must have room. -/
theorem ends_call {e : Env} {n : Int} (counts : Counts b env r c w) (top : env.scopes = [counterScope])
    (same : e.context = env.context) (cut : callLimit < w.depth + 4 → P w)
    (runs : w.depth + 4 ≤ callLimit → Ends ({ w with depth := w.depth + 4 }.withFrame (countFrame b env w c n))
      (runAll (interp k) (countEnv b env w) (counterBody b)) P (o.map .ofText)) :
    Ends w (callValue (interp (k + 2)) e (.macroFn r) [.int n] []) P
      (if w.depth + 4 ≤ callLimit then o.map .text else .error (.mishap .tooDeep)) := by
  let bound : Bound := [("n", some (.int n))]
  let act : Eval Value := do return .text (← (← (interp (k + 2)).body (counter b env) bound).joined)
  have escape : outcome (escapeValue e.context) w = (.ok (.bool false), w) := same ▸ counts.decided.outcome_escapeValue
  have found : outcome (object? r) w = (.ok (some (.macroFn (counter b env))), w) := by
    show (Except.ok w.objects[r]?, w) = _
    rw [counts.object]
  have start : outcome (callValue (interp (k + 2)) e (.macroFn r) [.int n] []) w = outcome (deeper 4 act) w := by
    have bind : outcome (bindArguments (counter b env) [.int n] []) w = (.ok bound, w) := by cases b <;> rfl
    have sealed : (counter b env).leaks = false := by cases b <;> rfl
    unfold callValue
    refine (outcome_bind_of found).trans ((outcome_bind_of escape).trans ?_)
    refine (outcome_bind_of bind).trans ?_
    unfold macroResult
    rw [sealed, if_neg Bool.false_ne_true]
    show outcome (deeper 4 act >>= fun v => pure v) w = _
    rw [bind_pure]
  have inner : outcome act { w with depth := w.depth + 4 } =
      outcome (runAll (interp k) (countEnv b env w) (counterBody b) >>= fun out => out.joined >>= fun s => pure (.text s))
        ({ w with depth := w.depth + 4 }.withFrame (countFrame b env w c n)) := by
    show outcome (runMacroBody (interp (k + 1)) (counter b env) bound >>= _) _ = _
    rw [outcome_bind, outcome_body_counter (w := { w with depth := w.depth + 4 }) (interp (k + 1)) top counts.given,
      ← outcome_bind]
    rfl
  refine (Ends.deeper (e := act) (r := o.map .text) (fun shallow => ?_) cut).of_eq (.refl w) start
  have joined := (runs shallow).bind (k := fun out => out.joined >>= fun s => pure (Value.text s))
    (g := fun out => .text out.text) fun out ended v => by
      cases o <;> cases ended
      rfl
  have texts : (o.map Output.ofText).map (fun out => Value.text out.text) = o.map .text := by cases o <;> rfl
  rw [texts] at joined
  exact joined.of_eq (.frame _ _) inner

/-- A count from any number ends as it does where it comes to nothing, if there is room for all of its calls. -/
theorem ends_counter (counts : Counts b env r c w) (top : env.scopes = [counterScope]) (plain : env.escape = ⟨false, false⟩)
    {e : Env} (same : e.context = env.context) (n : Nat)
    (tail : ∀ v, Kept w v → v.texts = w.texts → v.depth = w.depth + 4 * n → v.depth + 4 ≤ callLimit →
      Ends ({ v with depth := v.depth + 4 }.withFrame (countFrame b env v c 0))
        (runAll (interp k) (countEnv b env v) (counterTail b)) P (o.map .ofText))
    (cut : callLimit < w.depth + 4 * (n + 1) → ∀ v, P v) :
    Ends w (callValue (interp (3 * n + k + 2)) e (.macroFn r) [.int n] []) P
      (if w.depth + 4 * (n + 1) ≤ callLimit then o.map .text else .error (.mishap .tooDeep)) := by
  induction n generalizing w e with
  | zero =>
    rw [Nat.mul_zero, Nat.zero_add]
    refine ends_call counts top same (fun beyond => cut beyond w) fun shallow => ?_
    exact (tail w (.refl w) rfl rfl shallow).of_eq (.refl _) (outcome_counterBody_zero (w := { w with depth := w.depth + 4 }))
  | succ n ih =>
    let v : World := { w with depth := w.depth + 4 }.withFrame (countFrame b env w c (n + 1))
    have entered : Kept w v := (Kept.depth w _).trans (.frame _ _)
    have below : v.depth = w.depth + 4 := rfl
    have inner := ih (counts.kept entered rfl) (e := countEnv b env w) rfl
      (fun u kept texts level => tail u (entered.trans kept) texts (by omega)) (fun beyond => cut (by omega))
    have body : Ends v (runAll (interp (3 * n + k + 3)) (countEnv b env w) (counterBody b)) P
        ((if v.depth + 4 * (n + 1) ≤ callLimit then o else .error (.mishap .tooDeep)).map .ofText) := by
      have called := inner.bind (k := fun v => do
        let s ← display (interp (3 * n + k + 3)) v
        return Output.ofText (s ++ "")) (g := fun v => .ofText (textOf? v |>.getD "")) fun a ended v => by
          split at ended
          · cases o <;> cases ended
            exact congrArg (fun s => (Except.ok (Output.ofText s), v)) String.append_empty
          · cases ended
      have texts : (if v.depth + 4 * (n + 1) ≤ callLimit then o.map Value.text else .error (.mishap .tooDeep)).map
          (fun v => Output.ofText (textOf? v |>.getD "")) =
          (if v.depth + 4 * (n + 1) ≤ callLimit then o else .error (.mishap .tooDeep)).map .ofText := by
        split
        · cases o <;> rfl
        · rfl
      rw [texts] at called
      exact called.of_eq (.refl v) (outcome_counterBody_succ (w := { w with depth := w.depth + 4 })
        (counts.kept (.depth w _) rfl) plain n)
    have call := ends_call (n := n + 1) counts top same (fun beyond => cut (by omega) w) fun _ => body
    rw [show 3 * (n + 1) + k + 2 = 3 * n + k + 3 + 2 by omega]
    have room : (if w.depth + 4 ≤ callLimit then
        (if v.depth + 4 * (n + 1) ≤ callLimit then o else .error (.mishap .tooDeep)).map Value.text
        else .error (.mishap .tooDeep)) =
        if w.depth + 4 * (n + 1 + 1) ≤ callLimit then o.map .text else .error (.mishap .tooDeep) := by
      by_cases fits : w.depth + 4 * (n + 1 + 1) ≤ callLimit
      · rw [if_pos (by omega), if_pos (by omega), if_pos fits]
      · rw [if_neg fits, if_neg (show ¬ v.depth + 4 * (n + 1) ≤ callLimit by omega)]
        exact ite_self _
    rwa [room] at call

def counterFrame (r : Ref) : Frame :=
  (({ base := 0, outer := none } : Frame).start (slotAt 0 "m") none).give (slotAt 0 "m") (.macroFn r)

theorem read_counterFrame (r : Ref) : (counterFrame r).read (slotAt 0 "m") = some (.macroFn r) := by
  rw [counterFrame, Frame.read, Frame.give, Table.find?_insert_self, Option.some_or]

def counterContext (w : World) (b : Bool) (n : Nat) (vars : Table String Value) : Context :=
  ((textContext w (counterUnit b n) vars).assign "m" (.macroFn w.objects.size)).export "m"

def counterWorld (w : World) (b : Bool) (n : Nat) (vars : Table String Value) : World :=
  { (w.withText (counterUnit b n) vars).withFrame (counterFrame w.objects.size) with
    objects := w.objects.push (.macroFn (counter b (textEnv w (counterUnit b n))))
    contexts := w.contexts.push (counterContext w b n vars) }

theorem kept_counterWorld (n : Nat) (vars : Table String Value) : Kept w (counterWorld w b n vars) where
  settings := rfl
  registry := rfl
  faithful := fun faithful => faithful.of_fields rfl rfl rfl
  frames := getElem?_push_of_some _
  contexts := getElem?_push_of_some _
  escapes := getElem?_push_of_some _

theorem held_counterWorld (n : Nat) (vars : Table String Value) :
    (counterWorld w b n vars).frames[w.frames.size]? = some (counterFrame w.objects.size) := Array.getElem?_push_size

theorem counts_counterWorld (unescaped : w.settings.escape = false) (n : Nat) (vars : Table String Value) :
    Counts b (textEnv w (counterUnit b n)) w.objects.size (counterContext w b n vars)
      (counterWorld w b n vars) where
  object := Array.getElem?_push_size
  frame := ⟨counterFrame w.objects.size, held_counterWorld n vars, rfl, read_counterFrame w.objects.size⟩
  given := Array.getElem?_push_size
  decided := by
    refine ⟨_, w.escapes.size, Array.getElem?_push_size, rfl, ?_⟩
    rw [← unescaped]
    exact Array.getElem?_push_size

theorem scopes_counterUnit (w : World) (n : Nat) : (textEnv w (counterUnit b n)).scopes = [counterScope] := by
  cases b <;> rfl

/-- The text starts without the macro. -/
theorem outcome_enter_counter (n : Nat) (vars : Table String Value) :
    outcome (enter (textEnv w (counterUnit b n))) ((w.withText (counterUnit b n) vars).withFrame { base := 0, outer := none }) =
      (.ok (), (w.withText (counterUnit b n) vars).withFrame
        (({ base := 0, outer := none } : Frame).start (slotAt 0 "m") none)) := by
  have names : (textEnv w (counterUnit b n)).ownNames = [("m", .unset)] := by
    rw [Env.ownNames, scopes_counterUnit]
    rfl
  have own : (textEnv w (counterUnit b n)).own "m" = slotAt 0 "m" := by
    rw [Env.own, scopes_counterUnit]
    rfl
  unfold enter
  rw [names]
  show outcome (modifyFrame (textEnv w (counterUnit b n)).frame (Frame.start · ((textEnv w (counterUnit b n)).own "m") none) >>=
    fun _ => pure ()) _ = _
  rw [outcome_bind, outcome_modifyFrame_newest (w := w.withText (counterUnit b n) vars) rfl, own]
  rfl

/-- The first statement makes the macro known. -/
theorem outcome_define_counter (unescaped : w.settings.escape = false) (I : Interp) (n : Nat) (vars : Table String Value) :
    outcome (run I (textEnv w (counterUnit b n)) (.macroDef "m" counterParams (counterBody b) 1))
      ((w.withText (counterUnit b n) vars).withFrame (({ base := 0, outer := none } : Frame).start (slotAt 0 "m") none)) =
        (.ok {}, counterWorld w b n vars) := by
  let env := textEnv w (counterUnit b n)
  let f : Frame := ({ base := 0, outer := none } : Frame).start (slotAt 0 "m") none
  let v := (w.withText (counterUnit b n) vars).withFrame f
  have own : env.own "m" = slotAt 0 "m" := by
    rw [Env.own, scopes_counterUnit]
    rfl
  have decided : Decided env v false := by
    refine ⟨_, w.escapes.size, Array.getElem?_push_size, rfl, ?_⟩
    rw [← unescaped]
    exact Array.getElem?_push_size
  have made : outcome (newMacro env (some "m") counterParams (counterBody b)) v = (.ok (counter b env), v) :=
    outcome_bind_of decided.outcome_escapeValue
  let objects := w.objects.push (.macroFn (counter b env))
  let frames := w.frames.push (counterFrame w.objects.size)
  have given : outcome (giveName env "m" (.macroFn w.objects.size)) { v with objects } = (.ok (), { v with objects, frames }) := by
    unfold giveName
    rw [own]
    exact congrArg (fun frames => (Except.ok (), { v with objects, frames })) (modify_push w.frames f _)
  have stored : outcome (modifyContext env.context fun c => (c.assign "m" (.macroFn w.objects.size)).export "m")
      { v with objects, frames } = (.ok (), counterWorld w b n vars) :=
    congrArg (fun contexts => (Except.ok (), { counterWorld w b n vars with contexts })) (modify_push w.contexts _ _)
  rw [run, runMacroDef]
  refine (outcome_bind_of (a := ()) ((outcome_bind_of made).trans ?_)).trans rfl
  refine (outcome_bind_of (show outcome (alloc _) v = (.ok w.objects.size, _) from rfl)).trans ?_
  exact (outcome_bind_of given).trans stored

/-- Behind the first statement the macro is called, and its result is written. -/
theorem outcome_counterTree (unescaped : w.settings.escape = false) (n : Nat) (vars : Table String Value) :
    outcome (runAll (interp (k + 1)) (textEnv w (counterUnit b n)) (counterTree b n))
      ((w.withText (counterUnit b n) vars).withFrame (({ base := 0, outer := none } : Frame).start (slotAt 0 "m") none)) =
      outcome (do
        let v ← callValue (interp k) (textEnv w (counterUnit b n)) (.macroFn w.objects.size) [.int n] []
        let s ← display (interp (k + 1)) v
        return Output.ofText (s ++ "ok")) (counterWorld w b n vars) := by
  let env := textEnv w (counterUnit b n)
  let after := counterWorld w b n vars
  have plain : env.escape = ⟨false, false⟩ := congrArg (EscapeMode.mk · false) unescaped
  have itself : outcome (evaluate (interp (k + 1)) env (.name "m" 1)) after = (.ok (.macroFn w.objects.size), after) := by
    have found : env.scopes.find? "m" = some (slotAt 0 "m") := by
      rw [scopes_counterUnit]
      rfl
    exact outcome_readName found (held_counterWorld n vars) (Nat.zero_le _) (read_counterFrame w.objects.size)
  have number : outcome (evaluate (interp (k + 1)) env (.literal (.int n))) after = (.ok (.int n), after) := rfl
  have written := outcome_value_plain (I := interp (k + 1)) (w := after) (show env.dropping = none from rfl) plain
    (.call (.name "m" 1) [.literal (.int n)] [] none none) [.fixed "ok" none]
  rw [outcome_bind, outcome_call_single itself number, ← outcome_bind] at written
  rw [counterTree, runAll]
  refine (outcome_bind_of (outcome_define_counter unescaped _ n vars)).trans ?_
  rw [runAll_single]
  simp only [empty_append, bind_pure]
  exact written

/-- The text counts down, and fails if there is no room for that. -/
theorem ends_counterUnit (unescaped : w.settings.escape = false) (n : Nat) (vars : Table String Value)
    (tail : ∀ v, Kept (counterWorld w b n vars) v → v.texts = w.texts → v.depth = w.depth + 4 * n →
      v.depth + 4 ≤ callLimit → Ends ({ v with depth := v.depth + 4 }.withFrame
          (countFrame b (textEnv w (counterUnit b n)) v (counterContext w b n vars) 0))
        (runAll (interp k) (countEnv b (textEnv w (counterUnit b n)) v) (counterTail b)) P (o.map .ofText))
    (cut : callLimit < w.depth + 4 * (n + 1) → ∀ v, P v) :
    Ends w (renderTemplate (interp (3 * n + k + 4)) (.text (counterUnit b n)) vars) P
      (if w.depth + 4 * (n + 1) ≤ callLimit then o.map (· ++ "ok") else .error (.mishap .tooDeep)) := by
  let env := textEnv w (counterUnit b n)
  have plain : env.escape = ⟨false, false⟩ := congrArg (EscapeMode.mk · false) unescaped
  have called : Ends (counterWorld w b n vars) _ P
      (if w.depth + 4 * (n + 1) ≤ callLimit then o.map Value.text else .error (.mishap .tooDeep)) :=
    ends_counter (counts_counterWorld unescaped n vars) (scopes_counterUnit w n) plain (e := env) rfl n tail cut
  have unnamed : isFree "self" (counterUnit b n).body = false := by cases b <;> rfl
  have start := outcome_renderTemplate_entered (k := 3 * n + k + 3) unnamed (outcome_enter_counter (w := w) (b := b) n vars)
  have tree := outcome_counterTree (b := b) (k := 3 * n + k + 2) unescaped n vars
  have finished {r : Except Fault Value} {y : Except Fault String}
      (ended : Ends (counterWorld w b n vars) (callValue (interp (3 * n + k + 2)) env (.macroFn w.objects.size) [.int n] []) P r)
      (same : r = y.map .text) :
      Ends w (renderTemplate (interp (3 * n + k + 4)) (.text (counterUnit b n)) vars) P (y.map (· ++ "ok")) := by
    subst same
    cases y with
    | ok s =>
      obtain ⟨w₁, ran, kept⟩ := ended
      refine ⟨w₁, start.trans ((outcome_bind_of (tree.trans (outcome_bind_of ran))).trans ?_),
        (kept_counterWorld n vars).trans kept⟩
      exact outcome_finishText (kept.frames (held_counterWorld n vars)) rfl (s ++ "ok")
    | error f =>
      obtain ⟨w₁, ran, holds⟩ := ended
      rw [outcome_bind, ran] at tree
      refine ⟨w₁, start.trans ?_, holds⟩
      rw [outcome_bind, show outcome (runAll _ _ (counterUnit b n).body) _ = _ from tree]
  by_cases fits : w.depth + 4 * (n + 1) ≤ callLimit
  · rw [if_pos fits] at called ⊢
    exact finished called rfl
  · rw [if_neg fits] at called ⊢
    exact finished (y := .error (.mishap .tooDeep)) called rfl

/-- Without anything at its end the count just ends. -/
theorem outcome_counterUnit (unescaped : w.settings.escape = false) (n : Nat) (vars : Table String Value) :
    (outcome (renderTemplate (interp (3 * n + k + 4)) (.text (counterUnit false n)) vars) w).1 =
      if w.depth + 4 * (n + 1) ≤ callLimit then .ok "ok" else .error (.mishap .tooDeep) := by
  have ends := ends_counterUnit (b := false) (k := k) (P := fun _ => True) (o := .ok "") unescaped n vars
    (fun v _ _ _ _ => ⟨_, rfl, .refl _⟩) fun _ _ => trivial
  by_cases fits : w.depth + 4 * (n + 1) ≤ callLimit
  · rw [if_pos fits] at ends ⊢
    obtain ⟨w', ran, -⟩ := ends
    exact congrArg Prod.fst ran
  · rw [if_neg fits] at ends ⊢
    obtain ⟨w', ran, -⟩ := ends
    exact congrArg Prod.fst ran

/-- Where the count comes to nothing. -/
theorem bottom_counterUnit {v : World} (unescaped : w.settings.escape = false) (n : Nat) (vars : Table String Value)
    (kept : Kept (counterWorld w true n vars) v) :
    let env := countEnv true (textEnv w (counterUnit true n)) v
    let u : World := { v with depth := v.depth + 4 }.withFrame
      (countFrame true (textEnv w (counterUnit true n)) v (counterContext w true n vars) 0)
    Kept w u ∧ u.contexts[env.context]? = some (counterContext w true n vars) ∧ Decided env u false ∧
      ∀ tag body, (blockCall env tag "" body u).nameText = "" := by
  intro env u
  have counts := counts_counterWorld (b := true) unescaped n vars
  have entered : Kept v u := (Kept.depth v _).trans (.frame _ _)
  have given : u.contexts[env.context]? = some (counterContext w true n vars) := entered.contexts (kept.contexts counts.given)
  refine ⟨((kept_counterWorld n vars).trans kept).trans entered, given, (counts.decided.kept kept).kept entered,
    fun tag body => ?_⟩
  unfold blockCall TagCall.nameText
  rw [Array.getD_eq_getD_getElem?, given]
  rfl

theorem prepare_letter (layout : Layout) : layout.prepare "a".toList = "a".toList := by
  obtain ⟨_, _, keeps⟩ := layout
  cases keeps <;> rfl

theorem clear_letter (layout : Layout) : Clear (layout.prepare "a".toList) := by
  rw [prepare_letter]
  exact clear_of_absent (by decide)

section Bottom

variable {tag : Tag} (twice : tag.action = .renderTwice) (found : w.registry.getTag? "render" = some tag)
variable (connected : w.registry.connected.contains tag.owner = true) (unescaped : w.settings.escape = false)

include twice found connected unescaped

/-- With a block at its end for whose second pass there is no room the text fails behind the first pass of the block. -/
theorem outcome_counterUnit_full (n : Nat) (vars : Table String Value) (shallow : w.depth + 4 * (n + 1) + 15 ≤ callLimit)
    (full : callLimit < w.depth + 4 * (n + 1) + 22) (missing : w.texts.find? "" "a" = none) :
    ∃ w', outcome (renderTemplate (interp (3 * n + (k + 3) + 4)) (.text (counterUnit true n)) vars) w =
        (.error (.mishap .tooDeep), w') ∧
      firstPassed tag.name "" "a" ∈ w'.log := by
  have ends := ends_counterUnit (b := true) (k := k + 3) (o := .error (.mishap .tooDeep))
    (P := fun w' => firstPassed tag.name "" "a" ∈ w'.log) unescaped n vars
    (fun v kept texts level _ => ?_) fun beyond => absurd beyond (by omega)
  · rw [if_pos (by omega)] at ends
    exact ends
  · obtain ⟨all, given, decided, unnamed⟩ := bottom_counterUnit unescaped n vars kept
    obtain ⟨w', log, failed, logged⟩ := outcome_block_full (k := k) twice (by rw [all.registry, found])
      (by rw [all.registry, connected]) rfl given decided (clear_letter _) (by show v.depth + 4 + 15 ≤ callLimit; omega)
      (by show callLimit < v.depth + 4 + 22; omega) (by rw [unnamed]; exact texts ▸ missing)
    refine ⟨w', ?_, ?_⟩
    · show outcome (runAll (interp (k + 3)) _ [renderNode [.output [.fixed "a" none]]]) _ = _
      rw [runAll_single]
      exact failed
    · show _ ∈ w'.log
      rw [logged]
      unfold TagCall.measured
      rw [unnamed]
      exact List.mem_append_right _ (List.mem_singleton.mpr rfl)

/-- If the text of the block is kept there is nothing to compile, and the text is written. -/
theorem outcome_counterUnit_kept (faithful : w.Faithful) (n : Nat) (vars : Table String Value)
    (shallow : w.depth + 4 * (n + 1) + 15 ≤ callLimit) (had : (w.texts.find? "" "a").isSome = true) :
    (outcome (renderTemplate (interp (3 * n + (k + 3) + 4)) (.text (counterUnit true n)) vars) w).1 = .ok "aok" := by
  have ends := ends_counterUnit (b := true) (k := k + 3) (o := .ok "a") (P := fun _ => True) unescaped n vars
    (fun v kept texts level _ => ?_) fun _ _ => trivial
  · rw [if_pos (by omega)] at ends
    obtain ⟨w', ran, -⟩ := ends
    exact congrArg Prod.fst ran
  · obtain ⟨all, given, decided, unnamed⟩ := bottom_counterUnit unescaped n vars kept
    obtain ⟨out, w', ran, rfl, still, -⟩ := yields_block_kept (k := k) twice (by rw [all.registry, found])
      (by rw [all.registry, connected]) (all.faithful faithful) rfl given decided (clear_letter _)
      (by show v.depth + 4 + 15 ≤ callLimit; omega) (by rw [unnamed]; exact texts ▸ had)
    refine ⟨w', ?_, still⟩
    show outcome (runAll (interp (k + 3)) _ [renderNode [.output [.fixed "a" none]]]) _ = _
    rw [runAll_single]
    rw [prepare_letter] at ran
    exact ran

end Bottom

end Count

end Stencil.Engine
