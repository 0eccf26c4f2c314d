import Stencil.Proofs.Renaming

/-!
# Coupled runs

Two computations are compared step by step: whenever their worlds are related, they end with the same result up to
the names of cells, or with the same fault, in related worlds. A coupling may say that some faults do not occur, or that
one fault of the first run stands for another of the second. The second run may be cut off by an excused fault, and
the first may have gone out of what the coupling describes; nothing is said from then on.
-/

set_option autoImplicit false

namespace Stencil.Engine

def outcome {α : Type} (e : Eval α) (w : World) : Except Fault α × World := e.run w

section Outcome

variable {α β : Type}

@[simp] theorem outcome_pure (a : α) (w : World) : outcome (pure a) w = (.ok a, w) := rfl

@[simp] theorem outcome_throw (f : Fault) (w : World) : outcome (throw f : Eval α) w = (.error f, w) := rfl

theorem outcome_bind (e : Eval α) (k : α → Eval β) (w : World) :
    outcome (e >>= k) w = match outcome e w with
      | (.ok a, w) => outcome (k a) w
      | (.error f, w) => (.error f, w) := by
  simp only [outcome, bind, ExceptT.bind, ExceptT.run, ExceptT.mk, StateT.bind]
  rcases e w with ⟨_ | _, _⟩ <;> rfl

@[simp] theorem outcome_get (w : World) : outcome get w = (.ok w, w) := rfl

@[simp] theorem outcome_modify (u : World → World) (w : World) : outcome (modify u) w = (.ok ⟨⟩, u w) := rfl

@[simp] theorem outcome_modifyGet (u : World → α × World) (w : World) :
    outcome (modifyGet u) w = (.ok (u w).1, (u w).2) := rfl

@[simp] theorem outcome_tryCatch (e : Eval α) (handle : Fault → Eval α) (w : World) :
    outcome (tryCatch e handle) w = match outcome e w with
      | (.ok a, w) => (.ok a, w)
      | (.error f, w) => outcome (handle f) w := by
  simp only [outcome, tryCatch, tryCatchThe, MonadExceptOf.tryCatch, ExceptT.tryCatch, ExceptT.run, ExceptT.mk, bind,
    StateT.bind]
  rcases e w with ⟨_ | _, _⟩ <;> rfl

end Outcome

def Fault.isPlain : Fault → Bool
  | .flawed _ _ _ => false
  | .unconnected => false
  | _ => true

structure Coupling where
  names : Renaming
  rel : World → World → Prop
  -- The first world is one that the coupling does not describe.
  out : World → Prop
  excused : Fault → Prop
  -- the faults that may occur in both runs
  raised : Fault → Prop := fun _ => True
  -- the faults that the first run notes,
  noted : Fault → Prop := fun _ => False
  -- and how worlds compare behind them
  aside : World → World → Prop := fun _ _ => False
  plain : ∀ {x : Fault}, x.isPlain = true → raised x

namespace Coupling

variable {α β γ δ : Type} (C : Coupling)

def Behind (x : Fault) (w w' : World) : Prop := C.raised x ∧ C.rel w w' ∨ C.noted x ∧ C.aside w w'

def heeding (noted : Fault → Prop) (aside : World → World → Prop) : Coupling := { C with noted, aside }

abbrev quiet : Coupling := C.heeding (fun _ => False) fun _ _ => False

def Match (f : α → β) : Except Fault α × World → Except Fault β × World → Prop
  | (.ok a, w), (.ok b, w') => b = f a ∧ C.rel w w'
  | (.ok _, _), (.error y, _) => C.excused y
  | (.error x, w), (.error y, w') => y = x ∧ C.Behind x w w' ∨ C.excused y
  | (.error _, _), (.ok _, _) => False

structure Follows (f : α → β) (e : Eval α) (e' : Eval β) : Prop where
  stays : ∀ w, C.out w → C.out (outcome e w).2
  ends : ∀ w w', C.rel w w' → C.out (outcome e w).2 ∨ C.Match f (outcome e w) (outcome e' w')

def Level (e : Eval α) (e' : Eval β) : Prop :=
  ∀ w w', C.rel w w' → ∀ a w₁ b w₁', outcome e w = (.ok a, w₁) → outcome e' w' = (.ok b, w₁') →
    C.out w₁ ∨ w₁.depth = w.depth

def Sim (f : α → β) (e : Eval α) (e' : Eval β) : Prop :=
  (∀ w, C.out w → C.out (outcome e w).2) ∧
    (∀ w w', C.rel w w' → C.out (outcome e w).2 ∨ C.Match f (outcome e w) (outcome e' w')) ∧ C.Level e e'

def Keeps (u u' : World → World) : Prop :=
  (∀ w, C.out w → C.out (u w)) ∧ ∀ w w', C.rel w w' → C.out (u w) ∨ C.rel (u w) (u' w')

abbrev Same [Renames α] (e e' : Eval α) : Prop := C.Sim C.names.on e e'

variable {C} {f : α → β} {g : γ → δ}

section Parts

variable {e : Eval α} {e' : Eval β} (he : C.Sim f e e')

include he

theorem Sim.stays : ∀ w, C.out w → C.out (outcome e w).2 := he.1

theorem Sim.ends : ∀ w w', C.rel w w' → C.out (outcome e w).2 ∨ C.Match f (outcome e w) (outcome e' w') := he.2.1

theorem Sim.level : C.Level e e' := he.2.2

theorem Sim.follows : C.Follows f e e' := ⟨he.stays, he.ends⟩

end Parts

/-- What never changes the depth. -/
theorem level_of {e : Eval α} {e' : Eval β} (h : ∀ w a w₁, outcome e w = (.ok a, w₁) → w₁.depth = w.depth) :
    C.Level e e' :=
  fun w _ _ a w₁ _ _ ends _ => .inr (h w a w₁ ends)

/-- What has no result. -/
theorem level_of_error {e : Eval α} {e' : Eval β} (h : ∀ w', ∃ y w₁', outcome e' w' = (.error y, w₁')) : C.Level e e' := by
  intro w w' _ a w₁ b w₁' _ ends
  obtain ⟨y, w₂, failed⟩ := h w'
  cases failed.symm.trans ends

/-- More faults may be noted. -/
theorem Sim.heeding {noted : Fault → Prop} {aside : World → World → Prop} {e : Eval α} {e' : Eval β} (he : C.Sim f e e')
    (more : ∀ x w w', C.noted x ∧ C.aside w w' → noted x ∧ aside w w') : (C.heeding noted aside).Sim f e e' := by
  refine ⟨he.1, fun w w' hr => (he.ends w w' hr).imp_right fun hm => ?_, he.level⟩
  revert hm
  rcases outcome e w with ⟨x | a, w₁⟩ <;> rcases outcome e' w' with ⟨y | b, w₁'⟩ <;> intro hm
  · exact hm.imp_left fun same => ⟨same.1, same.2.imp_right (more x w₁ w₁')⟩
  · exact hm
  · exact hm
  · exact hm

theorem Sim.of_quiet {e : Eval α} {e' : Eval β} (he : C.quiet.Sim f e e') : C.Sim f e e' :=
  he.heeding fun _ _ _ both => both.1.elim

/-- Where the first run has a result, it does not matter how faults compare. -/
theorem Sim.total {noted : Fault → Prop} {aside : World → World → Prop} {e : Eval α} {e' : Eval β} (he : C.Sim f e e')
    (total : ∀ w, ∃ a w₁, outcome e w = (.ok a, w₁)) : (C.heeding noted aside).Sim f e e' := by
  refine ⟨he.1, fun w w' hr => (he.ends w w' hr).imp_right fun hm => ?_, he.level⟩
  obtain ⟨a, w₁, ends⟩ := total w
  rw [ends] at hm ⊢
  revert hm
  rcases outcome e' w' with ⟨y | b, w₁'⟩ <;> exact id

theorem Sim.ret {a : α} {b : β} (h : b = f a) : C.Sim f (pure a) (pure b) :=
  ⟨fun _ hw => hw, fun _ _ hr => .inr ⟨h, hr⟩, level_of fun w _ _ ends => by cases ends; rfl⟩

theorem Sim.throws {x : Fault} (h : C.raised x) : C.Sim f (throw x) (throw x) :=
  ⟨fun _ hw => hw, fun _ _ hr => .inr (.inl ⟨rfl, .inl ⟨h, hr⟩⟩), level_of_error fun w => ⟨x, w, rfl⟩⟩

theorem Sim.raise (x : Fault) (h : x.isPlain = true) : C.Sim f (throw x) (throw x) := .throws (C.plain h)

theorem Sim.fails (m : Mishap) : C.Sim f (fail m) (fail m) := .raise _ rfl

theorem Follows.excused {y : Fault} {e : Eval α} {k : δ → Eval β} (hy : C.excused y)
    (he : ∀ w, C.out w → C.out (outcome e w).2) : C.Follows f e (throw y >>= k) := by
  refine ⟨he, fun w w' _ => .inr ?_⟩
  rw [outcome_bind, outcome_throw]
  rcases outcome e w with ⟨_ | _, _⟩
  · exact .inr hy
  · exact hy

/-- What would follow a failure does not matter. -/
theorem Sim.failing (m : Mishap) (k : δ → Eval α) (k' : δ → Eval β) : C.Sim f (fail m >>= k) (fail m >>= k') :=
  Sim.raise (.mishap m) rfl

theorem Follows.bind {e : Eval α} {e' : Eval β} {k : α → Eval γ} {k' : β → Eval δ} (he : C.Follows f e e')
    (hk : ∀ a, C.Follows g (k a) (k' (f a))) : C.Follows g (e >>= k) (e' >>= k') := by
  -- a first run that is out stays out, whatever follows
  have stays : ∀ w, C.out (outcome e w).2 → C.out (outcome (e >>= k) w).2 := by
    intro w hw
    rw [outcome_bind]
    rcases he : outcome e w with ⟨x | a, w₁⟩
    · rw [he] at hw
      exact hw
    · rw [he] at hw
      exact (hk a).1 w₁ hw
  refine ⟨fun w hw => stays w (he.1 w hw), fun w w' hr => ?_⟩
  rcases he.2 w w' hr with hout | hm
  · exact .inl (stays w hout)
  · rw [outcome_bind, outcome_bind]
    revert hm
    rcases outcome e w with ⟨x | a, w₁⟩ <;> rcases outcome e' w' with ⟨y | b, w₁'⟩ <;> intro hm
    · exact .inr hm
    · exact hm.elim
    · refine .inr ?_
      dsimp only
      rcases outcome (k a) w₁ with ⟨_ | _, _⟩
      · exact .inr hm
      · exact hm
    · obtain ⟨rfl, hr₁⟩ := hm
      exact (hk a).2 w₁ w₁' hr₁

/-- A result of a sequence comes of a result of its first part. -/
theorem outcome_bind_eq_ok {e : Eval α} {k : α → Eval γ} {w w₂ : World} {c : γ} (run : outcome (e >>= k) w = (.ok c, w₂)) :
    ∃ a w₁, outcome e w = (.ok a, w₁) ∧ outcome (k a) w₁ = (.ok c, w₂) := by
  rw [outcome_bind] at run
  revert run
  rcases outcome e w with ⟨x | a, w₁⟩ <;> intro run
  · cases run
  · exact ⟨a, w₁, rfl, run⟩

theorem Sim.bind {e : Eval α} {e' : Eval β} {k : α → Eval γ} {k' : β → Eval δ} (he : C.Sim f e e')
    (hk : ∀ a, C.Sim g (k a) (k' (f a))) : C.Sim g (e >>= k) (e' >>= k') := by
  have both := he.follows.bind fun a => (hk a).follows
  refine ⟨both.stays, both.ends, fun w w' hr c w₂ d w₂' run run' => ?_⟩
  obtain ⟨a, w₁, first, second⟩ := outcome_bind_eq_ok run
  obtain ⟨b, w₁', first', second'⟩ := outcome_bind_eq_ok run'
  have stays : C.out w₁ → C.out w₂ := by
    intro hout
    have := (hk a).stays w₁ hout
    rwa [second] at this
  have ends := he.ends w w' hr
  rw [first, first'] at ends
  rcases ends with hout | ⟨rfl, hr₁⟩
  · exact .inl (stays hout)
  · rcases he.level w w' hr a w₁ _ w₁' first first' with hout | same
    · exact .inl (stays hout)
    · exact ((hk a).level w₁ w₁' hr₁ c w₂ d w₂' second second').imp_right fun again => again.trans same

/-- A handler of the second run hands on what is excused. -/
theorem Follows.catches {noted : Fault → Prop} {e : Eval α} {e' : Eval β} {h : Fault → Eval α} {h' : Fault → Eval β}
    (he : (C.heeding noted C.aside).Follows f e e') (hh : ∀ x, C.raised x → C.Follows f (h x) (h' x))
    (hn : ∀ x w w', noted x → C.aside w w' → C.Match f (outcome (h x) w) (outcome (h' x) w'))
    (hout : ∀ x w, C.out w → C.out (outcome (h x) w).2)
    (hx : ∀ y w, C.excused y → (outcome (h' y) w).1 = .error y) :
    C.Follows f (tryCatch e h) (tryCatch e' h') := by
  have stays : ∀ w, C.out (outcome e w).2 → C.out (outcome (tryCatch e h) w).2 := by
    intro w hw
    rw [outcome_tryCatch]
    rcases he : outcome e w with ⟨x | a, w₁⟩ <;> rw [he] at hw
    · exact hout x w₁ hw
    · exact hw
  have ends : ∀ (r : Except Fault α × World) y w', C.excused y → C.Match f r (outcome (h' y) w') := by
    intro r y w' hy
    have := hx y w' hy
    rcases hr : outcome (h' y) w' with ⟨z | b, w₁'⟩ <;> rw [hr] at this <;> cases this
    rcases r with ⟨_ | _, _⟩
    · exact .inr hy
    · exact hy
  refine ⟨fun w hw => stays w (he.1 w hw), fun w w' hr => ?_⟩
  rcases he.2 w w' hr with hout | hm
  · exact .inl (stays w hout)
  · rw [outcome_tryCatch, outcome_tryCatch]
    revert hm
    rcases outcome e w with ⟨x | a, w₁⟩ <;> rcases outcome e' w' with ⟨y | b, w₁'⟩ <;> intro hm
    · rcases hm with ⟨rfl, ⟨raised, hr₁⟩ | ⟨noted, aside⟩⟩ | hy
      · exact (hh y raised).2 w₁ w₁' hr₁
      · exact .inr (hn y w₁ w₁' noted aside)
      · exact .inr (ends _ y w₁' hy)
    · exact hm.elim
    · exact .inr (ends _ y w₁' hm)
    · exact .inr hm

theorem Sim.congr {f' : α → β} {e : Eval α} {e' : Eval β} (he : C.Sim f e e') (h : ∀ a, f a = f' a) :
    C.Sim f' e e' := by
  rw [show f' = f from funext fun a => (h a).symm]
  exact he

/-- Results without references. -/
theorem Sim.inert [Inert α] {e e' : Eval α} (he : C.Sim id e e') : C.Same e e' :=
  he.congr fun a => (C.names.on_inert a).symm

theorem Sim.dropped {e : Eval α} {e' : Eval β} (he : C.Sim f e e') :
    C.Sim C.names.on (discard e) (discard e') :=
  he.bind fun _ => .ret rfl

theorem Sim.read (p : World → α) (p' : World → β) (h : ∀ w w', C.rel w w' → p' w' = f (p w)) :
    C.Sim f (do return p (← get)) (do return p' (← get)) :=
  ⟨fun _ hw => hw, fun w w' hr => .inr ⟨h w w' hr, hr⟩, level_of fun w _ _ ends => by cases ends; rfl⟩

theorem Follows.update {u u' : World → World} (h : C.Keeps u u') : C.Follows C.names.on (modify u) (modify u') := by
  refine ⟨h.1, fun w w' hr => ?_⟩
  rcases h.2 w w' hr with hout | hr
  · exact .inl hout
  · exact .inr ⟨rfl, hr⟩

theorem Sim.update {u u' : World → World} (h : C.Keeps u u') (level : ∀ w, (u w).depth = w.depth) :
    C.Same (modify u) (modify u') :=
  ⟨(Follows.update h).stays, (Follows.update h).ends, level_of fun w _ _ ends => by cases ends; exact level w⟩

theorem Sim.mapM {e : α → Eval γ} {e' : β → Eval δ} (he : ∀ a, C.Sim g (e a) (e' (f a))) (xs : List α) :
    C.Sim (List.map g) (xs.mapM e) ((xs.map f).mapM e') := by
  induction xs with
  | nil => exact .ret rfl
  | cons x xs ih =>
    simp only [List.map_cons, List.mapM_cons]
    exact (he x).bind fun _ => ih.bind fun _ => .ret rfl

theorem Sim.mapM_same {e : α → Eval γ} {e' : α → Eval δ} (he : ∀ a, C.Sim g (e a) (e' a)) (xs : List α) :
    C.Sim (List.map g) (xs.mapM e) (xs.mapM e') := by
  have := Sim.mapM (f := id) he xs
  rwa [List.map_id] at this

theorem Sim.forM {e : α → Eval PUnit} {e' : β → Eval PUnit} (he : ∀ a, C.Same (e a) (e' (f a))) (xs : List α) :
    C.Same (xs.forM e) ((xs.map f).forM e') := by
  induction xs with
  | nil => exact .ret rfl
  | cons x xs ih => exact (he x).bind fun _ => ih

theorem Sim.forM_same {e e' : α → Eval PUnit} (he : ∀ a, C.Same (e a) (e' a)) (xs : List α) :
    C.Same (xs.forM e) (xs.forM e') := by
  have := Sim.forM (f := id) he xs
  rwa [List.map_id] at this

theorem Sim.foldlM {ι κ : Type} {h : ι → κ} {e : α → ι → Eval α} {e' : β → κ → Eval β}
    (he : ∀ a i, C.Sim f (e a i) (e' (f a) (h i))) (a : α) (xs : List ι) :
    C.Sim f (xs.foldlM e a) ((xs.map h).foldlM e' (f a)) := by
  induction xs generalizing a with
  | nil => exact .ret rfl
  | cons x xs ih =>
    simp only [List.map_cons, List.foldlM_cons]
    exact (he a x).bind ih

theorem Sim.anyM {e : α → Eval Bool} {e' : β → Eval Bool} (he : ∀ a, C.Sim id (e a) (e' (f a))) (xs : List α) :
    C.Sim id (xs.anyM e) ((xs.map f).anyM e') := by
  induction xs with
  | nil => exact .ret rfl
  | cons x xs ih =>
    refine (he x).bind fun b => ?_
    cases b
    · exact ih
    · exact .ret rfl

theorem Sim.branch {p : Prop} [Decidable p] {a b : Eval α} {a' b' : Eval β} (ha : C.Sim f a a') (hb : C.Sim f b b') :
    C.Sim f (if p then a else b) (if p then a' else b') := by
  split
  · exact ha
  · exact hb

end Coupling

end Stencil.Engine
