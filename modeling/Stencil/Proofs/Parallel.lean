import Stencil.Proofs.Execution.Render
import Stencil.Proofs.Parsing

/-!
# Worlds that go along with each other

Everything that an evaluation does to the world is made of a few changes. Two worlds that differ in the texts they keep
compiled and in their logs at most take every change alike. So whatever relates them and is kept when one change is
made in both relates the worlds that any run leaves, and makes an agreement.
-/

set_option autoImplicit false

namespace Stencil.Engine

open Stencil.Template

/-! ## The identical renaming -/

namespace Renaming

def identity : Renaming := ⟨id, id, id, id, strictMono_id, strictMono_id, strictMono_id, strictMono_id⟩

section Containers

variable {α β κ : Type} [Renames α] [Renames β]

theorem list_self {ρ : Renaming} (h : ∀ a : α, ρ.on a = a) (xs : List α) : ρ.on xs = xs := by
  rw [on_list_eq, show (ρ.on : α → α) = id from funext h, List.map_id]

theorem option_self {ρ : Renaming} (h : ∀ a : α, ρ.on a = a) (x : Option α) : ρ.on x = x := by
  cases x with
  | none => rfl
  | some a => exact congrArg some (h a)

theorem pair_self {ρ : Renaming} (ha : ∀ a : α, ρ.on a = a) (hb : ∀ b : β, ρ.on b = b) (p : α × β) : ρ.on p = p := by
  rw [← Prod.eta p, on_pair, ha, hb]

theorem table_self {ρ : Renaming} (h : ∀ a : α, ρ.on a = a) (t : Table κ α) : ρ.on t = t := by
  rw [on_table, show (ρ.on : α → α) = id from funext h, Table.mapValues_id]

end Containers

mutual

theorem renamed_identity (v : Value) : v.renamed identity = v := by
  cases v with
  | tuple items => exact congrArg Value.tuple (renamedAll_identity items)
  | slice start stop stride =>
    show Value.slice (start.renamed identity) (stop.renamed identity) (stride.renamed identity) = _
    rw [renamed_identity start, renamed_identity stop, renamed_identity stride]
  | method owner id => exact congrArg (Value.method · id) (renamed_identity owner)
  | _ => rfl

theorem renamedAll_identity (vs : List Value) : renamedAll identity vs = vs := by
  cases vs with
  | nil => rfl
  | cons v rest =>
    show v.renamed identity :: renamedAll identity rest = _
    rw [renamed_identity v, renamedAll_identity rest]

end

theorem identity_value (v : Value) : identity.on v = v := renamed_identity v

theorem identity_env (env : Env) : identity.on env = env := by
  show { env with dropping := env.dropping.map identity.frame } = env
  rw [show identity.frame = id from rfl, Option.map_id]
  rfl

theorem identity_frame (f : Frame) : identity.on f = f := by
  show { f with
    outer := f.outer.map id, starts := identity.on f.starts, values := identity.on f.values } = f
  rw [table_self identity_value, table_self identity_value, Option.map_id]
  rfl

theorem identity_context (c : Context) : identity.on c = c := by
  show { c with
    parent := identity.on c.parent, vars := identity.on c.vars, escape := c.escape.map id } = c
  rw [table_self identity_value, table_self identity_value, Option.map_id]
  rfl

theorem identity_macroFn (m : Macro) : identity.on m = m := by
  show { m with env := identity.on m.env, escape := identity.on m.escape } = m
  rw [identity_env, identity_value]

theorem identity_bound (b : String × Option Value) : identity.on b = b :=
  pair_self (on_inert identity) (option_self identity_value) b

theorem identity_iter (it : Iter) : identity.on it = it := by
  cases it with
  | items typeName rest => exact congrArg (Iter.items typeName) (list_self identity_value rest)
  | entries dict kind size left place last =>
    exact congrArg (Iter.entries dict kind size left place) (option_self identity_value last)
  | guarded typeName owner size rest =>
    show Iter.guarded typeName (identity.on owner) size (identity.on rest) = _
    rw [identity_value, list_self identity_value]
  | tested source started env target test =>
    have same : (started.map fun s => (identity.object s.1, identity.on s.2)) = started := by
      cases started with
      | none => rfl
      | some s => exact congrArg some (congrArg (Prod.mk s.1) (table_self identity_value s.2))
    show Iter.tested (identity.on source) (started.map _) (identity.on env) target test = _
    rw [identity_value, same, identity_env]
  | sifted word env args named source seen =>
    show Iter.sifted word (identity.on env) (identity.on args) (identity.on named) (source.map id)
      (identity.on seen) = _
    rw [identity_env, list_self identity_value, list_self (pair_self (on_inert identity) identity_value),
      list_self identity_value, Option.map_id]
    rfl
  | leaking m bound =>
    show Iter.leaking (identity.on m) (identity.on bound) = _
    rw [identity_macroFn, list_self identity_bound]
  | _ => rfl

theorem identity_loop (l : Loop) : identity.on l = l := by
  show { l with
    iterable := identity.on l.iterable, source := l.source, fn := l.fn.map id, ahead := identity.on l.ahead,
    before := identity.on l.before, current := identity.on l.current,
    lastChanged := identity.on l.lastChanged } = l
  rw [identity_value, option_self identity_value, option_self identity_value, option_self identity_value,
    option_self (list_self identity_value), Option.map_id]
  rfl

theorem identity_object (o : Object) : identity.on o = o := by
  have entry (e : Value × Value) : identity.on e = e := pair_self identity_value identity_value e
  cases o with
  | list items => exact congrArg Object.list (list_self identity_value items)
  | dict entries insists => exact congrArg (Object.dict · insists) (list_self entry entries)
  | set items => exact congrArg Object.set (list_self identity_value items)
  | «namespace» entries => exact congrArg Object.namespace (list_self entry entries)
  | loop l => exact congrArg Object.loop (identity_loop l)
  | iter it => exact congrArg Object.iter (identity_iter it)
  | macroFn m => exact congrArg Object.macroFn (identity_macroFn m)
  | loopFn f => exact congrArg (fun env => Object.loopFn { f with env }) (identity_env f.env)
  | «module» m => exact congrArg (fun exports => Object.module { m with exports }) (table_self identity_value m.exports)

end Renaming

/-! ## Faithful caches -/

/-- A text that compiles under some tags is compiled alike under more. -/
theorem compiledText_of_subset {settings : Settings} {tags tags' : List String} {name file : Option String}
    {source : String} {c : Compiled} (more : tags ⊆ tags') (h : compiledText settings tags name file source = .ok c) :
    compiledText settings tags' name file source = .ok c := by
  unfold compiledText at h ⊢
  cases hp : parse settings.layout tags source with
  | error flaw =>
    rw [hp] at h
    cases h
  | ok body =>
    rw [hp] at h
    rw [parse_of_subset more hp]
    exact h

theorem mul_add_inj {b n m x y : Nat} (hx : x < b) (hy : y < b) (same : n * b + x = m * b + y) : n = m ∧ x = y := by
  have rests := congrArg (· % b) same
  simp only [Nat.mul_add_mod_self_right, Nat.mod_eq_of_lt hx, Nat.mod_eq_of_lt hy] at rests
  subst rests
  exact ⟨Nat.eq_of_mul_eq_mul_right (Nat.zero_lt_of_lt hx) (Nat.add_right_cancel same), rfl⟩

theorem eq_of_foldr_code {cs ds : List Char} (same : cs.foldr (fun c n => n * 2097152 + (c.toNat + 1)) 0 =
    ds.foldr (fun c n => n * 2097152 + (c.toNat + 1)) 0) : cs = ds := by
  have below (c : Char) : c.toNat + 1 < 2097152 := by
    have := c.val.toNat_lt
    rcases c.valid with h | ⟨-, h⟩ <;> (show c.val.toNat + 1 < _) <;> omega
  induction cs generalizing ds with
  | nil =>
    cases ds with
    | nil => rfl
    | cons d ds =>
      rw [List.foldr_nil, List.foldr_cons] at same
      exact absurd same.symm (Nat.succ_ne_zero _)
  | cons c cs ih =>
    rw [List.foldr_cons] at same
    cases ds with
    | nil => exact absurd same (Nat.succ_ne_zero _)
    | cons d ds =>
      rw [List.foldr_cons] at same
      obtain ⟨rest, first⟩ := mul_add_inj (below c) (below d) same
      rw [Char.toNat_inj.mp (Nat.succ.inj first), ih rest]

/-- No two texts have one number. -/
theorem numbering_injective : Function.Injective numbering := by
  intro s t same
  unfold numbering at same
  exact String.toList_inj.mp (eq_of_foldr_code (Int.ofNat_inj.mp same))

def World.Faithful (w : World) : Prop :=
  Function.Injective w.texts.digest ∧ ∀ e ∈ w.texts.kept.entries, ∀ source, w.texts.digest source = e.1.2 →
    compiledText w.settings w.registry.listTags none none source = .ok e.2

theorem World.Faithful.apart {w : World} (h : w.Faithful) : Function.Injective w.texts.digest := h.1

theorem World.Faithful.entries {w : World} (h : w.Faithful) {e : (String × Int) × Compiled} (kept : e ∈ w.texts.kept.entries)
    {source : String} (same : w.texts.digest source = e.1.2) :
    compiledText w.settings w.registry.listTags none none source = .ok e.2 := h.2 e kept source same

theorem World.Faithful.of_fields {w w' : World} (h : w.Faithful) (settings : w'.settings = w.settings)
    (registry : w'.registry = w.registry) (texts : w'.texts = w.texts) : w'.Faithful := by
  constructor
  · rw [texts]
    exact h.apart
  · rw [settings, registry, texts]
    exact h.2

theorem World.Faithful.of_empty {w : World} {size : Nat} (empty : w.texts = .ofSize size) : w.Faithful := by
  constructor
  · rw [empty]
    exact numbering_injective
  · intro e he
    rw [empty] at he
    cases he

theorem World.Faithful.of_find? {w : World} {name source : String} {c : Compiled} {texts : TextCache Compiled}
    (h : w.Faithful) (found : w.texts.find? name source = some (c, texts)) :
    compiledText w.settings w.registry.listTags none none source = .ok c ∧ { w with texts }.Faithful := by
  unfold TextCache.find? Cache.find? Cache.peek? at found
  cases hp : w.texts.kept.entries.find? (·.1 == w.texts.key name source) with
  | none => simp [hp] at found
  | some e =>
    have hmem : e ∈ w.texts.kept.entries := List.mem_of_find?_eq_some hp
    have hkey : e.1 = w.texts.key name source := by simpa using List.find?_some hp
    simp only [hp, Option.map_some, Option.some.injEq, Prod.mk.injEq] at found
    obtain ⟨rfl, rfl⟩ := found
    have held := h.2 e hmem
    rw [hkey] at held
    refine ⟨held source rfl, h.apart, fun e' he' => ?_⟩
    rcases List.mem_cons.mp he' with rfl | hrest
    · exact held
    · exact h.2 e' (List.mem_filter.mp hrest).1

theorem World.Faithful.insert {w : World} {name source : String} {c : Compiled} (h : w.Faithful)
    (hc : compiledText w.settings w.registry.listTags none none source = .ok c) :
    { w with texts := w.texts.insert name source c }.Faithful := by
  refine ⟨h.apart, fun e he => ?_⟩
  rcases List.mem_cons.mp (List.mem_of_mem_take he) with rfl | hrest
  · intro other same
    rw [h.apart same]
    exact hc
  · exact h.2 e (List.mem_filter.mp hrest).1

/-! ## Compiled texts -/

def World.HasRoom (w : World) : Prop := w.depth + compilingDepth ≤ callLimit

instance (w : World) : Decidable w.HasRoom := inferInstanceAs (Decidable (_ ≤ _))

theorem World.HasRoom.shallow {w : World} (h : w.HasRoom) : w.depth + 3 ≤ callLimit :=
  Nat.le_trans (Nat.add_le_add_left (by decide) _) h

def World.compiled (w : World) (name source : String) : Except Fault (Compiled × World) :=
  match w.texts.find? name source with
  | some (c, texts) => .ok (c, { w with texts })
  | none => (compiledText w.settings w.registry.listTags none none source).bind fun c =>
    if w.HasRoom then
      .ok (c, { w with texts := w.texts.insert name source c, log := w.log ++ [compilation name source] })
    else .error (.mishap .tooDeep)

/-- A text is had by finding it, or by compiling it where there is room for that. -/
theorem World.cases_of_compiled {name source : String} {w w₁ : World} {c : Compiled}
    (made : w.compiled name source = .ok (c, w₁)) :
    (∃ texts, w.texts.find? name source = some (c, texts) ∧ w₁ = { w with texts }) ∨
    (w.texts.find? name source = none ∧ compiledText w.settings w.registry.listTags none none source = .ok c ∧
      w₁ = { w with texts := w.texts.insert name source c, log := w.log ++ [compilation name source] }) := by
  unfold World.compiled at made
  cases found : w.texts.find? name source with
  | some kept =>
    rw [found] at made
    cases made
    exact .inl ⟨_, rfl, rfl⟩
  | none =>
    rw [found] at made
    cases compiled : compiledText w.settings w.registry.listTags none none source with
    | error x =>
      rw [compiled] at made
      cases made
    | ok had =>
      rw [compiled] at made
      change (if w.HasRoom then _ else _) = _ at made
      by_cases room : w.HasRoom
      · rw [if_pos room] at made
        cases made
        exact .inr ⟨rfl, rfl, rfl⟩
      · rw [if_neg room] at made
        cases made

theorem World.eq_of_compiled {name source : String} {w w₁ : World} {c : Compiled}
    (made : w.compiled name source = .ok (c, w₁)) : ∃ texts log, w₁ = { w with texts, log } := by
  rcases World.cases_of_compiled made with ⟨texts, -, rfl⟩ | ⟨-, -, rfl⟩ <;> exact ⟨_, _, rfl⟩

/-- A text that is not had does not compile, or there is no room for that. -/
theorem World.compiled_eq_error {name source : String} {w : World} {x : Fault} (failed : w.compiled name source = .error x) :
    compiledText w.settings w.registry.listTags none none source = .error x ∨ x = .mishap .tooDeep := by
  unfold World.compiled at failed
  split at failed
  · cases failed
  · cases compiled : compiledText w.settings w.registry.listTags none none source with
    | error y =>
      rw [compiled] at failed
      cases failed
      exact .inl rfl
    | ok c =>
      rw [compiled] at failed
      change (if w.HasRoom then _ else _) = _ at failed
      split at failed
      · cases failed
      · cases failed
        exact .inr rfl

theorem outcome_compileText (name source : String) (w : World) :
    outcome (compileText name source) w = match w.compiled name source with
      | .ok (c, w') => (.ok c, w')
      | .error f => (.error f, w) := by
  unfold compileText World.compiled
  rw [outcome_bind, outcome_get]
  dsimp only
  cases w.texts.find? name source with
  | some kept => rfl
  | none =>
    have compiled : outcome (compile none none source) w =
        (compiledText w.settings w.registry.listTags none none source, w) := by
      show outcome (liftExcept (compiledText w.settings w.registry.listTags none none source)) w = _
      cases compiledText w.settings w.registry.listTags none none source <;> rfl
    dsimp only
    rw [outcome_bind, compiled]
    cases compiledText w.settings w.registry.listTags none none source with
    | error f => rfl
    | ok c =>
      dsimp only [Except.bind]
      rw [outcome_bind, Agreement.outcome_needRoom]
      by_cases room : w.HasRoom
      · rw [if_pos room, if_neg (Nat.not_lt.mpr room)]
        rfl
      · rw [if_neg room, if_pos (Nat.not_le.mp room)]

theorem compiled_of_compileText {name source : String} {w w₁ : World} {c : Compiled}
    (run : outcome (compileText name source) w = (.ok c, w₁)) : w.compiled name source = .ok (c, w₁) := by
  rw [outcome_compileText] at run
  cases made : w.compiled name source with
  | error f =>
    rw [made] at run
    cases run
  | ok had =>
    rw [made] at run
    cases run
    rfl

/-- A text that is not had leaves everything as it was. -/
theorem eq_of_compileText_error {name source : String} {x : Fault} {w w' : World}
    (run : outcome (compileText name source) w = (.error x, w')) : w.compiled name source = .error x ∧ w' = w := by
  rw [outcome_compileText] at run
  cases made : w.compiled name source with
  | error f =>
    rw [made] at run
    cases run
    exact ⟨rfl, rfl⟩
  | ok had =>
    rw [made] at run
    cases run

def World.CanHave (w : World) (name source : String) : Prop := w.HasRoom ∨ (w.texts.find? name source).isSome = true

/-- Where the cache is faithful a text becomes what it is compiled to, and only the cache and the log change. -/
theorem outcome_compileText_faithful {w : World} {name source : String} (faithful : w.Faithful) (can : w.CanHave name source) :
    ∃ texts log, outcome (compileText name source) w =
        (compiledText w.settings w.registry.listTags none none source, { w with texts, log }) ∧
      { w with texts, log }.Faithful := by
  rw [outcome_compileText]
  unfold World.compiled
  cases found : w.texts.find? name source with
  | some kept =>
    obtain ⟨c, texts⟩ := kept
    obtain ⟨compiled, faithful'⟩ := faithful.of_find? found
    exact ⟨texts, w.log, by rw [compiled], faithful'⟩
  | none =>
    have room : w.HasRoom := can.resolve_right (by simp [found])
    cases compiled : compiledText w.settings w.registry.listTags none none source with
    | error f => exact ⟨w.texts, w.log, rfl, faithful⟩
    | ok c =>
      dsimp only [Except.bind]
      rw [if_pos room]
      exact ⟨_, _, rfl, (faithful.insert compiled).of_fields rfl rfl rfl⟩

theorem outcome_compileText_uncompiled {w : World} {source : String} {x : Fault} (faithful : w.Faithful)
    (uncompiled : compiledText w.settings w.registry.listTags none none source = .error x) (name : String) :
    outcome (compileText name source) w = (.error x, w) := by
  rw [outcome_compileText]
  unfold World.compiled
  cases found : w.texts.find? name source with
  | some kept =>
    have compiled := (faithful.of_find? found).1
    rw [uncompiled] at compiled
    cases compiled
  | none =>
    rw [uncompiled]
    rfl

/-- Where a text is not kept and cannot be compiled for want of room there is only a fault. -/
theorem outcome_compileText_deep {w : World} {name source : String} (deep : ¬ w.HasRoom)
    (missing : w.texts.find? name source = none) : outcome (compileText name source) w =
      ((compiledText w.settings w.registry.listTags none none source).bind fun _ => .error (.mishap .tooDeep), w) := by
  rw [outcome_compileText]
  unfold World.compiled
  rw [missing]
  cases compiledText w.settings w.registry.listTags none none source with
  | error f => rfl
  | ok c =>
    dsimp only [Except.bind]
    rw [if_neg deep]

theorem World.Faithful.of_compileText {w w' : World} {name source : String} {c : Compiled} (h : w.Faithful)
    (run : outcome (compileText name source) w = (.ok c, w')) : w'.Faithful := by
  rcases World.cases_of_compiled (compiled_of_compileText run) with ⟨texts, found, rfl⟩ | ⟨-, compiled, rfl⟩
  · exact (h.of_find? found).2
  · exact (h.insert compiled).of_fields rfl rfl rfl

theorem depth_of_compileText {name source : String} {w w₁ : World} {c : Compiled}
    (run : outcome (compileText name source) w = (.ok c, w₁)) : w₁.depth = w.depth := by
  obtain ⟨_, _, rfl⟩ := World.eq_of_compiled (compiled_of_compileText run)
  rfl

/-! ## Changes of the world -/

inductive Change (frames contexts : Ref → Prop) : World → World → Prop where
  | object (w : World) (o : Object) : Change frames contexts w { w with objects := w.objects.push o }
  | frame (w : World) (f : Frame) : Change frames contexts w { w with frames := w.frames.push f }
  | context (w : World) (c : Context) : Change frames contexts w { w with contexts := w.contexts.push c }
  | escape (w : World) (v : Value) : Change frames contexts w { w with escapes := w.escapes.push v }
  | template (w : World) (c : Compiled) : Change frames contexts w { w with templates := w.templates.push c }
  | writeObject (w : World) (r : Ref) (u : Object → Object) :
    Change frames contexts w { w with objects := w.objects.modify r u }
  | writeFrame (w : World) (r : Ref) (u : Frame → Frame) (writes : frames r) :
    Change frames contexts w { w with frames := w.frames.modify r u }
  | writeContext (w : World) (r : Ref) (u : Context → Context) (writes : contexts r) :
    Change frames contexts w { w with contexts := w.contexts.modify r u }
  | writeEscape (w : World) (r : Ref) (v : Value) :
    Change frames contexts w { w with escapes := w.escapes.modify r fun _ => v }
  | loaded (w : World) (loaded : Cache String LoadedFile) : Change frames contexts w { w with loaded }
  | module (w : World) (t r : Ref) : Change frames contexts w { w with modules := w.modules.insert t r }
  | mark (w : World) (n : Nat) : Change frames contexts w { w with mark := n }
  | depth (w : World) (n : Nat) : Change frames contexts w { w with depth := n }
  | log (w : World) (line : LogLine) (other : line.isCompilation = false) :
    Change frames contexts w { w with log := w.log ++ [line] }
  | events (w : World) (events : List Event) : Change frames contexts w { w with events }
  -- a text is compiled or found compiled
  | compiled (w : World) (texts : TextCache Compiled) (log : List LogLine) (name source : String) (c : Compiled)
    (run : outcome (compileText name source) w = (.ok c, { w with texts, log })) :
    Change frames contexts w { w with texts, log }

section Change

variable {frames contexts : Ref → Prop} {w w' : World}

theorem Change.fields (h : Change frames contexts w w') :
    w'.settings = w.settings ∧ w'.registry = w.registry ∧ w'.files = w.files := by
  cases h <;> exact ⟨rfl, rfl, rfl⟩

theorem Change.faithful (h : Change frames contexts w w') (faithful : w.Faithful) : w'.Faithful := by
  cases h with
  | compiled _ _ _ _ _ run => exact faithful.of_compileText run
  | _ => exact faithful.of_fields rfl rfl rfl

end Change

/-! ## Changes of two worlds -/

structure Parallel where
  rel : World → World → Prop
  -- the frames and contexts that may be written
  frames : Ref → Prop := fun _ => True
  contexts : Ref → Prop := fun _ => True
  -- the tags that may be used
  tags : Tag → Prop := fun _ => True
  -- the faults that may occur
  raised : Fault → Prop := fun _ => True
  -- the second run may be too deep where the first is not
  cut : Bool := false
  alike : ∀ {w w' : World}, rel w w' → ∃ texts log, w' = { w with texts, log }
  newest_frame : ∀ {w w' : World}, rel w w' → frames w.frames.size
  newest_context : ∀ {w w' : World}, rel w w' → contexts w.contexts.size
  plain : ∀ {x : Fault}, x.isPlain = true → raised x
  kept : ∀ {w w' : World} {u : World → World}, (∀ v, Change frames contexts v (u v)) →
    (∀ v texts log, ∃ log', u { v with texts, log } = { u v with texts, log := log' }) → rel w w' → rel (u w) (u w')

namespace Parallel

def excuses : Bool → Fault → Prop
  | true, y => y = .mishap .tooDeep
  | false, _ => False

theorem excuses_cases {cut : Bool} {y : Fault} (h : excuses cut y) : y = .outOfFuel ∨ y = .mishap .tooDeep := by
  cases cut with
  | true => exact .inr h
  | false => exact h.elim

variable (P : Parallel)

def coupling : Coupling where
  names := Renaming.identity
  rel := P.rel
  out _ := False
  excused := excuses P.cut
  raised := P.raised
  plain := P.plain

theorem linked {w w' : World} (h : P.rel w w') : Linked Renaming.identity 0 w w' := by
  obtain ⟨texts, log, rfl⟩ := P.alike h
  have same {α : Type} [Renames α] (hα : ∀ a : α, Renaming.identity.on a = a) (x : Option α) :
      x = x.map Renaming.identity.on := (Renaming.option_self hα x).symm
  exact
    { settings := rfl
      registry := rfl
      files := rfl
      object := fun r => same Renaming.identity_object w.objects[r]?
      frame := fun r => same Renaming.identity_frame w.frames[r]?
      context := fun r => same Renaming.identity_context w.contexts[r]?
      escape := fun r => same Renaming.identity_value w.escapes[r]?
      templates := rfl
      loaded := rfl
      modules := (Table.mapValues_id w.modules).symm
      mark := rfl
      depth := rfl
      events := rfl }

theorem keeps {u : World → World} (change : ∀ w, Change P.frames P.contexts w (u w))
    (follows : ∀ w texts log, ∃ log', u { w with texts, log } = { u w with texts, log := log' }) : P.coupling.Keeps u u :=
  ⟨fun _ => id, fun _ _ h => .inr (P.kept change follows h)⟩

/-- Both worlds take a new cell of the same number. -/
theorem sim_push {size : World → Nat} {u : World → World} {name : Ref → Ref} (hname : name = id)
    (hsize : ∀ w texts log, size { w with texts, log } = size w) (level : ∀ w, (u w).depth = w.depth)
    (hu : P.coupling.Keeps u u) :
    P.coupling.Sim name (modifyGet fun w => (size w, u w)) (modifyGet fun w => (size w, u w)) := by
  refine ⟨fun _ => id, fun w w' h => .inr ⟨?_, (hu.2 w w' h).resolve_left id⟩, Coupling.level_of fun w _ _ ends => ?_⟩
  swap
  · cases ends
    exact level w
  obtain ⟨texts, log, rfl⟩ := P.alike h
  rw [hname]
  exact hsize w texts log

theorem known {w : World} (h : P.coupling.out w ∨ ∃ w', P.coupling.rel w w') : ∃ w', P.rel w w' := h.resolve_left id

def agreement : Agreement where
  toCoupling := P.coupling
  gap := 0
  frames := P.frames
  contexts := P.contexts
  tags := P.tags
  linked := P.linked
  excused_cases := excuses_cases
  excused_deep := .inl rfl
  noted_apart := Coupling.apart_of_unnoted
  aside_depth := Coupling.never_aside
  newest_frame h := (P.known h).elim fun _ => P.newest_frame
  newest_context h := (P.known h).elim fun _ => P.newest_context
  push_object o := by
    rw [show P.coupling.names.on o = o from Renaming.identity_object o]
    exact P.sim_push rfl (fun _ _ _ => rfl) (fun _ => rfl) (P.keeps (fun w => .object w o) fun _ _ log => ⟨log, rfl⟩)
  push_frame f := by
    rw [show P.coupling.names.on f = f from Renaming.identity_frame f]
    exact P.sim_push rfl (fun _ _ _ => rfl) (fun _ => rfl) (P.keeps (fun w => .frame w f) fun _ _ log => ⟨log, rfl⟩)
  push_context c := by
    rw [show P.coupling.names.on c = c from Renaming.identity_context c]
    exact P.sim_push rfl (fun _ _ _ => rfl) (fun _ => rfl) (P.keeps (fun w => .context w c) fun _ _ log => ⟨log, rfl⟩)
  push_escape v := by
    rw [show P.coupling.names.on v = v from Renaming.identity_value v]
    exact P.sim_push rfl (fun _ _ _ => rfl) (fun _ => rfl) (P.keeps (fun w => .escape w v) fun _ _ log => ⟨log, rfl⟩)
  push_template c := P.sim_push rfl (fun _ _ _ => rfl) (fun _ => rfl) (P.keeps (fun w => .template w c) fun _ _ log => ⟨log, rfl⟩)
  write_object r u u' hu := by
    obtain rfl : u' = u := funext fun o => by
      have := hu o
      rwa [show P.coupling.names.on = id from funext Renaming.identity_object] at this
    exact .update (P.keeps (fun w => .writeObject w r u') fun _ _ log => ⟨log, rfl⟩) fun _ => rfl
  write_frame r u u' hr hu := by
    obtain rfl : u' = u := funext fun f => by
      have := hu f
      rwa [show P.coupling.names.on = id from funext Renaming.identity_frame] at this
    exact .update (P.keeps (fun w => .writeFrame w r u' hr) fun _ _ log => ⟨log, rfl⟩) fun _ => rfl
  write_context r u u' hr hu := by
    obtain rfl : u' = u := funext fun c => by
      have := hu c
      rwa [show P.coupling.names.on = id from funext Renaming.identity_context] at this
    exact .update (P.keeps (fun w => .writeContext w r u' hr) fun _ _ log => ⟨log, rfl⟩) fun _ => rfl
  write_escape r v := by
    rw [show P.coupling.names.on v = v from Renaming.identity_value v]
    exact P.keeps (fun w => .writeEscape w r v) fun _ _ log => ⟨log, rfl⟩
  write_loaded c := .update (P.keeps (fun w => .loaded w c) fun _ _ log => ⟨log, rfl⟩) fun _ => rfl
  write_module t r := .update (P.keeps (fun w => .module w t r) fun _ _ log => ⟨log, rfl⟩) fun _ => rfl
  write_mark n := P.keeps (fun w => .mark w n) fun _ _ log => ⟨log, rfl⟩
  write_depth n := P.keeps (fun w => .depth w n) fun _ _ log => ⟨log, rfl⟩
  write_log line other := .update (P.keeps (fun w => .log w line other) fun _ _ log => ⟨log ++ [line], rfl⟩) fun _ => rfl
  write_events u := P.keeps (fun w => .events w (u w.events)) fun _ _ log => ⟨log, rfl⟩

end Parallel

end Stencil.Engine
