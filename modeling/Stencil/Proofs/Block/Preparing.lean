import Stencil.Engine.Load
import Stencil.Proofs.Block.Reading
import Stencil.Proofs.Coupling
import Stencil.Proofs.Parsing

/-!
# Preparing render blocks

The scopes of render blocks in each other, and what becomes of their trees before they run: nothing is folded in a
reference, literal text becomes fixed, and every block indents the lines of its body once more. Lines may only be
indented so deep, which bounds how many blocks can stand in each other.
-/

set_option autoImplicit false

namespace Stencil.Template

/-! ## Mentions and scopes -/

theorem mentionsOf_append (a b : List Node) : mentionsOf (a ++ b) = mentionsOf a ++ mentionsOf b := by
  induction a with
  | nil => rfl
  | cons n a ih => rw [List.cons_append, mentionsOf, mentionsOf, ih, List.append_assoc]

/-- The names that render blocks around a reference mention. -/
theorem id_of_mem_mentions_nested {n : Nat} {m : Mention} (h : m ∈ mentionsOf (nestedTree n)) :
    m.id ∈ ["loop", bodyLocals, "x"] := by
  induction n with
  | zero =>
    rcases List.mem_singleton.mp h with rfl
    decide
  | succ n ih =>
    rw [nestedTree, mentionsOf, renderNode, Node.mentions, mentionsOf_append] at h
    simp only [reading, binding, mentionsOf, Node.mentions, List.mem_append, List.map_cons, List.map_nil, List.mem_cons,
      List.not_mem_nil, or_false] at h
    rcases h with (rfl | rfl) | h | rfl
    · decide
    · decide
    · exact ih h
    · decide

theorem isFree_of_unmentioned {id : String} {nodes : List Node} (h : ∀ m ∈ mentionsOf nodes, m.id ≠ id) :
    isFree id nodes = false := by
  have none : (mentionsOf nodes).find? (·.id == id) = none := by
    rw [List.find?_eq_none]
    intro m hm same
    exact h m hm (beq_iff_eq.mp same)
  rw [isFree, none]

theorem blocksOf_append (a b : List Node) : blocksOf (a ++ b) = blocksOf a ++ blocksOf b := by
  induction a with
  | nil => rfl
  | cons n a ih => rw [List.cons_append, blocksOf, blocksOf, ih, List.append_assoc]

theorem blocksOf_nested (n : Nat) : blocksOf (nestedTree n) = [] := by
  induction n with
  | zero => rfl
  | succ n ih =>
    rw [nestedTree, renderNode, blocksOf, Node.blocks, blocksOf_append, ih]
    rfl

theorem anyExtends_append (a b : List Node) : anyExtends (a ++ b) = (anyExtends a || anyExtends b) := by
  induction a with
  | nil => rfl
  | cons n a ih => rw [List.cons_append, anyExtends, anyExtends, ih, Bool.or_assoc]

theorem anyExtends_nested (n : Nat) : anyExtends (nestedTree n) = false := by
  induction n with
  | zero => rfl
  | succ n ih =>
    rw [nestedTree, renderNode, anyExtends, Node.hasExtends, anyExtends_append, ih]
    rfl

def blockParams : Params := ⟨[bodyLocals], []⟩

def Unspecial (body : List Node) : Prop := ∀ id ∈ ["caller", "kwargs", "varargs"], isFree id (body ++ [.collect]) = false

theorem specialParams_eq_nil {body : List Node} (h : Unspecial body) :
    Scopes.specialParams blockParams (body ++ [.collect]) = [] := by
  rw [Scopes.specialParams, List.filter_eq_nil_iff]
  intro id hid
  rw [h id hid, Bool.and_false]
  exact Bool.false_ne_true

theorem unspecial_nested (n : Nat) : Unspecial (nestedTree n) := by
  have apart : ∀ id ∈ ["caller", "kwargs", "varargs"], id ∉ ["loop", bodyLocals, "x"] := by decide
  intro id hid
  refine isFree_of_unmentioned fun m hm same => apart id hid (same ▸ ?_)
  rw [mentionsOf_append, List.mem_append] at hm
  rcases hm with hm | hm
  · exact id_of_mem_mentions_nested hm
  · rcases List.mem_singleton.mp hm with rfl
    decide

def blockScope (outer : Scopes) (read : List (String × Origin)) : Scope :=
  ⟨outer.nextDepth, ⟨(bodyLocals, .param) :: read⟩, [bodyLocals]⟩

theorem functionBody_block (outer : Scopes) (body : List Node) (special : Unspecial body) :
    Scopes.functionBody outer blockParams (body ++ [.collect]) =
      (scanAll outer (blockScope outer []) (body ++ [.collect])) :: outer := by
  rw [Scopes.functionBody, specialParams_eq_nil special]
  rfl

theorem load_known {outer : Scopes} {s : Scope} {id : String} (h : s.names.has id = true ∨ (outer.find? id).isSome = true) :
    s.load outer id = s := by
  rw [Scope.load, if_pos]
  rwa [Bool.or_eq_true]

theorem functionBody_nested {outer : Scopes} (counts : (outer.find? "loop").isSome = true) (n : Nat) :
    Scopes.functionBody outer blockParams (nestedTree (n + 1) ++ [.collect]) = blockScope outer [] :: outer := by
  rw [functionBody_block outer _ (unspecial_nested (n + 1)), nestedTree, renderNode, List.cons_append, List.nil_append,
    scanAll, Node.scan, load_known (.inr counts)]
  rfl

theorem functionBody_reference {outer : Scopes} (unknown : outer.find? "x" = none) :
    Scopes.functionBody outer blockParams (nestedTree 0 ++ [.collect]) =
      blockScope outer [("x", .resolve)] :: outer := by
  have loads : (blockScope outer []).load outer "x" = blockScope outer [("x", .resolve)] := by
    rw [Scope.load, unknown]
    rfl
  rw [functionBody_block outer _ (unspecial_nested 0)]
  show (((blockScope outer []).load outer "x").load outer bodyLocals) :: outer = _
  rw [loads]
  rfl

theorem isFree_self_nested (n : Nat) : isFree "self" (nestedTree n) = false := by
  have apart : "self" ∉ ["loop", bodyLocals, "x"] := by decide
  exact isFree_of_unmentioned fun m hm same => apart (same ▸ id_of_mem_mentions_nested hm)

/-- The scope of a template that consists of render blocks. -/
theorem unit_nested (n : Nat) : Scopes.unit ["self"] (nestedTree (n + 1)) = [⟨0, ⟨[("loop", .resolve)]⟩, []⟩] := by
  rw [Scopes.unit, List.filter_cons, isFree_self_nested]
  rfl

end Stencil.Template

namespace Stencil.Engine

open Stencil.Template

/-! ## Preparation -/

def Progress.noted (progress : Progress) (deep : Bool) : Progress :=
  if deep then { progress with unreadable := progress.unreadable.or (some .badIndentation) } else progress

theorem Progress.noted_noted (progress : Progress) (first second : Bool) :
    (progress.noted first).noted second = progress.noted (first || second) := by
  cases first <;> cases second <;> simp [noted]

theorem Progress.stopped_noted (progress : Progress) (deep : Bool) : (progress.noted deep).stopped = progress.stopped := by
  cases deep <;> rfl

section Preparation

variable {α β : Type}

def Settles (act : Preparing α) (a : α) : Prop :=
  ∀ (progress : Progress) (w : World), progress.stopped = false →
    outcome (act.run progress) w = (.ok (a, progress), w)

theorem Settles.ret (a : α) : Settles (pure a) a := fun _ _ _ => rfl

theorem Settles.bind {act : Preparing α} {k : α → Preparing β} {a : α} {b : β} (h : Settles act a) (hk : Settles (k a) b) :
    Settles (act >>= k) b := by
  intro progress w go
  rw [StateT.run_bind, outcome_bind, h progress w go]
  exact hk progress w go

theorem Settles.lift {act : Eval α} {a : α} (h : ∀ w, outcome act w = (.ok a, w)) : Settles (liftM act) a := by
  intro progress w _
  show outcome (act >>= fun a => pure (a, progress)) w = _
  rw [outcome_bind, h]
  rfl

theorem settles_noteBrackets {n : Nat} (h : n ≤ bracketLimit) : Settles (noteBrackets n) () := by
  unfold noteBrackets
  rw [if_neg (Nat.not_lt.mpr h)]
  exact .ret ()

def Notes (act : Preparing α) (a : α) (deep : Bool) : Prop :=
  ∀ (progress : Progress) (w : World), progress.stopped = false →
    outcome (act.run progress) w = (.ok (a, progress.noted deep), w)

theorem Settles.notes {act : Preparing α} {a : α} (h : Settles act a) : Notes act a false := h

theorem Notes.bind {act : Preparing α} {k : α → Preparing β} {a : α} {b : β} {first second : Bool} (h : Notes act a first)
    (hk : Notes (k a) b second) : Notes (act >>= k) b (first || second) := by
  intro progress w go
  rw [StateT.run_bind, outcome_bind, h progress w go, ← Progress.noted_noted]
  exact hk _ w ((progress.stopped_noted first).trans go)

theorem notes_noteIndent (p : Position) (more : Nat) : Notes (noteIndent p more) () (decide (indentLimit < p.indent + more)) := by
  intro progress w _
  unfold noteIndent
  by_cases deep : indentLimit < p.indent + more
  · rw [if_pos deep, decide_eq_true deep]
    rfl
  · rw [if_neg deep, decide_eq_false deep]
    rfl

variable (I : Interp) (s : Subject) {p : Position}

theorem settles_collect : Settles (prepareNode I s p .collect) .collect := by
  unfold prepareNode
  exact .ret _

theorem settles_mapM_single {f : α → Preparing β} {a : α} {b : β} (h : Settles (f a) b) : Settles ([a].mapM f) [b] := by
  rw [List.mapM_cons, List.mapM_nil]
  exact h.bind ((Settles.ret []).bind (.ret [b]))

/-- A name is left to the run. -/
theorem settles_name {line around : Nat} (sure : p.mode.unsure = false) (known : (p.scopes.find? "x").isSome = true)
    (shallow : around ≤ 3) : Settles (prepareIn I s p around (.name "x" line)) (.name "x" line) := by
  have kept : Settles (folded I s p (.name "x" line)) (.name "x" line) := by
    unfold folded
    rw [show (Expr.name "x" line).height = 1 from rfl, if_neg (by decide), sure]
    exact Settles.lift fun _ => rfl
  have bound : Settles (checkExpr s p (.name "x" line)) () := by
    unfold checkExpr
    rw [if_neg]
    · exact .ret ()
    · simp [Option.isSome_iff_ne_none.mp known]
  have brackets : (Expr.name "x" line).brackets p.scopes ≤ 2 := by
    unfold Expr.brackets
    split <;> omega
  unfold prepareIn prepareExpr
  refine Settles.bind (kept.bind (bound.bind (.ret _))) ((settles_noteBrackets ?_).bind (.ret _))
  exact Nat.le_trans (Nat.add_le_add shallow brackets) (by decide)

theorem settles_reference (line : Nat) (sure : p.mode.unsure = false) (known : (p.scopes.find? "x").isSome = true) :
    Settles (preparePieces I s p [.value (.name "x" line)]) [.value (.name "x" line)] := by
  have unfixed : Settles (fixPiece I s p (.value (.name "x" line))) (.value (.name "x" line)) := by
    unfold fixPiece
    dsimp only
    rw [show (Expr.name "x" line).height = 1 from rfl, if_neg (by decide)]
    exact Settles.bind (a := none) (Settles.lift fun _ => rfl) (.ret _)
  unfold preparePieces
  refine (settles_mapM_single unfixed).bind (settles_mapM_single ?_)
  refine (settles_name I s sure known ?_).bind (.ret _)
  split
  · decide
  · split <;> decide

/-- Literal text is fixed where it is settled whether results are escaped. -/
theorem settles_data (text : String) (sure : p.mode.unsure = false) :
    Settles (preparePieces I s p [.data text]) [.fixed text none] := by
  have fixed : Settles (fixPiece I s p (.data text)) (.fixed text none) := by
    unfold fixPiece
    rw [sure]
    exact .ret _
  unfold preparePieces
  exact (settles_mapM_single fixed).bind (settles_mapM_single (.ret _))

theorem notes_prepareBody_nil : Notes (prepareBody I s p []) [] (decide (indentLimit < p.indent)) := by
  intro progress w go
  have going : { progress.noted (decide (indentLimit < p.indent)) with stopped := false } =
      progress.noted (decide (indentLimit < p.indent)) := by
    rw [← go, ← progress.stopped_noted (decide (indentLimit < p.indent))]
  unfold prepareBody
  rw [StateT.run_bind, outcome_bind, notes_noteIndent p 0 progress w go]
  exact congrArg (fun progress => ((Except.ok ([], progress) : Except Fault (List Node × Progress)), w)) going

theorem notes_prepareBody_cons {node node' : Node} {rest rest' : List Node} {deep deeper : Bool}
    (first : Notes (prepareNode I s p node) node' deep) (others : Notes (prepareBody I s p rest) rest' deeper) :
    Notes (prepareBody I s p (node :: rest)) (node' :: rest') (decide (indentLimit < p.indent) || (deep || deeper)) := by
  unfold prepareBody
  refine (notes_noteIndent p 0).bind (first.bind ?_)
  intro progress w go
  show outcome ((if progress.stopped then _ else _ : Preparing (List Node)).run progress) w = _
  rw [go, if_neg Bool.false_ne_true, ← Bool.or_false deeper]
  exact others.bind (k := fun more => pure (node' :: more)) (Settles.ret _).notes progress w go

theorem notes_collect : Notes (prepareBody I s p [.collect]) [.collect] (decide (indentLimit < p.indent)) := by
  have whole := notes_prepareBody_cons I s (settles_collect I s).notes (notes_prepareBody_nil I s (p := p))
  rwa [Bool.false_or, Bool.or_self] at whole

/-- A tag is prepared with its body, whose lines are indented once more. -/
theorem notes_tagBlock (tag markup : String) {body body' : List Node} {deep : Bool}
    (inner : Notes (prepareBody I s (p.function (Scopes.functionBody p.scopes blockParams body)) body) body' deep) :
    Notes (prepareNode I s p (.tagBlock tag markup body)) (.tagBlock tag markup body')
      (decide (indentLimit < p.indent + 2) || deep) := by
  unfold prepareNode
  rw [← Bool.or_false deep]
  exact (notes_noteIndent _ 1).bind (inner.bind (Settles.ret _).notes)

/-- Output that is written in any case. -/
theorem notes_output {pieces pieces' : List Piece} (written : p.dropsOutput = false)
    (prepared : Settles (preparePieces I s p pieces) pieces') :
    Notes (prepareNode I s p (.output pieces)) (.output pieces') (decide (indentLimit < p.indent)) := by
  unfold prepareNode
  intro progress w go
  show outcome ((if (p.dropsOutput && progress.certain) = true then _ else _ : Preparing Node).run progress) w = _
  rw [written, Bool.false_and, if_neg Bool.false_ne_true, if_neg Bool.false_ne_true, ← Bool.or_false (decide _)]
  exact ((notes_noteIndent p 0).bind (prepared.bind (k := fun pieces => pure (Node.output pieces)) (.ret _)).notes) progress w go

def fixedTree (cs : List Char) : List Node := if cs.isEmpty then [] else [.output [.fixed (String.ofList cs) none]]

/-- A piece of text before other statements. -/
theorem notes_clearTree (text : List Char) (written : p.dropsOutput = false) (sure : p.mode.unsure = false)
    {rest rest' : List Node} {deep : Bool} (others : Notes (prepareBody I s p rest) rest' deep)
    (least : indentLimit < p.indent → deep = true) :
    Notes (prepareBody I s p (clearTree text ++ rest)) (fixedTree text ++ rest') deep := by
  cases text with
  | nil => exact others
  | cons c cs =>
    have same : (decide (indentLimit < p.indent) || (decide (indentLimit < p.indent) || deep)) = deep := by
      by_cases beyond : indentLimit < p.indent
      · simp [least beyond]
      · simp [beyond]
    have whole := notes_prepareBody_cons I s
      (notes_output I s written (settles_data I s (String.ofList (c :: cs)) sure)) others
    rwa [same] at whole

structure Fitting (scopes : Scopes) : Prop where
  reads : scopes.find? "x" = none
  counts : (scopes.find? "loop").isSome = true

theorem Fitting.block {scopes : Scopes} (h : Fitting scopes) : Fitting (blockScope scopes [] :: scopes) :=
  ⟨h.reads, h.counts⟩

/-- Blocks in each other are prepared with the innermost one, whose lines are indented most. -/
theorem notes_nested (n : Nat) (sure : p.mode.unsure = false) (fitting : Fitting p.scopes) :
    Notes (prepareNode I s p (renderNode (nestedTree n))) (renderNode (nestedTree n))
      (decide (indentLimit < p.indent + n + 2)) := by
  induction n generalizing p with
  | zero =>
    have known : (Scopes.find? (Scopes.functionBody p.scopes blockParams (nestedTree 0 ++ [.collect])) "x").isSome = true := by
      rw [functionBody_reference fitting.reads]
      rfl
    have block := notes_tagBlock I s (p := p) "render" "" (notes_prepareBody_cons I s
      (notes_output I s rfl (settles_reference I s 1 sure known)) (notes_collect I s))
    have deepest : (decide (indentLimit < p.indent + 2) || (decide (indentLimit < p.indent + 1) ||
        (decide (indentLimit < p.indent + 1) || decide (indentLimit < p.indent + 1)))) = decide (indentLimit < p.indent + 2) := by
      rw [Bool.eq_iff_iff]
      simp only [Bool.or_eq_true, decide_eq_true_eq]
      omega
    exact deepest ▸ block
  | succ n ih =>
    let q := p.function (Scopes.functionBody p.scopes blockParams (nestedTree (n + 1) ++ [.collect]))
    have fitting' : Fitting q.scopes := by
      show Fitting (Scopes.functionBody p.scopes blockParams (nestedTree (n + 1) ++ [.collect]))
      rw [functionBody_nested fitting.counts]
      exact fitting.block
    have block := notes_tagBlock I s "render" "" (notes_prepareBody_cons I s (ih (p := q) sure fitting') (notes_collect I s))
    have deepest : (decide (indentLimit < p.indent + 2) || (decide (indentLimit < p.indent + 1) ||
        (decide (indentLimit < p.indent + 1 + n + 2) || decide (indentLimit < p.indent + 1)))) =
        decide (indentLimit < p.indent + (n + 1) + 2) := by
      rw [Bool.eq_iff_iff]
      simp only [Bool.or_eq_true, decide_eq_true_eq]
      omega
    exact deepest ▸ block

end Preparation

/-! ## Compiled texts -/

def topPlace (settings : Settings) (body : List Node) : Position :=
  { scopes := Scopes.unit ["self"] body, mode := ⟨settings.escape, false⟩, top := true, root := true }

/-- A text without named blocks and without a parent is compiled to its prepared statements. -/
theorem compiledText_of_notes {settings : Settings} {tags : List String} {name file : Option String} {source : String}
    {body body' : List Node} {b : Bool} (read : parse settings.layout tags source = .ok body) (blocks : blocksOf body = [])
    (alone : anyExtends body = false) (prepared : ∀ I s, Notes (prepareBody I s (topPlace settings body) body) body' b) :
    compiledText settings tags name file source =
      if b then .error (.mishap .badIndentation) else .ok ⟨name, file, body', [], false⟩ := by
  have walk (I : Interp) (s : Subject) : Notes (do
      checkBlockNames s [] []
      let prepared ← prepareBody I s (topPlace settings body) body
      return ⟨name, file, prepared, ← [].mapM (prepareBlock I s ⟨settings.escape, false⟩), false⟩)
      (⟨name, file, body', [], false⟩ : Compiled) b := by
    rw [← Bool.or_false b, ← Bool.false_or (b || false)]
    refine Notes.bind (a := ()) (Settles.ret ()).notes ((prepared I s).bind (Settles.notes ?_))
    rw [List.mapM_nil]
    exact Settles.bind (.ret []) (.ret _)
  unfold compiledText
  rw [read]
  show (outcome (prepare (tied earlyStage plenty) name file body) { settings, texts := .ofSize 0 }).1 = _
  unfold prepare
  simp only [blocks, alone, outcome_bind, outcome_get, newEscape, newContext, outcome_modifyGet]
  simp only [topPlace] at walk
  rw [walk (tied earlyStage plenty) ⟨name, file, _⟩ {} _ rfl]
  cases b <;> rfl

section Compiled

variable (settings : Settings)

theorem compiledText_nested {tags : List String} (known : "render" ∈ tags) {n : Nat} (some : 0 < n)
    (borne : 4 * n + 11 ≤ Parse.depthLimit) : compiledText settings tags none none (String.ofList (nestedText n)) =
      if 97 < n then .error (.mishap .badIndentation) else .ok ⟨none, none, nestedTree n, [], false⟩ := by
  have more : renderOnly ⊆ tags := by
    intro tag h
    rcases List.mem_singleton.mp h with rfl
    exact known
  obtain ⟨m, rfl⟩ : ∃ m, n = m + 1 := ⟨n - 1, by omega⟩
  have fitting : Fitting (topPlace settings (nestedTree (m + 1))).scopes := by
    show Fitting (Scopes.unit ["self"] (nestedTree (m + 1)))
    rw [unit_nested]
    exact ⟨rfl, rfl⟩
  have prepared (I : Interp) (s : Subject) : Notes (prepareBody I s (topPlace settings (nestedTree (m + 1))) (nestedTree (m + 1)))
      (nestedTree (m + 1)) (decide (97 < m + 1)) := by
    have whole := notes_prepareBody_cons I s (notes_nested I s m (p := topPlace settings (nestedTree (m + 1))) rfl fitting)
      (notes_prepareBody_nil I s)
    have same : (decide (indentLimit < 1) || (decide (indentLimit < 1 + m + 2) || decide (indentLimit < 1))) =
        decide (97 < m + 1) := by
      have limit : indentLimit = 99 := rfl
      rw [limit, Bool.eq_iff_iff]
      simp only [Bool.or_eq_true, decide_eq_true_eq]
      omega
    exact same ▸ whole
  rw [compiledText_of_notes (parse_of_subset more (parse_nested settings.layout borne)) (blocksOf_nested _)
    (anyExtends_nested _) prepared]
  by_cases deep : 97 < m + 1 <;> simp [deep]

/-- A reference alone needs no tags. -/
theorem compiledText_reference (tags : List String) :
    compiledText settings tags none none (String.ofList referenceText) = .ok ⟨none, none, nestedTree 0, [], false⟩ := by
  have read := parse_of_subset (List.nil_subset tags) (parse_reference settings.layout)
  exact compiledText_of_notes (b := false) read rfl rfl fun I s =>
    notes_prepareBody_cons I s (notes_output I s rfl (settles_reference I s 1 rfl rfl)) (notes_prepareBody_nil I s)

theorem compiledText_clear (tags : List String) {cs : List Char} (clear : Clear (settings.layout.prepare cs)) :
    compiledText settings tags none none (String.ofList cs) =
      .ok ⟨none, none, fixedTree (settings.layout.prepare cs), [], false⟩ := by
  have read := parse_clear settings.layout tags clear
  generalize settings.layout.prepare cs = u at read
  have blocks : blocksOf (clearTree u) = [] := by cases u <;> rfl
  have alone : anyExtends (clearTree u) = false := by cases u <;> rfl
  refine compiledText_of_notes (b := false) read blocks alone fun I s => ?_
  have whole := notes_clearTree I s u (p := topPlace settings (clearTree u)) rfl rfl (notes_prepareBody_nil I s) decide_eq_true
  rwa [List.append_nil, List.append_nil] at whole

end Compiled

end Stencil.Engine
