import Stencil.Proofs.Block.Lexing
import Stencil.Template.Parser.Statement

/-!
# Reading render blocks

The reader of expressions goes through all its levels to find that a name stands alone. The reader of statements finds
the body of a render block between its tags, whatever the body is, so that blocks can stand in each other as long as
nesting is borne.
-/

set_option autoImplicit false

namespace Stencil.Template

open Parse

section Readers

variable {α β : Type} {s s' : Stream}

theorem run_bind_ok {p : Parse α} {f : α → Parse β} {a : α} (h : p.run s = .ok (a, s')) :
    (p >>= f).run s = (f a).run s' := by
  rw [StateT.run_bind, h]
  rfl

theorem run_bound (s : Stream) : bound.run s = .ok (s.tokens.length + 1, s) := rfl

theorem run_current (s : Stream) : current.run s = .ok (s.current, s) := rfl

theorem run_discard_next (t : Token) (rest : List Token) (line depth : Nat) :
    (discard next).run ⟨t :: rest, none, line, depth⟩ = .ok ((), ⟨rest, none, t.line, depth⟩) := by
  cases rest <;> rfl

theorem run_deeper {amount depth : Nat} {p : Parse α} {a : α} {tokens tokens' : List Token} {flaw flaw' : Option Flaw}
    {line line' depth' : Nat} (borne : depth + amount ≤ depthLimit)
    (h : p.run ⟨tokens, flaw, line, depth + amount⟩ = .ok (a, ⟨tokens', flaw', line', depth'⟩)) :
    (deeper amount p).run ⟨tokens, flaw, line, depth⟩ = .ok (a, ⟨tokens', flaw', line', depth⟩) := by
  have fits : ¬ depthLimit < depth + amount := Nat.not_lt.mpr borne
  unfold deeper
  simp only [StateT.run_bind, StateT.run_get, pure_bind, fits, if_false, StateT.run_modify, h]
  rfl

theorem run_bind_error {p : Parse α} {f : α → Parse β} {flaw : Flaw}
    (h : p.run s = .error flaw) : (p >>= f).run s = .error flaw := by
  rw [StateT.run_bind, h]
  rfl

theorem run_deeper_error {amount : Nat} {p : Parse α} {tokens : List Token} {line depth : Nat} {flaw : Flaw}
    (borne : depth + amount ≤ depthLimit) (h : p.run ⟨tokens, none, line, depth + amount⟩ = .error flaw) :
    (deeper amount p).run ⟨tokens, none, line, depth⟩ = .error flaw := by
  have fits : ¬ depthLimit < depth + amount := Nat.not_lt.mpr borne
  unfold deeper
  simp only [StateT.run_bind, StateT.run_get, pure_bind, fits, if_false, StateT.run_modify, h]
  rfl

def Exceeds (p : Parse α) (s : Stream) : Prop := ∃ line, p.run s = .error ⟨.mishap .tooDeep, line⟩

theorem Exceeds.bind {p : Parse α} (h : Exceeds p s) (f : α → Parse β) : Exceeds (p >>= f) s := by
  obtain ⟨line, failed⟩ := h
  exact ⟨line, run_bind_error failed⟩

theorem Exceeds.after {p : Parse α} {f : α → Parse β} {a : α} (h : p.run s = .ok (a, s')) (exceeds : Exceeds (f a) s') :
    Exceeds (p >>= f) s := by
  obtain ⟨line, failed⟩ := exceeds
  exact ⟨line, (run_bind_ok h).trans failed⟩

theorem exceeds_deeper {amount : Nat} {p : Parse α} (tokens : List Token) (line : Nat) {depth : Nat}
    (h : depth + amount ≤ depthLimit → Exceeds p ⟨tokens, none, line, depth + amount⟩) :
    Exceeds (deeper amount p) ⟨tokens, none, line, depth⟩ := by
  by_cases borne : depth + amount ≤ depthLimit
  · obtain ⟨line', failed⟩ := h borne
    exact ⟨line', run_deeper_error borne failed⟩
  · unfold deeper Exceeds
    simp only [StateT.run_bind, StateT.run_get, pure_bind, Nat.lt_of_not_le borne, if_true]
    exact ⟨_, rfl⟩

theorem run_extend_go {more : α → Parse (Option α)} {a b : α} (n : Nat) (h : (more a).run s = .ok (some b, s')) :
    (extend more (n + 1) a).run s = (extend more n b).run s' := by
  rw [extend, run_bind_ok h]

theorem run_extend_stop {more : α → Parse (Option α)} {a : α} (n : Nat) (h : (more a).run s = .ok (none, s)) :
    (extend more (n + 1) a).run s = .ok (a, s) := by
  rw [extend, run_bind_ok h]
  rfl

end Readers

/-! ## A name that stands alone -/

def beforeName (l l' line depth : Nat) (rest : List Token) : Stream :=
  ⟨⟨l, .name "x"⟩ :: ⟨l', .variableEnd⟩ :: rest, none, line, depth⟩

def behindName (l l' depth : Nat) (rest : List Token) : Stream := ⟨⟨l', .variableEnd⟩ :: rest, none, l, depth⟩

def TakesName (p : Parse Expr) : Prop :=
  ∀ (l l' line depth : Nat) (rest : List Token),
    p.run (beforeName l l' line depth rest) = .ok (.name "x" l, behindName l l' depth rest)

section Levels

variable (sub : SubExpr)

theorem takesName_parseLeft {operand : Parse Expr} {operator : TokenKind → Option (Expr → Expr → Expr)}
    (h : TakesName operand) (stop : operator .variableEnd = none) : TakesName (parseLeft operand operator) := by
  intro l l' line depth rest
  have here : operator (behindName l l' depth rest).current.kind = none := stop
  unfold parseLeft
  rw [run_bind_ok (h l l' line depth rest), run_bind_ok (run_bound _)]
  refine run_extend_stop _ ?_
  rw [run_bind_ok (run_current _), here]
  rfl

theorem run_parsePostfix_end (e : Expr) (l l' depth : Nat) (rest : List Token) :
    (parsePostfix sub e).run (behindName l l' depth rest) = .ok (e, behindName l l' depth rest) := by
  unfold parsePostfix
  dsimp only
  rw [run_bind_ok (run_bound _)]
  exact run_extend_stop _ rfl

theorem run_parseFilterExpr_end (e : Expr) (l l' depth : Nat) (rest : List Token) :
    (parseFilterExpr sub e).run (behindName l l' depth rest) = .ok (e, behindName l l' depth rest) := by
  unfold parseFilterExpr
  dsimp only
  rw [run_bind_ok (run_bound _)]
  exact run_extend_stop _ rfl

theorem takesName_parseUnary (n : Nat) : TakesName (parseUnary sub (n + 1) true) := by
  intro l l' line depth rest
  have unsigned (symbol : Symbol) : (skipSymbol symbol).run (beforeName l l' line depth rest) =
    .ok (false, beforeName l l' line depth rest) := rfl
  have primary : (parsePrimary sub).run (beforeName l l' line depth rest) =
    .ok (.name "x" l, behindName l l' depth rest) := rfl
  unfold parseUnary
  rw [run_bind_ok (unsigned .sub)]
  simp only [Bool.false_eq_true, if_false]
  rw [run_bind_ok (unsigned .add)]
  simp only [Bool.false_eq_true, if_false]
  rw [run_bind_ok primary, run_bind_ok (run_parsePostfix_end sub _ l l' depth rest), if_pos trivial]
  exact run_parseFilterExpr_end sub _ l l' depth rest

/-- A reader that is told how many tokens there are. -/
theorem takesName_bound {p : Nat → Parse Expr} (h : ∀ n, TakesName (p (n + 1))) :
    TakesName (do p (← bound)) := by
  intro l l' line depth rest
  rw [run_bind_ok (run_bound _)]
  exact h _ l l' line depth rest

theorem takesName_parsePow : TakesName (parsePow sub) :=
  takesName_parseLeft (takesName_bound (takesName_parseUnary sub)) rfl

theorem takesName_parseProduct : TakesName (parseProduct sub) := takesName_parseLeft (takesName_parsePow sub) rfl

theorem takesName_parseConcat : TakesName (parseConcat sub) := by
  intro l l' line depth rest
  unfold parseConcat
  dsimp only
  rw [run_bind_ok (takesName_parseProduct sub l l' line depth rest), run_bind_ok (run_bound _),
    run_bind_ok (run_extend_stop _ rfl)]
  rfl

theorem takesName_parseSum : TakesName (parseSum sub) := takesName_parseLeft (takesName_parseConcat sub) rfl

theorem takesName_parseCompare : TakesName (parseCompare sub) := by
  intro l l' line depth rest
  unfold parseCompare
  dsimp only
  rw [run_bind_ok (takesName_parseSum sub l l' line depth rest), run_bind_ok (run_bound _),
    run_bind_ok (run_extend_stop _ rfl)]
  rfl

theorem takesName_parseNot (n : Nat) : TakesName (parseNot sub (n + 1)) := by
  intro l l' line depth rest
  have plain : (skipName "not").run (beforeName l l' line depth rest) = .ok (false, beforeName l l' line depth rest) := rfl
  unfold parseNot
  rw [run_bind_ok plain]
  exact takesName_parseCompare sub l l' line depth rest

theorem takesName_parseAnd : TakesName (parseAnd sub) :=
  takesName_parseLeft (takesName_bound (takesName_parseNot sub)) rfl

theorem takesName_parseOr : TakesName (parseOr sub) := takesName_parseLeft (takesName_parseAnd sub) rfl

theorem takesName_parseChoice (n : Nat) : TakesName (parseChoice sub (n + 1)) := by
  intro l l' line depth rest
  unfold parseChoice
  dsimp only
  rw [run_bind_ok (run_current _), run_bind_ok (takesName_parseOr sub l l' line depth rest),
    run_bind_ok (run_bound _), run_bind_ok (run_extend_stop _ rfl)]
  rfl

end Levels

section Reference

variable (l l' line : Nat) {depth : Nat} (borne : depth + 11 ≤ depthLimit) (rest : List Token)
include borne

theorem run_expression_name :
    (expression true).run (beforeName l l' line depth rest) = .ok (.name "x" l, behindName l l' depth rest) := by
  unfold expression
  rw [run_bind_ok (run_bound _), expressionWithin, if_pos rfl]
  exact run_deeper borne (takesName_bound (takesName_parseChoice _) l l' line (depth + 11) rest)

theorem run_parseRow_name : (parseRow (expression true) []).run (beforeName l l' line depth rest) =
    .ok (([.name "x" l], false), behindName l l' depth rest) := by
  have goesOn : (atTupleEnd []).run (beforeName l l' line depth rest) = .ok (false, beforeName l l' line depth rest) := rfl
  have single : (atSymbol .comma).run (behindName l l' depth rest) = .ok (false, behindName l l' depth rest) := rfl
  unfold parseRow
  dsimp only
  rw [run_bind_ok (run_bound _)]
  refine (run_bind_ok (a := ([.name "x" l], false, false)) ?_).trans rfl
  refine (run_extend_go (b := ([.name "x" l], false, false)) _ ?_).trans (run_extend_stop _ rfl)
  simp only [List.isEmpty_nil, Bool.not_true, Bool.false_eq_true, if_false]
  rw [run_bind_ok goesOn]
  simp only [Bool.false_eq_true, if_false]
  rw [run_bind_ok (run_expression_name l l' line borne rest), run_bind_ok single]
  rfl

/-- The whole of a reference. -/
theorem run_parseTuple_name : (parseTuple expression true [] false).run (beforeName l l' line depth rest) =
    .ok (.name "x" l, behindName l l' depth rest) := by
  unfold parseTuple
  rw [run_bind_ok (run_parseRow_name l l' line borne rest)]
  rfl

end Reference

/-! ## Statements -/

def renderNode (body : List Node) : Node := .tagBlock "render" "" (body ++ [.collect])

def renderOnly : List String := ["render"]

section Statements

variable (tags : List String) (n : Nat) (nesting : Nesting) (ends : List String) (pieces : List Piece)
  (nodes : List Node) (line depth : Nat) (rest : List Token)

theorem run_parseNodes_data (s : String) (l : Nat) :
    (parseNodes tags (n + 1) nesting ends pieces nodes).run ⟨⟨l, .data s⟩ :: rest, none, line, depth⟩ =
      (parseNodes tags n nesting ends (pieces ++ [.data s]) nodes).run ⟨rest, none, l, depth⟩ := by
  rw [parseNodes, run_bind_ok (run_current _)]
  exact run_bind_ok (run_discard_next _ rest line depth)

theorem run_parseNodes_ending :
    (parseNodes tags (n + 1) nesting ends pieces nodes).run ⟨[], none, line, depth⟩ =
      .ok (flush pieces nodes, ⟨[], none, line, depth⟩) := rfl

/-- A body ends where one of its end words opens a tag. -/
theorem run_parseNodes_ends {word : String} (known : word ∈ ends) (l l' : Nat) :
    (parseNodes tags (n + 1) nesting ends pieces nodes).run ⟨⟨l, .blockBegin⟩ :: ⟨l', .name word⟩ :: rest, none, line, depth⟩ =
      .ok (flush pieces nodes, ⟨⟨l', .name word⟩ :: rest, none, l, depth⟩) := by
  have found : ends.contains word = true := List.contains_iff_mem.mpr known
  rw [parseNodes, run_bind_ok (run_current _)]
  dsimp only [Stream.current]
  rw [run_bind_ok (run_discard_next _ _ line depth), run_bind_ok (run_current _)]
  dsimp only [Stream.current]
  rw [if_pos found]
  rfl

theorem run_parseNodes_reference (borne : depth + 11 ≤ depthLimit) (l l' l'' : Nat) :
    (parseNodes tags (n + 1) nesting ends pieces nodes).run
        ⟨⟨l, .variableBegin⟩ :: ⟨l', .name "x"⟩ :: ⟨l'', .variableEnd⟩ :: rest, none, line, depth⟩ =
      (parseNodes tags n nesting ends (pieces ++ [.value (.name "x" l')]) nodes).run ⟨rest, none, l'', depth⟩ := by
  have closes : (discard expectVariableEnd).run (behindName l' l'' depth rest) = .ok ((), ⟨rest, none, l'', depth⟩) := by
    cases rest <;> rfl
  rw [parseNodes, run_bind_ok (run_current _)]
  dsimp only [Stream.current]
  rw [run_bind_ok (run_discard_next _ _ line depth)]
  exact (run_bind_ok (run_parseTuple_name l' l'' l borne rest)).trans (run_bind_ok closes)

end Statements

section Blocks

variable {body : List Node} {inner rest : List Token} {depth : Nat}

theorem run_parseMarkup_none (l line depth : Nat) (rest : List Token) :
    parseMarkup.run ⟨⟨l, .blockEnd⟩ :: rest, none, line, depth⟩ = .ok ("", ⟨⟨l, .blockEnd⟩ :: rest, none, line, depth⟩) := by
  unfold parseMarkup
  dsimp only
  rw [run_bind_ok (run_bound _), run_bind_ok (run_extend_stop _ rfl)]
  rfl

/-- The body of a render block, from the end of its opening tag to behind the word that ends it. -/
theorem run_parseWholeBody {sub : SubBody} (nesting : Nesting) {l₁ l₂ l₃ l₄ : Nat}
    (h : ∀ nesting, (sub nesting ["endrender"]).run ⟨inner, none, l₂, depth⟩ =
      .ok (body, ⟨⟨l₃, .name "endrender"⟩ :: rest, none, l₄, depth⟩)) :
    (parseWholeBody sub nesting "endrender").run ⟨⟨l₂, .blockEnd⟩ :: inner, none, l₁, depth⟩ =
      .ok (body, ⟨rest, none, l₃, depth⟩) := by
  have noColon : (discard (skipSymbol .colon)).run ⟨⟨l₂, .blockEnd⟩ :: inner, none, l₁, depth⟩ =
    .ok ((), ⟨⟨l₂, .blockEnd⟩ :: inner, none, l₁, depth⟩) := rfl
  have closes : (discard expectBlockEnd).run ⟨⟨l₂, .blockEnd⟩ :: inner, none, l₁, depth⟩ =
    .ok ((), ⟨inner, none, l₂, depth⟩) := by cases inner <;> rfl
  have read : (parseBody sub nesting ["endrender"]).run ⟨⟨l₂, .blockEnd⟩ :: inner, none, l₁, depth⟩ =
      .ok (body, ⟨⟨l₃, .name "endrender"⟩ :: rest, none, l₄, depth⟩) := by
    unfold parseBody
    rw [run_bind_ok noColon, run_bind_ok closes, run_bind_ok (h _), run_bind_ok (run_current _)]
    rfl
  unfold parseWholeBody
  rw [run_bind_ok read, run_bind_ok (run_discard_next _ rest l₄ depth)]
  rfl

theorem run_parseTag {sub : SubBody} (nesting : Nesting) {l₁ l₂ l₃ l₄ line : Nat}
    (h : ∀ nesting, (sub nesting ["endrender"]).run ⟨inner, none, l₂, depth⟩ =
      .ok (body, ⟨⟨l₃, .name "endrender"⟩ :: rest, none, l₄, depth⟩)) :
    (parseTag sub nesting "render").run ⟨⟨l₁, .name "render"⟩ :: ⟨l₂, .blockEnd⟩ :: inner, none, line, depth⟩ =
      .ok (renderNode body, ⟨rest, none, l₃, depth⟩) := by
  have ending : endTag "render" = "endrender" := rfl
  unfold parseTag
  rw [ending, run_bind_ok (run_discard_next _ _ line depth), run_bind_ok (run_parseMarkup_none l₂ l₁ depth inner),
    run_bind_ok (run_parseWholeBody nesting h)]
  rfl

/-- A render block, given how its body is read. -/
theorem run_parseNodes_render (n : Nat) (nesting : Nesting) {ends : List String} (pieces : List Piece)
    (nodes : List Node) {l₀ l₁ l₂ l₃ l₄ l₅ line depth' : Nat} (other : "render" ∉ ends) (borne : depth + 4 ≤ depthLimit)
    (h : ∀ nesting, (parseNodes renderOnly n nesting ["endrender"] [] []).run ⟨inner, none, l₂, depth + 4⟩ =
      .ok (body, ⟨⟨l₃, .name "endrender"⟩ :: ⟨l₄, .blockEnd⟩ :: rest, none, l₅, depth'⟩)) :
    (parseNodes renderOnly (n + 1) nesting ends pieces nodes).run
        ⟨⟨l₀, .blockBegin⟩ :: ⟨l₁, .name "render"⟩ :: ⟨l₂, .blockEnd⟩ :: inner, none, line, depth⟩ =
      (parseNodes renderOnly n nesting ends [] (flush pieces nodes ++ [renderNode body])).run ⟨rest, none, l₄, depth⟩ := by
  have unended : ¬ ends.contains "render" = true := fun found => other (List.contains_iff_mem.mp found)
  have closes : (discard expectBlockEnd).run ⟨⟨l₄, .blockEnd⟩ :: rest, none, l₃, depth⟩ =
    .ok ((), ⟨rest, none, l₄, depth⟩) := by cases rest <;> rfl
  have statement : (parseStatement renderOnly (fun nesting ends => deeper 4 (parseNodes renderOnly n nesting ends [] []))
      nesting).run ⟨⟨l₁, .name "render"⟩ :: ⟨l₂, .blockEnd⟩ :: inner, none, l₀, depth⟩ =
      .ok (renderNode body, ⟨⟨l₄, .blockEnd⟩ :: rest, none, l₃, depth⟩) := by
    unfold parseStatement
    rw [run_bind_ok (run_current _)]
    exact run_parseTag _ fun nesting => run_deeper borne (h nesting)
  rw [parseNodes, run_bind_ok (run_current _)]
  dsimp only [Stream.current]
  rw [run_bind_ok (run_discard_next _ _ line depth), run_bind_ok (run_current _)]
  dsimp only [Stream.current]
  rw [if_neg unended]
  exact (run_bind_ok statement).trans (run_bind_ok closes)

end Blocks

/-! ## Whole texts -/

def nestedTree : Nat → List Node
  | 0 => [.output [.value (.name "x" 1)]]
  | n + 1 => [renderNode (nestedTree n)]

def nestedPieces : Nat → List Piece
  | 0 => [.value (.name "x" 1)]
  | _ + 1 => []

def nestedNodes : Nat → List Node
  | 0 => []
  | n + 1 => [renderNode (nestedTree n)]

theorem flush_nested (n : Nat) : flush (nestedPieces n) (nestedNodes n) = nestedTree n := by
  cases n <;> rfl

theorem run_parseNodes_nested (n fuel : Nat) (nesting : Nesting) {ends : List String} (other : "render" ∉ ends)
    (line depth : Nat) (tail : List Token) (enough : 2 * n ≤ fuel) (borne : depth + 4 * n + 11 ≤ depthLimit) :
    (parseNodes renderOnly (fuel + 1) nesting ends [] []).run ⟨nestedTokens n ++ tail, none, line, depth⟩ =
      (parseNodes renderOnly fuel nesting ends (nestedPieces n) (nestedNodes n)).run ⟨tail, none, 1, depth⟩ := by
  induction n generalizing fuel nesting ends line depth tail with
  | zero => exact run_parseNodes_reference renderOnly fuel nesting ends [] [] line depth tail borne 1 1 1
  | succ n ih =>
    obtain ⟨m, rfl⟩ : ∃ m, fuel = m + 2 := ⟨fuel - 2, by omega⟩
    have inner (nesting : Nesting) : (parseNodes renderOnly (m + 2) nesting ["endrender"] [] []).run
        ⟨nestedTokens n ++ (tagTokens "endrender" ++ tail), none, 1, depth + 4⟩ =
        .ok (nestedTree n, ⟨⟨1, .name "endrender"⟩ :: ⟨1, .blockEnd⟩ :: tail, none, 1, depth + 4⟩) := by
      rw [ih (m + 1) nesting (by decide) 1 (depth + 4) _ (by omega) (by omega)]
      rw [← flush_nested n]
      exact run_parseNodes_ends renderOnly m nesting ["endrender"] _ _ 1 (depth + 4) _ (by decide) 1 1
    rw [nestedTokens, List.append_assoc, List.append_assoc]
    exact run_parseNodes_render (m + 2) nesting [] [] other (by omega) inner

theorem length_nestedTokens (n : Nat) : (nestedTokens n).length = 6 * n + 3 := by
  induction n with
  | zero => rfl
  | succ n ih =>
    have tag (word : String) : (tagTokens word).length = 3 := rfl
    rw [nestedTokens, List.length_append, List.length_append, ih, tag, tag]
    omega

theorem parse_nested (layout : Layout) {n : Nat} (borne : 4 * n + 11 ≤ depthLimit) :
    parse layout renderOnly (String.ofList (nestedText n)) = .ok (nestedTree n) := by
  have starts : Stream.start ⟨nestedTokens n, none⟩ = .ok ⟨nestedTokens n, none, 1, 0⟩ := by cases n <;> rfl
  have fuel : 2 * (nestedTokens n).length + 2 = (12 * n + 6) + 1 + 1 := by
    rw [length_nestedTokens]
    omega
  have steps := run_parseNodes_nested n (12 * n + 6 + 1) {} (List.not_mem_nil (a := "render")) 1 0 [] (by omega) (by omega)
  rw [List.append_nil] at steps
  unfold parse
  rw [String.toList_ofList, lex_nested, starts]
  simp only [bind, Except.bind]
  rw [fuel, steps, run_parseNodes_ending, flush_nested]
  rfl

theorem parse_reference (layout : Layout) : parse layout [] (String.ofList referenceText) = .ok (nestedTree 0) := by
  unfold parse
  rw [String.toList_ofList, show lex layout referenceText = ⟨nestedTokens 0, none⟩ from lex_nested layout 0]
  have borne : 0 + 11 ≤ depthLimit := by decide
  have steps := run_parseNodes_reference [] 7 {} [] [] [] 1 0 [] borne 1 1 1
  exact congrArg (fun r : Except Flaw (List Node × Stream) => r >>= fun r => .ok r.1) steps

def clearTree (cs : List Char) : List Node := if cs.isEmpty then [] else [.output [.data (String.ofList cs)]]

theorem parse_clear (layout : Layout) (tags : List String) {cs : List Char} (clear : Clear (layout.prepare cs)) :
    parse layout tags (String.ofList cs) = .ok (clearTree (layout.prepare cs)) := by
  unfold parse
  rw [String.toList_ofList, lex_clear layout clear]
  cases layout.prepare cs with
  | nil => rfl
  | cons c u => rfl

end Stencil.Template
