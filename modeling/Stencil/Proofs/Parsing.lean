import Stencil.Template.Parser.Statement

/-!
# Reading under more tags

The tags that are known matter to a reader only where a statement begins with a word that is neither one of the
language nor an end that is waited for. So a text that can be read under some tags is read alike under more of them.
-/

set_option autoImplicit false

namespace Stencil.Template

open Parse

def Refines {α : Type} (p q : Parse α) : Prop := ∀ s r, p s = .ok r → q s = .ok r

namespace Refines

variable {α β : Type}

theorem refl (p : Parse α) : Refines p p := fun _ _ h => h

theorem bind {p q : Parse α} {k l : α → Parse β} (hp : Refines p q) (hk : ∀ a, Refines (k a) (l a)) :
    Refines (p >>= k) (q >>= l) := by
  intro s r h
  change (p s >>= fun x => k x.1 x.2) = .ok r at h
  show (q s >>= fun x => l x.1 x.2) = .ok r
  rcases hs : p s with f | ⟨a, s₁⟩
  · rw [hs] at h
    cases h
  · rw [hs] at h
    rw [hp s (a, s₁) hs]
    exact hk a s₁ r h

theorem step {p : Parse α} {k l : α → Parse β} (hk : ∀ a, Refines (k a) (l a)) : Refines (p >>= k) (p >>= l) :=
  (refl p).bind hk

theorem branch {c : Prop} [Decidable c] {p q p' q' : Parse α} (hp : Refines p q) (hp' : Refines p' q') :
    Refines (if c then p else p') (if c then q else q') := by
  split
  · exact hp
  · exact hp'

theorem fails (problem : Problem) (line : Nat) (q : Parse α) : Refines (fail problem line) q := by
  intro s r h
  cases h

theorem deeper (amount : Nat) {p q : Parse α} (h : Refines p q) :
    Refines (Parse.deeper amount p) (Parse.deeper amount q) :=
  step fun _ => branch (step fun _ => step fun _ => h.bind fun _ => refl _)
    (step fun _ => h.bind fun _ => refl _)

theorem extend {more less : α → Parse (Option α)} (h : ∀ a, Refines (less a) (more a)) (n : Nat) (a : α) :
    Refines (Parse.extend less n a) (Parse.extend more n a) := by
  induction n generalizing a with
  | zero => exact refl _
  | succ n ih =>
    refine (h a).bind fun b => ?_
    cases b with
    | none => exact refl _
    | some b => exact ih b

end Refines

section Statements

variable {sub sub' : SubBody} (h : ∀ nesting ends, Refines (sub nesting ends) (sub' nesting ends))
include h

theorem refines_parseBody (nesting : Nesting) (ends : List String) :
    Refines (parseBody sub nesting ends) (parseBody sub' nesting ends) :=
  .step fun _ => .step fun _ => (h _ _).bind fun _ => .refl _

theorem refines_parseWholeBody (nesting : Nesting) (ending : String) :
    Refines (parseWholeBody sub nesting ending) (parseWholeBody sub' nesting ending) :=
  (refines_parseBody h nesting [ending]).bind fun _ => .refl _

theorem refines_parseSet (nesting : Nesting) : Refines (parseSet sub nesting) (parseSet sub' nesting) := by
  refine .step fun _ => .step fun _ => .step fun _ => .branch (.refl _) ?_
  exact .step fun _ => (refines_parseWholeBody h _ _).bind fun _ => .refl _

theorem refines_parseFor (nesting : Nesting) : Refines (parseFor sub nesting) (parseFor sub' nesting) := by
  unfold parseFor
  iterate 5 refine .step fun _ => ?_
  -- with a test or without one
  refine .branch (.step fun _ => .step fun _ => ?_) (.step fun _ => ?_)
  all_goals
    refine .step fun _ => (refines_parseBody h _ _).bind fun _ => .step fun _ => ?_
    exact .branch (.refl _) ((refines_parseWholeBody h _ _).bind fun _ => .refl _)

theorem refines_parseBranch (nesting : Nesting) : Refines (parseBranch sub nesting) (parseBranch sub' nesting) :=
  .step fun _ => (refines_parseBody h _ _).bind fun _ => .refl _

theorem refines_parseIf (nesting : Nesting) : Refines (parseIf sub nesting) (parseIf sub' nesting) := by
  refine .step fun _ => (refines_parseBranch h _).bind fun _ => .step fun _ => ?_
  refine (Refines.extend (fun branches => ?_) _ _).bind fun _ => .step fun _ => ?_
  · exact .step fun _ => .branch ((refines_parseBranch h _).bind fun _ => .refl _) (.refl _)
  · exact .branch ((refines_parseWholeBody h _ _).bind fun _ => .refl _) (.refl _)

theorem refines_parseWith (nesting : Nesting) : Refines (parseWith sub nesting) (parseWith sub' nesting) :=
  .step fun _ => .step fun _ => .step fun _ => (refines_parseWholeBody h _ _).bind fun _ => .refl _

theorem refines_parseAutoescape (nesting : Nesting) :
    Refines (parseAutoescape sub nesting) (parseAutoescape sub' nesting) :=
  .step fun _ => .step fun _ => (refines_parseWholeBody h _ _).bind fun _ => .refl _

theorem refines_parseBlock (nesting : Nesting) : Refines (parseBlock sub nesting) (parseBlock sub' nesting) := by
  refine .step fun _ => .step fun _ => .step fun _ => .step fun _ => .step fun _ => ?_
  exact .branch (.step fun _ => (refines_parseWholeBody h _ _).bind fun _ => .refl _)
    ((refines_parseWholeBody h _ _).bind fun _ => .refl _)

theorem refines_parseCallBlock (nesting : Nesting) :
    Refines (parseCallBlock sub nesting) (parseCallBlock sub' nesting) := by
  unfold parseCallBlock
  iterate 2 refine .step fun _ => ?_
  -- with parameters or without them
  refine .branch (.step fun _ => .step fun call => ?_) (.step fun _ => .step fun call => ?_)
  all_goals
    cases call with
    | call => exact (refines_parseWholeBody h _ _).bind fun _ => .refl _
    | _ => exact .step fun _ => (refines_parseWholeBody h _ _).bind fun _ => .refl _

theorem refines_parseFilterBlock (nesting : Nesting) :
    Refines (parseFilterBlock sub nesting) (parseFilterBlock sub' nesting) :=
  .step fun _ => .step fun _ => .step fun _ => (refines_parseWholeBody h _ _).bind fun _ => .refl _

theorem refines_parseMacro (nesting : Nesting) : Refines (parseMacro sub nesting) (parseMacro sub' nesting) :=
  .step fun _ => .step fun _ => .step fun _ => (refines_parseWholeBody h _ _).bind fun _ => .refl _

theorem refines_parseTag (nesting : Nesting) (tag : String) :
    Refines (parseTag sub nesting tag) (parseTag sub' nesting tag) :=
  .step fun _ => .step fun _ => (refines_parseWholeBody h _ _).bind fun _ => .refl _

/-- Under more tags, a word that begins a statement may be known where it was not. -/
theorem refines_parseStatement {tags tags' : List String} (more : tags ⊆ tags') (outer : Nesting) :
    Refines (parseStatement tags sub outer) (parseStatement tags' sub' outer) := by
  refine .step fun t => ?_
  rcases t with ⟨line, kind⟩
  cases kind with
  | name word =>
    dsimp only
    split
    case h_1 => exact refines_parseFor h _
    case h_2 => exact refines_parseIf h _
    case h_3 => exact refines_parseBlock h _
    case h_6 => exact refines_parseMacro h _
    case h_10 => exact refines_parseSet h _
    case h_11 => exact refines_parseWith h _
    case h_12 => exact refines_parseAutoescape h _
    case h_13 => exact refines_parseCallBlock h _
    case h_14 => exact refines_parseFilterBlock h _
    case h_15 =>
      by_cases known : word ∈ tags
      · simp only [List.contains_iff_mem, known, more known, if_true]
        exact refines_parseTag h _ _
      · simp only [List.contains_iff_mem, known, if_false]
        exact .fails _ _ _
    all_goals exact .refl _
  | _ => exact .refl _

end Statements

theorem refines_parseNodes {tags tags' : List String} (more : tags ⊆ tags') (n : Nat) (nesting : Nesting)
    (ends : List String) (pieces : List Piece) (nodes : List Node) :
    Refines (parseNodes tags n nesting ends pieces nodes) (parseNodes tags' n nesting ends pieces nodes) := by
  induction n generalizing nesting ends pieces nodes with
  | zero => exact .refl _
  | succ n ih =>
    unfold parseNodes
    refine .step fun t => ?_
    rcases t with ⟨line, kind⟩
    cases kind with
    | data s => exact .step fun _ => ih _ _ _ _
    | variableBegin => exact .step fun _ => .step fun _ => .step fun _ => ih _ _ _ _
    | blockBegin =>
      refine .step fun _ => .step fun first => ?_
      rcases first with ⟨line, kind⟩
      cases kind with
      | name word =>
        refine .branch (.refl _) ?_
        have nested : ∀ nesting ends, Refines (deeper 4 (parseNodes tags n nesting ends [] []))
            (deeper 4 (parseNodes tags' n nesting ends [] [])) := fun _ _ => .deeper 4 (ih _ _ _ _)
        exact (refines_parseStatement nested more nesting).bind fun _ => .step fun _ => ih _ _ _ _
      | _ => exact .refl _
    | _ => exact .refl _

/-- A text that is read under some tags is read alike under more. -/
theorem parse_of_subset {layout : Layout} {tags tags' : List String} {source : String} {nodes : List Node}
    (more : tags ⊆ tags') (h : parse layout tags source = .ok nodes) : parse layout tags' source = .ok nodes := by
  unfold parse at h ⊢
  generalize Stream.start (lex layout source.toList) = started at h ⊢
  cases started with
  | error flaw => cases h
  | ok stream =>
    simp only [bind, Except.bind, StateT.run] at h ⊢
    generalize hr : parseNodes tags (2 * stream.tokens.length + 2) {} [] [] [] stream = read at h
    cases read with
    | error flaw => cases h
    | ok r =>
      rw [refines_parseNodes more _ _ _ _ _ stream r hr]
      exact h

end Stencil.Template
