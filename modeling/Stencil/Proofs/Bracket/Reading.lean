import Stencil.Proofs.Block.Reading
import Stencil.Proofs.Bracket.Sequence

/-!
# Reading tags that stand in each other

The reader of statements gives the tree of the tags if each closing marker belongs to the tag that was opened last, all
tags are known and none is left open. It refuses every other sequence of markers, as long as nesting is borne.
-/

set_option autoImplicit false

namespace Stencil.Template

/-! ## Nesting -/

inductive Forest where
  | last (text : List Char)
  | block (text : List Char) (tag : String) (arguments : List Char) (inner rest : Forest)

namespace Forest

def before (more : List Char → Sequence) : Forest → Sequence
  | last text => more text
  | block text tag arguments inner rest =>
    .marked text (.opening tag arguments) (inner.before fun text => .marked text (.closing tag) (rest.before more))

def sequence (f : Forest) : Sequence := f.before .last

def tags : Forest → List String
  | last _ => []
  | block _ tag _ inner rest => tag :: (inner.tags ++ rest.tags)

def depth : Forest → Nat
  | last _ => 0
  | block _ _ _ inner rest => max (inner.depth + 1) rest.depth

def markup (layout : Layout) (tag : String) (arguments : List Char) : String :=
  " ".intercalate (((Marker.opening tag arguments).argumentKinds layout).map TokenKind.markup)

def nodes (layout : Layout) : Forest → List Node
  | last text => clearTree text
  | block text tag arguments inner rest =>
    clearTree text ++ .tagBlock tag (markup layout tag arguments) (inner.nodes layout ++ [.collect]) :: rest.nodes layout

def behind : Option (String × Sequence) → List Char → Sequence
  | none, text => .last text
  | some (tag, rest), text => .marked text (.closing tag) rest

theorem behind_injective {next next' : Option (String × Sequence)} {text text' : List Char}
    (h : behind next text = behind next' text') : text = text' ∧ next = next' := by
  rcases next with _ | ⟨tag, rest⟩ <;> rcases next' with _ | ⟨tag', rest'⟩ <;> cases h <;> exact ⟨rfl, rfl⟩

/-- The markers tell where each tag ends. -/
theorem before_injective {f f' : Forest} {next next' : Option (String × Sequence)}
    (h : f.before (behind next) = f'.before (behind next')) : f = f' ∧ next = next' := by
  induction f generalizing f' next next' with
  | last text =>
    cases f' with
    | last text' =>
      obtain ⟨rfl, rfl⟩ := behind_injective h
      exact ⟨rfl, rfl⟩
    | block => cases next <;> cases h
  | block text tag arguments inner rest ihInner ihRest =>
    cases f' with
    | last text' => cases next' <;> cases h
    | block text' tag' arguments' inner' rest' =>
      obtain ⟨rfl, marker, others⟩ : text = text' ∧ Marker.opening tag arguments = .opening tag' arguments' ∧
        inner.before (behind (some (tag, rest.before (behind next)))) =
          inner'.before (behind (some (tag', rest'.before (behind next')))) := Sequence.marked.inj h
      cases marker
      obtain ⟨rfl, following⟩ := ihInner others
      obtain ⟨rfl, rfl⟩ := ihRest (Prod.mk.inj (Option.some.inj following)).2
      exact ⟨rfl, rfl⟩

theorem sequence_injective {f f' : Forest} (h : f.sequence = f'.sequence) : f = f' :=
  (@before_injective f f' none none h).1

end Forest

namespace Sequence

def isNested (tags : List String) : List String → Sequence → Bool
  | opened, last _ => opened.isEmpty
  | opened, marked _ (.opening tag _) rest => tags.contains tag && rest.isNested tags (tag :: opened)
  | tag' :: opened, marked _ (.closing tag) rest => tag == tag' && rest.isNested tags opened
  | [], marked _ (.closing _) _ => false

def peak (tags : List String) : List String → Sequence → Nat
  | opened, last _ => opened.length
  | opened, marked _ (.opening tag _) rest => if tag ∈ tags then rest.peak tags (tag :: opened) else opened.length
  | opened, marked _ (.closing tag) rest =>
    if opened.head? = some tag then max opened.length (rest.peak tags opened.tail)
    else if endTag tag ∈ tags then rest.peak tags (endTag tag :: opened)
    else opened.length

variable {tags opened : List String}

theorem length_le_peak (s : Sequence) : opened.length ≤ s.peak tags opened := by
  induction s generalizing opened with
  | last text => exact Nat.le_refl _
  | marked text m rest ih =>
    cases m with
    | opening tag arguments =>
      rw [peak]
      split
      · exact Nat.le_of_succ_le (@ih (tag :: opened))
      · exact Nat.le_refl _
    | closing tag =>
      rw [peak]
      split
      · exact Nat.le_max_left _ _
      · split
        · exact Nat.le_of_succ_le (@ih (endTag tag :: opened))
        · exact Nat.le_refl _

theorem isNested_before {f : Forest} (known : f.tags ⊆ tags) {more : List Char → Sequence} {b : Bool}
    (h : ∀ text, (more text).isNested tags opened = b) : (f.before more).isNested tags opened = b := by
  induction f generalizing opened more b with
  | last text => exact h text
  | block text tag arguments inner rest ihInner ihRest =>
    simp only [Forest.tags, List.cons_subset, List.append_subset] at known
    obtain ⟨first, innerKnown, restKnown⟩ := known
    rw [Forest.before, isNested, List.contains_iff_mem.mpr first, Bool.true_and]
    refine ihInner innerKnown fun text => ?_
    rw [isNested, BEq.rfl, Bool.true_and]
    exact ihRest restKnown h

theorem peak_before {f : Forest} (known : f.tags ⊆ tags) {more : List Char → Sequence} {n : Nat}
    (h : ∀ text, (more text).peak tags opened = n) (deep : opened.length ≤ n) :
    (f.before more).peak tags opened = max (opened.length + f.depth) n := by
  induction f generalizing opened more n with
  | last text =>
    rw [Forest.before, h, Forest.depth, Nat.add_zero, Nat.max_eq_right deep]
  | block text tag arguments inner rest ihInner ihRest =>
    simp only [Forest.tags, List.cons_subset, List.append_subset] at known
    obtain ⟨first, innerKnown, restKnown⟩ := known
    have closes (text : List Char) : (marked text (.closing tag) (rest.before more)).peak tags (tag :: opened) =
        max (opened.length + 1) (max (opened.length + rest.depth) n) := by
      rw [peak, List.head?_cons, if_pos rfl, List.tail_cons, ihRest restKnown h deep]
      rfl
    rw [Forest.before, peak, if_pos first, ihInner innerKnown closes (Nat.le_max_left _ _), Forest.depth, List.length_cons]
    omega

theorem isNested_prepared (layout : Layout) (s : Sequence) : (s.prepared layout).isNested tags opened = s.isNested tags opened := by
  induction s generalizing opened with
  | last text => rfl
  | marked text m rest ih =>
    cases m with
    | opening tag arguments => exact congrArg (tags.contains tag && ·) ih
    | closing tag =>
      cases opened with
      | nil => rfl
      | cons tag' opened => exact congrArg (tag == tag' && ·) ih

theorem peak_prepared (layout : Layout) (s : Sequence) : (s.prepared layout).peak tags opened = s.peak tags opened := by
  induction s generalizing opened with
  | last text => rfl
  | marked text m rest ih =>
    cases m with
    | opening tag arguments => simp only [prepared, Marker.unified, peak, ih]
    | closing tag => simp only [prepared, Marker.unified, peak, ih]

end Sequence

/-! ## Arguments -/

def TokenKind.isInner : TokenKind → Bool
  | .blockEnd => false
  | .ending => false
  | _ => true

inductive Follows : List Symbol → TokenKind → List Symbol → Prop
  | name {owed : List Symbol} {word : String} : IsName word.toList → Follows owed (.name word) owed
  | text {owed : List Symbol} (s : String) : Follows owed (.text s) owed
  | int {owed : List Symbol} (n : Nat) : Follows owed (.int n) owed
  | float {owed : List Symbol} (x : Float) : Follows owed (.float x) owed
  | symbol {owed owed' : List Symbol} {s : Symbol} : balance owed s = .ok owed' → Follows owed (.symbol s) owed'

theorem Follows.isInner {owed owed' : List Symbol} {k : TokenKind} (h : Follows owed k owed') : k.isInner = true := by
  cases h <;> rfl

/-- Between delimiters a step ends the tag, passes blanks, or finds one token. -/
theorem insideStep_ok {layout : Layout} {isBlock : Bool} {owed : List Symbol} {afterDot : Bool} {offset : Nat}
    {cs : List Char} {s : Step} (h : insideStep layout isBlock owed afterDot offset cs = .ok s) :
    (owed = [] ∧ s.tokens = [if isBlock then .blockEnd else .variableEnd] ∧ s.place = .text) ∨
    ∃ owed' dot, s.place = .inside isBlock owed' dot ∧
      (s.tokens = [] ∧ owed' = owed ∨ ∃ k, s.tokens = [k] ∧ Follows owed k owed') := by
  unfold insideStep at h
  dsimp only at h
  split at h
  · next closed =>
    cases h
    refine .inl ⟨?_, rfl, rfl⟩
    split at closed
    · next settled => exact List.isEmpty_iff.mp settled
    · cases closed
  refine .inr ?_
  split at h
  · cases h
    exact ⟨owed, false, rfl, .inl ⟨rfl, rfl⟩⟩
  split at h
  · cases h
  · cases h
    exact ⟨owed, false, rfl, .inr ⟨_, rfl, .float _⟩⟩
  split at h
  · cases h
  · cases h
    exact ⟨owed, false, rfl, .inr ⟨_, rfl, .int _⟩⟩
  split at h
  · split at h
    · next identifier =>
      cases h
      have name : IsName (String.ofList (cs.takeWhile Text.isWordChar)).toList := by
        rw [String.toList_ofList]
        exact ⟨identifier, List.all_takeWhile⟩
      exact ⟨owed, false, rfl, .inr ⟨_, rfl, .name name⟩⟩
    · cases h
  split at h
  · split at h
    · cases h
      exact ⟨owed, false, rfl, .inr ⟨_, rfl, .text _⟩⟩
    · cases h
  split at h
  · next symbol n _ =>
    cases balanced : balance owed symbol with
    | error f =>
      rw [balanced] at h
      cases h
    | ok owed₁ =>
      rw [balanced] at h
      cases h
      exact ⟨owed₁, symbol == .dot, rfl, .inr ⟨_, rfl, .symbol balanced⟩⟩
  · cases h

theorem isInner_insideStep {layout : Layout} {owed owed' : List Symbol} {afterDot afterDot' : Bool} {offset : Nat}
    {cs rest : List Char} {kinds : List TokenKind}
    (h : insideStep layout true owed afterDot offset cs = .ok ⟨kinds, .inside true owed' afterDot', rest⟩) :
    ∀ k ∈ kinds, k.isInner = true := by
  rcases insideStep_ok h with ⟨-, -, place⟩ | ⟨_, _, -, ⟨tokens, -⟩ | ⟨k, tokens, follows⟩⟩
  · cases place
  · cases tokens
    exact fun _ none => absurd none List.not_mem_nil
  · cases tokens
    exact fun k' h => List.mem_singleton.mp h ▸ follows.isInner

theorem isInner_innerTokens {layout : Layout} {n : Nat} {owed : List Symbol} {afterDot : Bool} {cs : List Char}
    {kinds : List TokenKind} (h : innerTokens? layout n owed afterDot cs = some kinds) : ∀ k ∈ kinds, k.isInner = true := by
  induction n generalizing owed afterDot cs kinds with
  | zero => cases h
  | succ n ih =>
    rw [innerTokens?] at h
    split at h
    · split at h
      · cases h
        exact fun _ none => absurd none List.not_mem_nil
      · cases h
    · split at h
      · next first _ _ _ stays =>
        obtain ⟨others, behind, rfl⟩ := Option.map_eq_some_iff.mp h
        intro k hk
        rcases List.mem_append.mp hk with hk | hk
        · exact isInner_insideStep stays k hk
        · exact ih behind k hk
      · cases h

section Statements

open Parse

variable {tokens rest : List Token} {depth : Nat}

def markupStep (parts : List String) : Parse (Option (List String)) := do
  let t ← current
  if t.isBlockEnd || t.isEnding then return none
  discard next
  if t.kind.isTooLong then fail (.mishap .badValue) t.line
  return some (parts ++ [t.kind.markup])

theorem parseMarkup_eq : parseMarkup = do return " ".intercalate (← extend markupStep (← bound) []) := rfl

theorem run_markupStep {t : Token} (inner : t.kind.isInner = true) (short : t.kind.isTooLong = false) (parts : List String)
    (line : Nat) : (markupStep parts).run ⟨t :: rest, none, line, depth⟩ =
      .ok (some (parts ++ [t.kind.markup]), ⟨rest, none, t.line, depth⟩) := by
  have goesOn : (t.isBlockEnd || t.isEnding) = false := by
    cases t with | mk l kind => cases kind <;> first | rfl | cases inner
  have here : (⟨t :: rest, none, line, depth⟩ : Stream).current = t := rfl
  unfold markupStep
  rw [run_bind_ok (run_current _), here, if_neg (by simp [goesOn]), run_bind_ok (run_discard_next t rest line depth),
    if_neg (by simp [short])]
  rfl

theorem run_extend_markupStep (inner : ∀ t ∈ tokens, t.kind.isInner = true ∧ t.kind.isTooLong = false) (l : Nat)
    (parts : List String) {n : Nat} (line : Nat) (enough : tokens.length < n) : ∃ line',
    (extend markupStep n parts).run ⟨tokens ++ ⟨l, .blockEnd⟩ :: rest, none, line, depth⟩ =
      .ok (parts ++ tokens.map fun t => t.kind.markup, ⟨⟨l, .blockEnd⟩ :: rest, none, line', depth⟩) := by
  induction tokens generalizing parts n line with
  | nil =>
    obtain ⟨n, rfl⟩ : ∃ m, n = m + 1 := ⟨n - 1, by simp at enough; omega⟩
    exact ⟨line, (run_extend_stop n rfl).trans (by simp)⟩
  | cons t tokens ih =>
    obtain ⟨n, rfl⟩ : ∃ m, n = m + 1 := ⟨n - 1, by simp at enough; omega⟩
    obtain ⟨first, short⟩ := inner t List.mem_cons_self
    obtain ⟨line', ran⟩ := ih (fun t ht => inner t (List.mem_cons_of_mem _ ht)) (parts ++ [t.kind.markup]) t.line
      (show tokens.length < n by simpa using enough)
    refine ⟨line', (run_extend_go n (run_markupStep first short parts line)).trans (ran.trans ?_)⟩
    simp

/-- The reader of arguments takes all tokens up to the end of the tag. -/
theorem run_parseMarkup (inner : ∀ t ∈ tokens, t.kind.isInner = true ∧ t.kind.isTooLong = false) (l line : Nat) :
    ∃ line', parseMarkup.run ⟨tokens ++ ⟨l, .blockEnd⟩ :: rest, none, line, depth⟩ =
      .ok (" ".intercalate (tokens.map fun t => t.kind.markup), ⟨⟨l, .blockEnd⟩ :: rest, none, line', depth⟩) := by
  obtain ⟨line', ran⟩ := run_extend_markupStep inner l [] line
    (show tokens.length < (tokens ++ ⟨l, .blockEnd⟩ :: rest).length + 1 by rw [List.length_append]; omega)
  refine ⟨line', ?_⟩
  rw [parseMarkup_eq, run_bind_ok (run_bound _), run_bind_ok ran]
  rfl

theorem run_parseStatement_other {tags : List String} {sub : SubBody} {outer : Nesting} {word : String}
    (other : word ∉ statementWords) (l line : Nat) :
    (parseStatement tags sub outer).run ⟨⟨l, .name word⟩ :: rest, none, line, depth⟩ =
      (if tags.contains word then parseTag sub { outer with tags := word :: outer.tags } word
        else fail (.unknownTag word outer) l).run ⟨⟨l, .name word⟩ :: rest, none, line, depth⟩ := by
  unfold parseStatement
  rw [run_bind_ok (run_current _)]
  dsimp only [Stream.current]
  split <;> first | rfl | exact absurd (by decide) other

def Nesting.within (nesting : Nesting) (tag : String) : Nesting := ⟨tag :: nesting.tags, [endTag tag] :: nesting.ends⟩

theorem run_bind_congr {α β : Type} {p q : Parse α} {s s' : Stream} (h : p.run s = q.run s') (f : α → Parse β) :
    (p >>= f).run s = (q >>= f).run s' := by
  rw [StateT.run_bind, StateT.run_bind, h]

theorem run_parseWholeBody_eq {sub : SubBody} (nesting : Nesting) (ending : String) (l line : Nat) :
    (parseWholeBody sub nesting ending).run ⟨⟨l, .blockEnd⟩ :: rest, none, line, depth⟩ = (do
      let body ← sub { nesting with ends := [ending] :: nesting.ends } [ending]
      let t ← current
      if t.isEnding then fail (.unclosed { nesting with ends := [ending] :: nesting.ends }) t.line
      else do
        discard next
        return body : Parse (List Node)).run ⟨rest, none, l, depth⟩ := by
  have noColon : (discard (skipSymbol .colon)).run ⟨⟨l, .blockEnd⟩ :: rest, none, line, depth⟩ =
    .ok ((), ⟨⟨l, .blockEnd⟩ :: rest, none, line, depth⟩) := rfl
  have closes : (discard expectBlockEnd).run ⟨⟨l, .blockEnd⟩ :: rest, none, line, depth⟩ =
    .ok ((), ⟨rest, none, l, depth⟩) := by cases rest <;> rfl
  unfold parseWholeBody parseBody
  simp only [bind_assoc]
  rw [run_bind_ok noColon, run_bind_ok closes]
  congr 1
  congr 1
  funext body
  congr 1
  funext t
  split
  · rfl
  · rw [pure_bind]

section Opening

variable {tags : List String} {n : Nat} {nesting : Nesting} {ends : List String} {pieces : List Piece} {nodes : List Node}
  {word : String} (goesOn : word ∉ ends) (other : word ∉ statementWords) (l l' line : Nat)
include goesOn other

theorem run_parseNodes_statement (following : List Token) :
    (parseNodes tags (n + 1) nesting ends pieces nodes).run
        ⟨⟨l, .blockBegin⟩ :: ⟨l', .name word⟩ :: following, none, line, depth⟩ =
      ((if tags.contains word then
          parseTag (fun nesting ends => deeper 4 (parseNodes tags n nesting ends [] [])) ⟨word :: nesting.tags, nesting.ends⟩ word
        else fail (.unknownTag word nesting) l') >>= fun node => do
          discard expectBlockEnd
          parseNodes tags n nesting ends [] (flush pieces nodes ++ [node])).run
        ⟨⟨l', .name word⟩ :: following, none, l, depth⟩ := by
  have unended : ¬ ends.contains word = true := fun found => goesOn (List.contains_iff_mem.mp found)
  rw [parseNodes, run_bind_ok (run_current _)]
  dsimp only [Stream.current]
  rw [run_bind_ok (run_discard_next _ _ line depth), run_bind_ok (run_current _)]
  dsimp only [Stream.current]
  rw [if_neg unended]
  exact run_bind_congr (run_parseStatement_other other l' l) _

/-- A tag that is not known is refused. -/
theorem run_parseNodes_unknown (unknown : word ∉ tags) (following : List Token) :
    (parseNodes tags (n + 1) nesting ends pieces nodes).run
        ⟨⟨l, .blockBegin⟩ :: ⟨l', .name word⟩ :: following, none, line, depth⟩ = .error ⟨.unknownTag word nesting, l'⟩ := by
  have absent : ¬ tags.contains word = true := fun found => unknown (List.contains_iff_mem.mp found)
  rw [run_parseNodes_statement goesOn other, if_neg absent]
  rfl

/-- Behind the opening marker of a tag that is known the body is read, then the closing marker, then what follows. -/
theorem run_parseNodes_opening (known : word ∈ tags)
    (inner : ∀ t ∈ tokens, t.kind.isInner = true ∧ t.kind.isTooLong = false) (l'' : Nat) :
    (parseNodes tags (n + 1) nesting ends pieces nodes).run
        ⟨⟨l, .blockBegin⟩ :: ⟨l', .name word⟩ :: (tokens ++ ⟨l'', .blockEnd⟩ :: rest), none, line, depth⟩ =
      (do
        let body ← deeper 4 (parseNodes tags n (nesting.within word) [endTag word] [] [])
        let t ← current
        if t.isEnding then fail (.unclosed (nesting.within word)) t.line
        else do
          discard next
          discard expectBlockEnd
          parseNodes tags n nesting ends [] (flush pieces nodes ++
            [.tagBlock word (" ".intercalate (tokens.map fun t => t.kind.markup)) (body ++ [.collect])]) :
          Parse (List Node)).run
        ⟨rest, none, l'', depth⟩ := by
  obtain ⟨line', arguments⟩ : ∃ line', parseMarkup.run ⟨tokens ++ ⟨l'', .blockEnd⟩ :: rest, none, l', depth⟩ =
    .ok (_, ⟨⟨l'', .blockEnd⟩ :: rest, none, line', depth⟩) := run_parseMarkup inner l'' l'
  rw [run_parseNodes_statement goesOn other, if_pos (List.contains_iff_mem.mpr known)]
  unfold parseTag
  simp only [bind_assoc]
  rw [run_bind_ok (run_discard_next _ _ l depth), run_bind_ok arguments]
  refine (run_bind_congr (run_parseWholeBody_eq _ (endTag word) l'' line') _).trans ?_
  simp only [bind_assoc, pure_bind]
  congr 1
  congr 1
  funext body
  congr 1
  funext t
  split
  · rfl
  · simp only [bind_assoc, pure_bind]

end Opening

end Statements

/-! ## Sequences -/

def Sequence.Ready (layout : Layout) : Sequence → Prop
  | last _ => True
  | marked _ marker rest => marker.Proper layout ∧ marker.unified = marker ∧ rest.Ready layout

theorem Sequence.Proper.ready {layout : Layout} {s : Sequence} (h : s.Proper layout) : (s.prepared layout).Ready layout := by
  induction s with
  | last text => trivial
  | marked text m rest ih => exact ⟨h.2.1.unified, m.unified_unified, ih h.2.2⟩

theorem exists_of_map_kind {tokens : List Token} {k : TokenKind} {kinds : List TokenKind}
    (h : tokens.map Token.kind = k :: kinds) : ∃ l rest, tokens = ⟨l, k⟩ :: rest ∧ rest.map Token.kind = kinds := by
  obtain ⟨⟨l, kind⟩, rest, rfl, rfl, spelled⟩ := List.map_eq_cons_iff.mp h
  exact ⟨l, rest, rfl, spelled⟩

namespace Marker

variable {layout : Layout} {m : Marker}

theorem exists_tokens {tokens : List Token} {kinds : List TokenKind} (h : tokens.map Token.kind = m.kinds layout ++ kinds) :
    ∃ l l' arguments l'' rest, tokens = ⟨l, .blockBegin⟩ :: ⟨l', .name m.word⟩ :: (arguments ++ ⟨l'', .blockEnd⟩ :: rest) ∧
      arguments.map Token.kind = m.argumentKinds layout ∧ rest.map Token.kind = kinds := by
  rw [Marker.kinds, List.cons_append, List.cons_append, List.append_assoc] at h
  obtain ⟨l, _, rfl, named⟩ := exists_of_map_kind h
  obtain ⟨l', _, rfl, inside⟩ := exists_of_map_kind named
  obtain ⟨arguments, _, rfl, spelled, closed⟩ := List.map_eq_append_iff.mp inside
  obtain ⟨l'', rest, rfl, others⟩ := exists_of_map_kind closed
  exact ⟨l, l', arguments, l'', rest, rfl, spelled, others⟩

/-- The reader of arguments can take those of a marker. -/
theorem Proper.inner (h : m.Proper layout) (same : m.unified = m) {arguments : List Token}
    (spelled : arguments.map Token.kind = m.argumentKinds layout) :
    ∀ t ∈ arguments, t.kind.isInner = true ∧ t.kind.isTooLong = false := by
  intro t ht
  have found : t.kind ∈ m.argumentKinds layout := spelled ▸ List.mem_map_of_mem ht
  have cut := h.argumentKinds?_eq same
  refine ⟨isInner_innerTokens cut _ found, ?_⟩
  cases m with
  | opening tag arguments =>
    obtain ⟨-, kinds, cut', short⟩ := h
    rw [same, cut] at cut'
    cases cut'
    exact short _ found
  | closing tag => cases found

theorem Proper.not_mem_statementWords (h : m.Proper layout) : m.word ∉ statementWords := by
  cases m with
  | opening tag arguments => exact h.1.unused
  | closing tag =>
    intro found
    have words : ∀ word ∈ statementWords, List.isPrefixOf ['e', 'n', 'd'] word.toList = false := by decide
    have differs := words _ found
    rw [word, toList_endTag] at differs
    cases differs

end Marker

def awaited (opened : List String) : List String := (opened.head?.map endTag).toList

def Problem.isNesting : Problem → Bool
  | .unknownTag _ _ => true
  | .unclosed _ => true
  | _ => false

inductive Reads (layout : Layout) (tags opened : List String) (s : Sequence) (nodes : List Node) (size : Nat) :
    Except Flaw (List Node × Stream) → Prop
  | ended {f : Forest} {line depth : Nat} (same : s = f.sequence) (known : f.tags ⊆ tags) :
    Reads layout tags opened s nodes size (.ok (nodes ++ f.nodes layout, ⟨[], none, line, depth⟩))
  | closed {f : Forest} {tag : String} {outer : List String} {rest : Sequence} {tokens : List Token} {l l' line depth : Nat}
    (same : s = f.before fun text => .marked text (.closing tag) rest) (known : f.tags ⊆ tags) (last : opened = tag :: outer)
    (named : TagName tag) (ready : rest.Ready layout) (spelled : tokens.map Token.kind = rest.kinds layout)
    (fewer : tokens.length < size) :
    Reads layout tags opened s nodes size
      (.ok (nodes ++ f.nodes layout, ⟨⟨l, .name (endTag tag)⟩ :: ⟨l', .blockEnd⟩ :: tokens, none, line, depth⟩))
  | refused {flaw : Flaw} (wrong : s.isNested tags opened = false) (kind : flaw.problem.isNesting = true) :
    Reads layout tags opened s nodes size (.error flaw)
  | tooDeep {flaw : Flaw} (deep : Parse.depthLimit < 4 * s.peak tags opened) :
    Reads layout tags opened s nodes size (.error flaw)

section Blocks

variable {layout : Layout} {tags opened : List String}

def blockBefore (text : List Char) (tag : String) (arguments : List Char) (f : Forest) (rest : Sequence) : Sequence :=
  .marked text (.opening tag arguments) (f.before fun text => .marked text (.closing tag) rest)

section Whole

variable {text : List Char} {tag : String} {arguments : List Char} {f : Forest} {rest : Sequence} (first : tag ∈ tags)
  (known : f.tags ⊆ tags)
include first known

theorem isNested_blockBefore : (blockBefore text tag arguments f rest).isNested tags opened = rest.isNested tags opened := by
  rw [blockBefore, Sequence.isNested, List.contains_iff_mem.mpr first, Bool.true_and]
  refine Sequence.isNested_before known fun text => ?_
  rw [Sequence.isNested, BEq.rfl, Bool.true_and]

theorem peak_le_blockBefore : rest.peak tags opened ≤ (blockBefore text tag arguments f rest).peak tags opened := by
  have closes (text : List Char) : (Sequence.marked text (.closing tag) rest).peak tags (tag :: opened) =
      max (opened.length + 1) (rest.peak tags opened) := by
    rw [Sequence.peak, List.head?_cons, if_pos rfl]
    rfl
  rw [blockBefore, Sequence.peak, if_pos first, Sequence.peak_before known closes (Nat.le_max_left _ _)]
  exact Nat.le_trans (Nat.le_max_right _ _) (Nat.le_max_right _ _)

/-- What follows a block decides about all of it. -/
theorem Reads.behindBlock {nodes : List Node} {size size' : Nat} {r : Except Flaw (List Node × Stream)} (fewer : size ≤ size')
    (h : Reads layout tags opened rest (nodes ++ clearTree text ++
      [.tagBlock tag (Forest.markup layout tag arguments) (f.nodes layout ++ [.collect])]) size r) :
    Reads layout tags opened (blockBefore text tag arguments f rest) nodes size' r := by
  have whole (f' : Forest) (restKnown : f'.tags ⊆ tags) : (Forest.block text tag arguments f f').tags ⊆ tags := by
    simp only [Forest.tags, List.cons_subset, List.append_subset]
    exact ⟨first, known, restKnown⟩
  have joined (f' : Forest) : nodes ++ clearTree text ++
      [.tagBlock tag (Forest.markup layout tag arguments) (f.nodes layout ++ [.collect])] ++ f'.nodes layout =
      nodes ++ (Forest.block text tag arguments f f').nodes layout := by
    simp [Forest.nodes]
  cases h with
  | @ended f' _ _ same restKnown =>
    rw [joined, same]
    exact .ended (f := .block text tag arguments f f') rfl (whole f' restKnown)
  | @closed f' _ _ _ _ _ _ _ _ same restKnown last named ready spelled less =>
    rw [joined, same]
    exact .closed (f := .block text tag arguments f f') rfl (whole f' restKnown) last named ready spelled
      (Nat.lt_of_lt_of_le less fewer)
  | refused wrong kind => exact .refused ((isNested_blockBefore first known).trans wrong) kind
  | tooDeep deep => exact .tooDeep (Nat.lt_of_lt_of_le deep (Nat.mul_le_mul_left 4 (peak_le_blockBefore first known)))

end Whole

theorem endTag_injective {tag tag' : String} (h : endTag tag = endTag tag') : tag = tag' := by
  have spelled := congrArg String.toList h
  rw [toList_endTag, toList_endTag] at spelled
  exact String.toList_injective (by simpa using spelled)

theorem TagName.ne_endTag {tag : String} (h : TagName tag) (tag' : String) : tag ≠ endTag tag' := by
  rintro rfl
  exact h.opens ⟨tag'.toList, (toList_endTag tag').symm⟩

/-- A marker with an end word that is waited for closes the tag that was opened last. -/
theorem Marker.Proper.closes {m : Marker} (h : m.Proper layout) (ends : m.word ∈ awaited opened) :
    ∃ tag outer, opened = tag :: outer ∧ m = .closing tag ∧ TagName tag := by
  cases opened with
  | nil => cases ends
  | cons tag outer =>
    have same : m.word = endTag tag := by simpa [awaited] using ends
    cases m with
    | opening tag' arguments => exact absurd same (h.1.ne_endTag tag)
    | closing tag' =>
      obtain rfl := endTag_injective same
      exact ⟨tag', outer, rfl, rfl, h⟩

section Stray

variable {text : List Char} {m : Marker} {rest : Sequence} (goesOn : m.word ∉ awaited opened)
include goesOn

/-- A marker that closes nothing has to open a tag that is known, and the rest has to close it. -/
theorem not_isNested_stray (wrong : m.word ∉ tags ∨ rest.isNested tags (m.word :: opened) = false) :
    (Sequence.marked text m rest).isNested tags opened = false := by
  cases m with
  | opening tag arguments =>
    rw [Sequence.isNested, Bool.and_eq_false_iff]
    exact wrong.imp_left fun unknown => Bool.eq_false_iff.mpr fun found => unknown (List.contains_iff_mem.mp found)
  | closing tag =>
    cases opened with
    | nil => rfl
    | cons tag' outer =>
      have differs : tag ≠ tag' := by
        rintro rfl
        exact goesOn (by simp [awaited, Marker.word])
      rw [Sequence.isNested, beq_eq_false_iff_ne.mpr differs]
      rfl

theorem peak_stray (known : m.word ∈ tags) :
    (Sequence.marked text m rest).peak tags opened = rest.peak tags (m.word :: opened) := by
  cases m with
  | opening tag arguments => exact if_pos known
  | closing tag =>
    have differs : opened.head? ≠ some tag := fun same => goesOn (by simp [awaited, same, Marker.word])
    exact (if_neg differs).trans (if_pos known)

end Stray

open Parse

def textPieces (cs : List Char) : List Piece := if cs.isEmpty then [] else [.data (String.ofList cs)]

theorem flush_textPieces (cs : List Char) (nodes : List Node) : flush (textPieces cs) nodes = nodes ++ clearTree cs := by
  cases cs with
  | nil => exact (List.append_nil nodes).symm
  | cons c cs => rfl

def ReadsAll (layout : Layout) (tags : List String) (n : Nat) : Prop :=
  ∀ (opened : List String) (s : Sequence) (tokens : List Token) (nodes : List Node) (nesting : Nesting) (line : Nat),
    s.Ready layout → tokens.map Token.kind = s.kinds layout → tokens.length < n →
      Reads layout tags opened s nodes tokens.length
        ((parseNodes tags n nesting (awaited opened) [] nodes).run ⟨tokens, none, line, 4 * opened.length⟩)

section Turn

variable {n : Nat} (ih : ReadsAll layout tags n) {text : List Char} {m : Marker} {rest : Sequence} (proper : m.Proper layout)
  (same : m.unified = m) (ready : rest.Ready layout) (nodes : List Node) (nesting : Nesting)
include ih proper same ready

theorem reads_opened (goesOn : m.word ∉ awaited opened) (known : m.word ∈ tags) {more arguments : List Token}
    (argumentsSpelled : arguments.map Token.kind = m.argumentKinds layout)
    (spelled : more.map Token.kind = rest.kinds layout) (enough : more.length < n) {size : Nat} (fewer : more.length ≤ size)
    (line : Nat) :
    Reads layout tags opened (.marked text m rest) nodes size
      ((do
        let body ← deeper 4 (parseNodes tags n (nesting.within m.word) [endTag m.word] [] [])
        let t ← current
        if t.isEnding then fail (.unclosed (nesting.within m.word)) t.line
        else do
          discard next
          discard expectBlockEnd
          parseNodes tags n nesting (awaited opened) [] (nodes ++ clearTree text ++
            [.tagBlock m.word (" ".intercalate (arguments.map fun t => t.kind.markup)) (body ++ [.collect])]) :
          Parse (List Node)).run ⟨more, none, line, 4 * opened.length⟩) := by
  have inner := ih (m.word :: opened) rest more [] (nesting.within m.word) line ready spelled enough
  rw [show awaited (m.word :: opened) = [endTag m.word] from rfl,
    show 4 * (m.word :: opened).length = 4 * opened.length + 4 from rfl] at inner
  by_cases borne : 4 * opened.length + 4 ≤ depthLimit
  · generalize body : (parseNodes tags n (nesting.within m.word) [endTag m.word] [] []).run _ = r at inner
    cases inner with
    | @ended f line' depth' sequence innerKnown =>
      have unclosed : rest.isNested tags (m.word :: opened) = false := by
        rw [sequence]
        exact Sequence.isNested_before innerKnown fun _ => rfl
      rw [run_bind_ok (run_deeper borne body)]
      exact .refused (not_isNested_stray goesOn (.inr unclosed)) rfl
    | @closed f tag outer rest' tokens l l' line' depth' sequence innerKnown last named restReady restSpelled less =>
      obtain ⟨rfl, rfl⟩ := List.cons.inj last
      cases m with
      | closing tag => exact absurd rfl (named.ne_endTag tag)
      | opening tag tagArguments =>
        have closes : (discard expectBlockEnd).run ⟨⟨l', .blockEnd⟩ :: tokens, none, l, 4 * opened.length⟩ =
          .ok ((), ⟨tokens, none, l', 4 * opened.length⟩) := by cases tokens <;> rfl
        have markup : " ".intercalate (arguments.map fun t => t.kind.markup) = Forest.markup layout tag tagArguments := by
          rw [Forest.markup, ← argumentsSpelled, List.map_map]
          rfl
        rw [run_bind_ok (run_deeper borne body), run_bind_ok (run_current _),
          if_neg (show ¬ (Stream.current ⟨⟨l, .name _⟩ :: _, none, line', _⟩).isEnding = true from Bool.false_ne_true),
          run_bind_ok (run_discard_next _ _ line' _), run_bind_ok closes, markup, sequence]
        exact (ih opened rest' tokens _ nesting l' restReady restSpelled (Nat.lt_trans less enough)).behindBlock known innerKnown
          (Nat.le_trans (Nat.le_of_lt less) fewer)
    | refused wrong kind =>
      rw [run_bind_error (run_deeper_error borne body)]
      exact .refused (not_isNested_stray goesOn (.inr wrong)) kind
    | tooDeep deep =>
      rw [run_bind_error (run_deeper_error borne body)]
      exact .tooDeep (peak_stray goesOn known ▸ deep)
  · obtain ⟨_, beyond⟩ := exceeds_deeper (p := parseNodes tags n (nesting.within m.word) [endTag m.word] [] []) more line
      fun fits => absurd fits borne
    rw [run_bind_error beyond]
    refine .tooDeep ?_
    rw [peak_stray goesOn known]
    have : opened.length + 1 ≤ rest.peak tags (m.word :: opened) :=
      @Sequence.length_le_peak tags (m.word :: opened) rest
    omega

theorem reads_marker {tokens : List Token} (spelled : tokens.map Token.kind = m.kinds layout ++ rest.kinds layout)
    (enough : tokens.length ≤ n) {size : Nat} (fewer : tokens.length ≤ size) (line : Nat) :
    Reads layout tags opened (.marked text m rest) nodes size
      ((parseNodes tags (n + 1) nesting (awaited opened) (textPieces text) nodes).run ⟨tokens, none, line, 4 * opened.length⟩) := by
  obtain ⟨l, l', arguments, l'', more, rfl, argumentsSpelled, moreSpelled⟩ := Marker.exists_tokens spelled
  have short : more.length < (⟨l, .blockBegin⟩ :: ⟨l', .name m.word⟩ :: (arguments ++ ⟨l'', .blockEnd⟩ :: more) :
      List Token).length := by
    simp
    omega
  by_cases closes : m.word ∈ awaited opened
  · obtain ⟨tag, outer, rfl, rfl, named⟩ := proper.closes closes
    obtain rfl : arguments = [] := List.map_eq_nil_iff.mp argumentsSpelled
    have ends := run_parseNodes_ends tags n nesting (awaited (tag :: outer)) (textPieces text) nodes line
      (4 * (tag :: outer).length) (⟨l'', .blockEnd⟩ :: more) closes l l'
    rw [flush_textPieces] at ends
    exact ends ▸ .closed (f := .last text) rfl (List.nil_subset _) rfl named ready moreSpelled (Nat.lt_of_lt_of_le short fewer)
  · by_cases known : m.word ∈ tags
    · rw [run_parseNodes_opening closes proper.not_mem_statementWords l l' line known (proper.inner same argumentsSpelled) l'',
        flush_textPieces]
      exact reads_opened ih proper same ready nodes nesting closes known argumentsSpelled moreSpelled
        (Nat.lt_of_lt_of_le short enough) (Nat.le_of_lt (Nat.lt_of_lt_of_le short fewer)) l''
    · rw [run_parseNodes_unknown closes proper.not_mem_statementWords l l' line known]
      exact .refused (not_isNested_stray closes (.inl known)) rfl

end Turn

/-- The reader takes a piece of text, if there is one. -/
theorem run_parseNodes_text {tokens : List Token} {text : List Char} {kinds : List TokenKind}
    (spelled : tokens.map Token.kind = dataTokens text ++ kinds) {n : Nat} (enough : tokens.length < n)
    (tags : List String) (nesting : Nesting) (ends : List String) (nodes : List Node) (line depth : Nat) :
    ∃ n' more line', n' < n ∧ more.length ≤ n' ∧ more.length ≤ tokens.length ∧ more.map Token.kind = kinds ∧
      (parseNodes tags n nesting ends [] nodes).run ⟨tokens, none, line, depth⟩ =
        (parseNodes tags (n' + 1) nesting ends (textPieces text) nodes).run ⟨more, none, line', depth⟩ := by
  obtain ⟨n, rfl⟩ : ∃ k, n = k + 1 := ⟨n - 1, by omega⟩
  cases text with
  | nil => exact ⟨n, tokens, line, Nat.lt_succ_self n, Nat.le_of_lt_succ enough, Nat.le_refl _, spelled, rfl⟩
  | cons c text =>
    obtain ⟨l, more, rfl, others⟩ := exists_of_map_kind spelled
    simp only [List.length_cons] at enough
    obtain ⟨n, rfl⟩ : ∃ k, n = k + 1 := ⟨n - 1, by omega⟩
    exact ⟨n, more, l, by omega, by omega, Nat.le_succ _, others,
      run_parseNodes_data tags (n + 1) nesting ends [] nodes line depth more _ l⟩

theorem readsAll (layout : Layout) (tags : List String) (n : Nat) : ReadsAll layout tags n := by
  induction n using Nat.strongRecOn with
  | ind n ih =>
    intro opened s tokens nodes nesting line ready spelled enough
    cases s with
    | last text =>
      rw [Sequence.kinds, ← List.append_nil (dataTokens text)] at spelled
      obtain ⟨n', more, line', -, -, -, none, ran⟩ :=
        run_parseNodes_text spelled enough tags nesting (awaited opened) nodes line (4 * opened.length)
      obtain rfl := List.map_eq_nil_iff.mp none
      rw [ran, run_parseNodes_ending, flush_textPieces]
      exact .ended (f := .last text) rfl (List.nil_subset _)
    | marked text m rest =>
      obtain ⟨proper, same, restReady⟩ := ready
      obtain ⟨n', more, line', less, short, fewer, others, ran⟩ :=
        run_parseNodes_text spelled enough tags nesting (awaited opened) nodes line (4 * opened.length)
      rw [ran]
      exact reads_marker (ih n' less) proper same restReady nodes nesting others short fewer line'

end Blocks

/-- What becomes of a text with markers: it is the tree of a forest, or it is refused since its markers are not nested, or
nesting is too deep. -/
theorem parse_sequence {layout : Layout} (untrimmed : layout.trimBlocks = false) (unstripped : layout.lstripBlocks = false)
    {s : Sequence} (proper : s.Proper layout) (tags : List String) :
    (∃ f : Forest, f.sequence = s.prepared layout ∧ f.tags ⊆ tags ∧
      parse layout tags (String.ofList s.text) = .ok (f.nodes layout)) ∨
    (s.isNested tags [] = false ∧ ∃ flaw, parse layout tags (String.ofList s.text) = .error flaw ∧
      flaw.problem.isNesting = true) ∨
    (Parse.depthLimit < 4 * s.peak tags [] ∧ ∃ flaw, parse layout tags (String.ofList s.text) = .error flaw) := by
  obtain ⟨tokens, cut, spelled⟩ := Sequence.lex_text untrimmed unstripped proper
  have starts : Stream.start ⟨tokens, none⟩ = .ok ⟨tokens, none, 1, 0⟩ := by cases tokens <;> rfl
  have read := readsAll layout tags (2 * tokens.length + 2) [] (s.prepared layout) tokens [] {} 1 proper.ready spelled (by omega)
  unfold parse
  rw [String.toList_ofList, cut, starts]
  simp only [bind, Except.bind]
  rw [show awaited [] = [] from rfl, show 4 * ([] : List String).length = 0 from rfl] at read
  generalize (parseNodes tags (2 * tokens.length + 2) {} [] [] []).run ⟨tokens, none, 1, 0⟩ = r at read ⊢
  cases read with
  | ended same known => exact .inl ⟨_, same.symm, known, rfl⟩
  | closed _ _ last => cases last
  | refused wrong kind =>
    rw [Sequence.isNested_prepared] at wrong
    exact .inr (.inl ⟨wrong, _, rfl, kind⟩)
  | tooDeep deep =>
    rw [Sequence.peak_prepared] at deep
    exact .inr (.inr ⟨deep, _, rfl⟩)

open Parse

/-! ## Blocks that stand too deep in each other -/

section Exceeding

variable (l l' line : Nat) {depth : Nat} (beyond : depthLimit < depth + 11) (rest : List Token)
include beyond

theorem exceeds_expression : Exceeds (expression true) (beforeName l l' line depth rest) := by
  unfold expression
  refine .after (run_bound _) ?_
  rw [expressionWithin, if_pos rfl]
  exact exceeds_deeper _ _ fun borne => absurd borne (Nat.not_le.mpr beyond)

theorem exceeds_parseTuple : Exceeds (parseTuple expression true [] false) (beforeName l l' line depth rest) := by
  have goesOn : (atTupleEnd []).run (beforeName l l' line depth rest) = .ok (false, beforeName l l' line depth rest) := rfl
  unfold parseTuple parseRow
  dsimp only
  refine .bind (.after (run_bound _) (.bind ?_ _)) _
  rw [show (beforeName l l' line depth rest).tokens.length + 1 = rest.length + 2 + 1 from rfl, extend]
  refine .bind ?_ _
  simp only [List.isEmpty_nil, Bool.not_true, Bool.false_eq_true, if_false]
  refine .after goesOn ?_
  simp only [Bool.false_eq_true, if_false]
  exact .bind (exceeds_expression l l' line beyond rest) _

end Exceeding

theorem exceeds_nested {tags : List String} (known : "render" ∈ tags) (n fuel : Nat) (nesting : Nesting) {ends : List String}
    (other : "render" ∉ ends) (line depth : Nat) (tail : List Token) (enough : n ≤ fuel)
    (beyond : depthLimit < depth + 4 * n + 11) :
    Exceeds (parseNodes tags (fuel + 1) nesting ends [] []) ⟨nestedTokens n ++ tail, none, line, depth⟩ := by
  induction n generalizing fuel nesting ends line depth tail with
  | zero =>
    rw [parseNodes]
    refine .after (run_current _) ?_
    dsimp only [nestedTokens, List.cons_append, Stream.current]
    exact .after (run_discard_next _ _ line depth) (.bind (exceeds_parseTuple 1 1 1 beyond tail) _)
  | succ n ih =>
    obtain ⟨m, rfl⟩ : ∃ m, fuel = m + 1 := ⟨fuel - 1, by omega⟩
    have inner : Exceeds (deeper 4 (parseNodes tags (m + 1) (nesting.within "render") [endTag "render"] [] []))
        ⟨nestedTokens n ++ (tagTokens "endrender" ++ tail), none, 1, depth⟩ :=
      exceeds_deeper _ _ fun _ => ih m _ (by decide) 1 (depth + 4) _ (by omega) (by omega)
    unfold Exceeds
    rw [nestedTokens, List.append_assoc, List.append_assoc]
    rw [show tagTokens "render" ++ (nestedTokens n ++ (tagTokens "endrender" ++ tail)) =
      ⟨1, .blockBegin⟩ :: ⟨1, .name "render"⟩ :: ([] ++ ⟨1, .blockEnd⟩ :: (nestedTokens n ++ (tagTokens "endrender" ++ tail))) from rfl,
      run_parseNodes_opening other (by decide) 1 1 line known (fun _ none => absurd none List.not_mem_nil) 1]
    exact inner.bind _

theorem parse_nested_beyond (layout : Layout) {tags : List String} (known : "render" ∈ tags) {n : Nat}
    (beyond : depthLimit < 4 * n + 11) :
    ∃ line, parse layout tags (String.ofList (nestedText n)) = .error ⟨.mishap .tooDeep, line⟩ := by
  have starts : Stream.start ⟨nestedTokens n, none⟩ = .ok ⟨nestedTokens n, none, 1, 0⟩ := by cases n <;> rfl
  obtain ⟨line, failed⟩ := exceeds_nested known n (2 * (nestedTokens n).length + 1) {} (List.not_mem_nil (a := "render")) 1 0 []
    (by rw [length_nestedTokens]; omega) (by omega)
  rw [List.append_nil] at failed
  refine ⟨line, ?_⟩
  unfold parse
  rw [String.toList_ofList, lex_nested, starts]
  simp only [bind, Except.bind]
  rw [failed]

end Stencil.Template
