import Stencil.Proofs.Delivery

/-!
# Verbosity

Whether debug lines are wanted makes no difference to what a program does: it ends in the same way, with the same output
and the same files, and on the error output only the debug lines come and go.
-/

set_option autoImplicit false

namespace Stencil.Command

/-! ## Options in front -/

def Reading.behind (options : List (String × String)) (r : Reading) : Reading := { r with options := options ++ r.options }

section Behind

variable (g : Grammar) (options : List (String × String))

theorem takeEffect_behind (r : Reading) (o : Switch) :
    takeEffect (r.behind options) o = (takeEffect r o).map (·.behind options) := by
  unfold takeEffect
  cases o.effect with
  | help => rfl
  | version => rfl
  | value => simp [Reading.behind, Except.map]
  | flag => simp [Reading.behind, Except.map]

theorem takeRun_behind (r : Reading) (o : Switch) (divided : Bool) (cs : List Char) :
    takeRun g (r.behind options) o divided cs = (takeRun g r o divided cs).map (·.behind options) := by
  fun_induction takeRun g r o divided cs with
  | case1 o divided => rfl
  | case2 o divided c cs stuck =>
    rw [takeRun, if_pos stuck]
    rfl
  | case3 o divided c cs free unknown =>
    rw [takeRun, if_neg free, unknown]
    exact takeEffect_behind options { r with unwanted := r.unwanted ++ [String.ofList ('-' :: c :: cs)] } o
  | case4 o divided c free next known =>
    rw [takeRun, if_neg free, known]
    dsimp only
    rw [takeEffect_behind]
    cases takeEffect r o with
    | error stop => rfl
    | ok r' => exact takeEffect_behind options r' next
  | case5 o divided c free next known rest ih =>
    rw [takeRun, if_neg free, known]
    exact ih
  | case6 o divided c free next known cs notNil notEquals ih =>
    rw [takeRun, if_neg free, known]
    dsimp only
    split
    · exact absurd rfl notNil
    · exact absurd rfl (notEquals _)
    · exact ih

theorem takeOption_behind (r : Reading) (s : String) (w : Written) (rest : Marked) :
    takeOption g (r.behind options) s w rest = (takeOption g r s w rest).map fun p => (p.1.behind options, p.2) := by
  unfold takeOption
  cases w.switch with
  | none => rfl
  | some o =>
    dsimp only
    split
    · simp [Reading.behind, Except.map]
    · split
      · simp [Reading.behind, Except.map]
      · rfl
    · rw [takeEffect_behind]
      cases takeEffect r o <;> rfl
    · split
      · rfl
      · rw [takeRun_behind]
        cases takeRun g r o w.divided _ <;> rfl

theorem length_takeOption {r : Reading} {s : String} {w : Written} {rest : Marked} {p : Reading × Marked}
    (taken : takeOption g r s w rest = .ok p) : p.2.length ≤ rest.length := by
  have mapped {x : Except Stop Reading} {p : Reading × Marked} (h : x.map (·, rest) = .ok p) : p.2.length ≤ rest.length := by
    cases x with
    | error stop => cases h
    | ok r =>
      cases h
      exact Nat.le_refl _
  unfold takeOption at taken
  split at taken
  · cases taken
    exact Nat.le_refl _
  · split at taken
    · cases taken
      exact Nat.le_refl _
    · split at taken
      · cases taken
        exact Nat.le_succ _
      · cases taken
    · exact mapped taken
    · split at taken
      · cases taken
      · exact mapped taken

theorem giveOperand_behind (r : Reading) (items : Marked) :
    giveOperand g (r.behind options) items = (giveOperand g r items).map fun p => (p.1.behind options, p.2) := by
  unfold giveOperand
  have same : (r.behind options).operand = r.operand := rfl
  rw [same]
  by_cases served : r.operand.isSome = true
  · rw [if_pos served, if_pos served]
    rfl
  · rw [if_neg served, if_neg served]
    cases takeOperand? g.operand items with
    | none => rfl
    | some p =>
      dsimp only
      cases checkChoice g p.1 <;> rfl

/-- One step of reading. -/
theorem readMarked_succ (n : Nat) (r : Reading) (items : Marked) : readMarked g (n + 1) r items =
    if items.any fun i => i.2.isOption then
      match items with
      | (s, .option w) :: rest => takeOption g r s w rest >>= fun p => readMarked g n p.1 p.2
      | items => giveOperand g r items >>= fun p =>
        if p.2.length < items.length then readMarked g n p.1 p.2
        else
          let skipped := items.takeWhile fun i => !i.2.isOption
          readMarked g n { r with unwanted := r.unwanted ++ skipped.map Prod.fst } (items.drop skipped.length)
    else giveOperand g r items >>= fun p => .ok { p.1 with unwanted := p.1.unwanted ++ p.2.map Prod.fst } := rfl

theorem readMarked_behind (n : Nat) (r : Reading) (items : Marked) :
    readMarked g n (r.behind options) items = (readMarked g n r items).map (·.behind options) := by
  induction n generalizing r items with
  | zero => rfl
  | succ n ih =>
    rw [readMarked_succ, readMarked_succ]
    split
    · split
      · rw [takeOption_behind]
        cases takeOption g r _ _ _ with
        | error stop => rfl
        | ok p => exact ih p.1 p.2
      · rw [giveOperand_behind]
        cases giveOperand g r _ with
        | error stop => rfl
        | ok p =>
          simp only [Except.map, bind, Except.bind]
          split
          · exact ih p.1 p.2
          · exact ih { r with unwanted := r.unwanted ++ _ } _
    · rw [giveOperand_behind]
      cases giveOperand g r items <;> rfl

theorem length_drop_skipped {items : Marked} (some_option : items.any (fun i => i.2.isOption) = true)
    (not_first : ∀ s w rest, items = (s, .option w) :: rest → False) :
    (items.drop (items.takeWhile fun i => !i.2.isOption).length).length < items.length := by
  cases items with
  | nil => cases some_option
  | cons item rest =>
    obtain ⟨s, m⟩ := item
    have skips : (!m.isOption) = true := by
      cases m with
      | option w => exact (not_first s w rest rfl).elim
      | plain => rfl
      | divider => rfl
    simp only [List.takeWhile_cons, skips, if_true, List.length_drop, List.length_cons]
    omega

/-- What is left to read gets shorter with every step, so that more steps than arguments make no difference. -/
theorem readMarked_steps {n m : Nat} (r : Reading) {items : Marked} (hn : items.length < n) (hm : items.length < m) :
    readMarked g n r items = readMarked g m r items := by
  induction n generalizing m r items with
  | zero => omega
  | succ n ih =>
    obtain ⟨m, rfl⟩ : ∃ k, m = k + 1 := ⟨m - 1, by omega⟩
    rw [readMarked_succ, readMarked_succ]
    split
    · next some_option =>
      split
      · next s w rest =>
        cases taken : takeOption g r s w rest with
        | error stop => rfl
        | ok p =>
          have shorter := length_takeOption g taken
          rw [List.length_cons] at hn hm
          exact ih p.1 (by omega) (by omega)
      · next no_option_first =>
        cases giveOperand g r _ with
        | error stop => rfl
        | ok p =>
          simp only [bind, Except.bind]
          split
          · next shorter => exact ih p.1 (by omega) (by omega)
          · have shorter := length_drop_skipped some_option no_option_first
            exact ih _ (by omega) (by omega)
    · rfl

end Behind

/-- Asking for debug lines in front of all other arguments changes nothing else of what is read, mistakes included. -/
theorem parse_verbose (arguments : List String) :
    parse ("--verbose" :: arguments) = (parse arguments).map ({ · with verbose := true }) := by
  let o : Switch := ⟨["--verbose"], .flag⟩
  let first : String × Mark := ("--verbose", .option ⟨some o, true, false, none⟩)
  have marked : marks mainGrammar ("--verbose" :: arguments) = (marks mainGrammar arguments).map (first :: ·) := by
    have seen : mark mainGrammar "--verbose" = .ok first.2 := by rfl
    rw [marks, if_neg (by decide), seen]
    cases marks mainGrammar arguments <;> rfl
  have read : readArguments mainGrammar ("--verbose" :: arguments) =
      (readArguments mainGrammar arguments).map (·.behind [("--verbose", "")]) := by
    unfold readArguments
    rw [marked]
    cases marks mainGrammar arguments with
    | error stop => rfl
    | ok items =>
      have step : readMarked mainGrammar (2 * (first :: items).length + 1) {} (first :: items) =
          (readMarked mainGrammar (2 * items.length + 1) {} items).map (·.behind [("--verbose", "")]) := by
        rw [readMarked_succ, if_pos (by simp [first, Mark.isOption])]
        show readMarked mainGrammar (2 * (items.length + 1)) (({} : Reading).behind [("--verbose", "")]) items = _
        rw [readMarked_behind, readMarked_steps mainGrammar {} (m := 2 * items.length + 1) (by omega) (by omega)]
      simp only [Except.map, bind, Except.bind]
      rw [step]
      cases readMarked mainGrammar (2 * items.length + 1) {} items with
      | error stop => rfl
      | ok r =>
        show (if r.operand.isNone then _ else _) = Except.map _ (if r.operand.isNone then _ else _)
        cases r.operand <;> rfl
  unfold parse
  rw [read]
  cases readArguments mainGrammar arguments with
  | error stop => rfl
  | ok r =>
    show (readCommand r.first ((r.operand.getD []).drop 1) >>= _) =
      Except.map _ (readCommand r.first ((r.operand.getD []).drop 1) >>= _)
    cases readCommand r.first ((r.operand.getD []).drop 1) with
    | error stop => rfl
    | ok p =>
      show (if !(r.unwanted ++ p.2).isEmpty then _ else _) = Except.map _ (if !(r.unwanted ++ p.2).isEmpty then _ else _)
      split <;> rfl

/-! ## What debug lines change -/

def Ending.visible (e : Ending) : Nat × String × FileTree := (e.exitCode, e.output, e.files)

def logged (s : Surroundings) (arguments : List String) : List LogLine :=
  match parse arguments with
  | .ok i => (task s i.command).perform.2
  | .error _ => []

def lastWords (s : Surroundings) (arguments : List String) : String :=
  match parse arguments with
  | .ok i =>
    match (task s i.command).perform.1 with
    | .ok _ => ""
    | .error f => ((failureText? f).map (withoutTail · ++ "\n")).getD ""
  | .error stop => (stopEnding s stop).errors

def linesText (lines : List LogLine) : String := String.join (lines.map (·.written ++ "\n"))

def errorOutput (s : Surroundings) (arguments : List String) : String :=
  let debug := s.debug || (parse arguments).toOption.any (·.verbose)
  linesText ((logged s arguments).filter fun l => debug || l.level != .debug) ++ lastWords s arguments

theorem task_debug (s : Surroundings) (debug : Bool) (c : Command) : task { s with debug := debug } c = task s c := by
  cases c <;> rfl

/-- What a command does does not depend on whether debug lines are wanted. -/
theorem visible_perform (s : Surroundings) (i : Invocation) (debug verbose : Bool) :
    (perform { s with debug := debug } { i with verbose := verbose }).map Ending.visible =
      (perform s i).map Ending.visible := by
  unfold perform
  rw [task_debug]
  rcases (task s i.command).perform with ⟨f | result, log⟩
  · dsimp only
    cases failureText? f <;> rfl
  · rfl

theorem errors_of_answer {s : Surroundings} {arguments : List String} {e : Ending} (ends : answer s arguments = .ok e) :
    e.errors = errorOutput s arguments := by
  unfold answer at ends
  unfold errorOutput logged lastWords
  cases understood : parse arguments with
  | error stop =>
    rw [understood] at ends
    cases ends
    exact (String.empty_append).symm
  | ok i =>
    have lines (debug : Bool) (log : List LogLine) : String.join ((shownLines debug log).map (· ++ "\n")) =
        linesText (log.filter fun l => debug || l.level != .debug) := by
      rw [shownLines, linesText, List.map_map]
      rfl
    rw [understood] at ends
    simp only [perform, lines, Bool.or_comm i.verbose] at ends
    dsimp only [Except.toOption, Option.any]
    revert ends
    rcases (task s i.command).perform with ⟨f | result, log⟩
    · dsimp only
      cases failureText? f with
      | none => nofun
      | some message =>
        rintro ⟨⟩
        exact String.append_assoc
    · rintro ⟨⟩
      exact (String.append_empty).symm

/-- Whoever asks for debug lines, in the surroundings or in front of the arguments, gets them, and nothing else changes:
the program ends with the same code, output and files or with the same escaping failure, and its error output is that of
the quiet run but for the debug lines. -/
theorem debug_adds_only_lines (s : Surroundings) (arguments : List String) (quiet : s.debug = false)
    (unasked : (parse arguments).toOption.any (·.verbose) = false) :
    ∀ loud ∈ [({ s with debug := true }, arguments), (s, "--verbose" :: arguments)],
      (answer loud.1 loud.2).map Ending.visible = (answer s arguments).map Ending.visible ∧
        errorOutput loud.1 loud.2 = linesText (logged s arguments) ++ lastWords s arguments ∧
        errorOutput s arguments =
          linesText ((logged s arguments).filter (·.level != .debug)) ++ lastWords s arguments ∧
        (∀ e, answer loud.1 loud.2 = .ok e → e.errors = errorOutput loud.1 loud.2) ∧
        ∀ e, answer s arguments = .ok e → e.errors = errorOutput s arguments := by
  have quietly : errorOutput s arguments =
      linesText ((logged s arguments).filter (·.level != .debug)) ++ lastWords s arguments := by
    unfold errorOutput
    rw [quiet, unasked]
    rfl
  have everything (lines : List LogLine) : lines.filter (fun l => true || l.level != .debug) = lines :=
    List.filter_eq_self.mpr fun _ _ => rfl
  rintro loud (_ | ⟨_, _ | ⟨_, ⟨⟩⟩⟩)
  · -- asked for in the surroundings
    refine ⟨?_, ?_, quietly, fun e => errors_of_answer, fun e => errors_of_answer⟩
    · unfold answer
      cases parse arguments with
      | error stop => cases stop <;> rfl
      | ok i => exact visible_perform s i true i.verbose
    · unfold errorOutput logged lastWords
      cases parse arguments with
      | error stop => cases stop <;> rfl
      | ok i =>
        dsimp only
        rw [task_debug, Bool.true_or, everything]
  · -- asked for in front
    refine ⟨?_, ?_, quietly, fun e => errors_of_answer, fun e => errors_of_answer⟩
    · unfold answer
      rw [parse_verbose]
      cases parse arguments with
      | error stop => rfl
      | ok i => exact visible_perform s i s.debug true
    · unfold errorOutput logged lastWords
      rw [parse_verbose]
      cases parse arguments with
      | error stop => rfl
      | ok i =>
        dsimp only [Except.map, Except.toOption, Option.any]
        rw [Bool.or_true, everything]

/-- A second pass that fails is told of with and without the lines before it. -/
theorem debug_adds_only_lines_undefined :
    let input := "\x7b% render twice %\x7d\x7b\x7b '\x7b\x7b x.y \x7d\x7d' \x7d\x7d\x7b% endrender %\x7d"
    let s : Surroundings := { files := {}, input := Text.encodeUtf8 input }
    let arguments := ["render", "-"]
    (logged s arguments).length = 6 ∧ lastWords s arguments = "'x' is undefined\n" ∧
      (answer s ("--verbose" :: arguments)).map Ending.visible = (answer s arguments).map Ending.visible ∧
      errorOutput s ("--verbose" :: arguments) = linesText (logged s arguments) ++ lastWords s arguments ∧
      errorOutput s arguments = linesText ((logged s arguments).filter (·.level != .debug)) ++ lastWords s arguments := by
  intro input s arguments
  obtain ⟨visible, loudly, quietly, -⟩ := debug_adds_only_lines s arguments rfl (by decide +kernel)
    (s, "--verbose" :: arguments) (by simp)
  exact ⟨by decide +kernel, by decide +kernel, visible, loudly, quietly⟩

end Stencil.Command
