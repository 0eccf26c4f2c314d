import Stencil.Proofs.Connection

/-!
# Faults of second passes

An interpreter watches a run if it writes a line into the log whenever a tag renders a certain text and that ends with a
certain fault, and does what the interpreter does otherwise. A fault that is noted is the one that the whole run ends
with: no tag, include or pass around it holds it back. Only the name of an include that ignores missing templates may
not be watched for a template that is not found.
-/

set_option autoImplicit false

namespace Stencil.Engine

open Stencil.Template

/-! ## Watched runs -/

def noteLine : LogLine := ⟨.debug, "Noted"⟩

def noting {α : Type} (f : Fault) (act : Eval α) : Eval α :=
  tryCatch act fun x => do
    if x = f then writeLog noteLine
    throw x

def watched (s : String) (f : Fault) (spares : Bool) : Nat → Interp
  | 0 => exhausted
  | n + 1 => deferred fun _ =>
    let I := watched s f spares n
    { stage I with
      render := fun name vars source =>
        if source = s then noting f (renderSource I name vars source) else renderSource I name vars source
      sought := fun env template ignoring =>
        soughtTemplate (if spares && (ignoring && isNotFound f) then interp n else I) env template }

def Noted (w w' : World) : Prop := ∃ lines, lines ≠ [] ∧ w = { w' with log := w'.log ++ lines }

theorem Noted.again {w w' : World} (h : Noted w w') : Noted { w with log := w.log ++ [noteLine] } w' := by
  obtain ⟨lines, -, rfl⟩ := h
  refine ⟨lines ++ [noteLine], by simp, ?_⟩
  simp [List.append_assoc]

theorem Noted.depth (w w' : World) (n : Nat) (h : Noted w w') : Noted { w with depth := n } { w' with depth := n + 0 } := by
  obtain ⟨lines, some, rfl⟩ := h
  exact ⟨lines, some, rfl⟩

namespace Invariant

variable {J : Invariant} {s : String} {f : Fault} {may : Prop}

def watching (J : Invariant) (f : Fault) (may : Prop) (apart : f ≠ .mishap .wrongType) : Agreement :=
  J.agreement.heeding (fun x => x = f ∧ may) Noted (fun _ noted => noted.1 ▸ apart) Noted.depth

instance (apart : f ≠ .mishap .wrongType) [J.Complete] : (J.watching f may apart).Complete :=
  Agreement.heeding_complete _ _ _ _ _

theorem outcome_noting {α : Type} (act : Eval α) (w : World) : outcome (noting f act) w =
    match outcome act w with
    | (.ok a, w) => (.ok a, w)
    | (.error x, w) => (.error x, if x = f then { w with log := w.log ++ [noteLine] } else w) := by
  unfold noting
  rw [outcome_tryCatch]
  rcases outcome act w with ⟨x | a, w₁⟩
  · by_cases same : x = f
    · simp only [if_pos same]
      rfl
    · simp only [if_neg same]
      rfl
  · rfl

theorem level_noting {α β : Type} {C : Coupling} {e : Eval α} {e' : Eval β} (he : C.Level e e') : C.Level (noting f e) e' := by
  intro w w' hr a w₁ b w₁' run run'
  refine he w w' hr a w₁ b w₁' ?_ run'
  rw [outcome_noting] at run
  revert run
  rcases outcome e w with ⟨x | c, v⟩ <;> intro run
  · cases run
  · exact run

theorem sim_noting {α : Type} {apart : f ≠ .mishap .wrongType} {g : α → α} {e e' : Eval α}
    (he : (J.watching f may apart).Sim g e e')
    (possible : ∀ w, J.holds w → (outcome e' w).1 = .error f → may) :
    (J.watching f may apart).Sim g (noting f e) e' := by
  refine ⟨fun _ => id, fun w w' hr => .inr ?_, level_noting he.level⟩
  have ends := (he.ends w w' hr).resolve_left id
  have could := possible w' (hr.1 ▸ hr.2)
  rw [outcome_noting]
  revert ends could
  rcases outcome e w with ⟨x | a, w₁⟩ <;> rcases outcome e' w' with ⟨y | b, w₂⟩ <;> intro ends could
  · obtain ⟨rfl, behind⟩ := Or.resolve_right ends id
    refine .inl ⟨rfl, ?_⟩
    by_cases same : y = f
    · have here : may := could (congrArg Except.error same)
      rw [if_pos same]
      refine .inr ⟨⟨same, here⟩, ?_⟩
      rcases behind with ⟨-, rfl, -⟩ | ⟨-, noted⟩
      · exact ⟨[noteLine], by simp, rfl⟩
      · exact noted.again
    · rw [if_neg same]
      exact behind
  · exact ends
  · exact ends
  · exact ends

/-- The watched interpreter does what the interpreter does, up to a fault that it notes. -/
theorem aligned_watched [J.Complete] (apart : f ≠ .mishap .wrongType)
    (possible : ∀ n name vars w, J.holds w → (outcome (renderSource (interp n) name vars s) w).1 = .error f → may)
    (n : Nat) : Agreement.Aligned (J.watching f may apart) (watched s f true n) (interp n) := by
  induction n with
  | zero => exact Agreement.aligned_exhausted
  | succ n ih =>
    have sought (env : Env) (e : Expr) (ignoring : Bool) :
        ((J.watching f may apart).sparing fun x => ignoring && isNotFound x).Sim id
          (soughtTemplate (if true && (ignoring && isNotFound f) then interp n else watched s f true n) env e)
          (soughtTemplate (interp n) ((J.watching f may apart).names.on env) e) := by
      by_cases spared : (ignoring && isNotFound f) = true
      · rw [Bool.true_and, if_pos spared]
        exact Agreement.sim_soughtTemplate (Agreement.aligned_interp n) env e
      · rw [Bool.true_and, if_neg spared]
        refine (Agreement.sim_soughtTemplate ih env e).heeding fun x w w' both => ⟨⟨both.1, ?_⟩, both.2⟩
        rw [both.1.1]
        exact Bool.eq_false_iff.mpr spared
    refine Agreement.Aligned.deferred { Agreement.aligned_stage ih sought with render := fun name vars source => ?_ }
    have plain := Agreement.sim_renderSource ih name vars source
    by_cases same : source = s
    · subst same
      show (J.watching f may apart).Same (if source = source then _ else _) _
      rw [if_pos rfl]
      exact sim_noting plain (possible n name _)
    · show (J.watching f may apart).Same (if source = s then _ else _) _
      rw [if_neg same]
      exact plain

end Invariant

end Stencil.Engine

namespace Stencil.Processor

open Engine

/-! ## Watched uses -/

def renderBy (I : Interp) (t : Script) (vars : List (Data × Data)) : Eval String := do
  let named ← liftOption .wrongType (namedData? vars)
  renderTemplate I t (← thawNamed named)

def evaluation? (p : Processor) (I : Interp) : Use → Option (Eval String)
  | .text name vars source => some do renderBy I (.text (← compileText name source)) vars
  | .file name vars => p.world.settings.folder.map fun _ => do renderBy I (.file (← loadTemplate name)) vars
  | .register _ => none
  | .startUp => none

def Use.title : Use → String
  | .text name _ _ => name
  | .file name _ => name
  | _ => ""

def Use.complaint : Use → String
  | .text _ _ _ => "Unexpected error during processing"
  | .file _ _ => "Failed to process template file"
  | _ => ""

def fileCause? : Engine.Fault → Option Cause
  | .undecodable _ => some .undecodable
  | .unreadable _ => some .unreadable
  | _ => none

def Use.told (u : Use) (x : Engine.Fault) : Failure :=
  match fileCause? x with
  | some cause => .processing ⟨u.complaint ++ ": " ++ x.message, u.title, some cause⟩
  | none => .template x

def useBy (p : Processor) (I : Interp) (u : Use) : Option (Except Failure String) × Processor :=
  match p.evaluation? I u with
  | some e => (p.exec u.told e).map some id
  | none => p.use u

theorem wrapFault_eq_told (name : String) (vars : List (Data × Data)) (source : String) :
    wrapFault name "Unexpected error during processing" = (Use.text name vars source).told := by
  funext x
  cases x <;> rfl

theorem wrapFault_eq_told_file (name : String) (vars : List (Data × Data)) :
    wrapFault name "Failed to process template file" = (Use.file name vars).told := by
  funext x
  cases x <;> rfl

theorem useBy_interp (p : Processor) (u : Use) : p.useBy (interp plenty) u = p.use u := by
  unfold useBy
  cases u with
  | text name vars source =>
    show (p.exec (Use.text name vars source).told (sourceText name vars source)).map some id = _
    rw [← wrapFault_eq_told]
    rfl
  | file name vars =>
    cases folder : p.world.settings.folder with
    | none =>
      have nothing : p.evaluation? (interp plenty) (.file name vars) = none := by
        simp only [evaluation?, folder, Option.map_none]
      rw [nothing]
    | some place =>
      have rendered : p.evaluation? (interp plenty) (.file name vars) = some (fileText name vars) := by
        simp only [evaluation?, folder, Option.map_some]
        rfl
      rw [rendered, ← wrapFault_eq_told_file]
      show _ = (p.renderFile name vars).map some id
      unfold renderFile
      rw [folder]
  | register plugin => rfl
  | startUp => rfl

theorem sim_renderBy {A : Agreement} {I I' : Interp} (hI : Agreement.Aligned A I I') (t : Script)
    (vars : List (Data × Data)) : A.Same (renderBy I t vars) (renderBy I' t vars) := by
  refine .bind (f := id) ?_ fun named => (Agreement.sim_thawNamed named).bind fun values => ?_
  · cases namedData? vars with
    | none => exact .fails _
    | some named => exact .ret rfl
  · exact Agreement.sim_renderTemplate hI t values

/-- A run that is watched answers as it does otherwise, and with the fault if it was noted. -/
theorem exec_watched {p : Processor} {J : Invariant} {f : Engine.Fault} {may : Prop} {apart : f ≠ .mishap .wrongType}
    {e e' : Eval String} (he : (J.watching f may apart).Same e e') (holds : J.holds { p.world with depth := 0 })
    (wrap : Engine.Fault → Failure) : ∃ lines,
      p.exec wrap e = ((p.exec wrap e').1, ⟨{ (p.exec wrap e').2.world with log := (p.exec wrap e').2.log ++ lines }⟩) ∧
        (lines ≠ [] → (p.exec wrap e').1 = .error (wrap f) ∧ may) := by
  have ends := (he.ends _ _ ⟨rfl, holds⟩).resolve_left id
  rw [outcome_exec, outcome_exec]
  revert ends
  rcases outcome e { p.world with depth := 0 } with ⟨x | a, w₁⟩ <;>
    rcases outcome e' { p.world with depth := 0 } with ⟨y | b, w₂⟩ <;> intro ends
  · obtain ⟨rfl, ⟨-, rfl, -⟩ | ⟨⟨rfl, here⟩, lines, -, rfl⟩⟩ := Or.resolve_right ends id
    · exact ⟨[], by simp [log], fun none => absurd rfl none⟩
    · exact ⟨lines, rfl, fun _ => ⟨rfl, here⟩⟩
  · exact False.elim ends
  · exact False.elim ends
  · obtain ⟨rfl, rfl, -⟩ := ends
    exact ⟨[], by simp [log], fun none => absurd rfl none⟩

section Watched

variable {p : Processor} {J : Invariant} {f : Engine.Fault} {may : Prop} {apart : f ≠ .mishap .wrongType} {I : Interp}

theorem useBy_of_evaluation {u : Use} {e e' : Eval String} (he : (J.watching f may apart).Same e e')
    (holds : J.holds { p.world with depth := 0 }) (watches : p.evaluation? I u = some e)
    (plain : p.evaluation? (interp plenty) u = some e') : ∃ lines,
      p.useBy I u = ((p.use u).1, ⟨{ (p.use u).2.world with log := (p.use u).2.log ++ lines }⟩) ∧
        (lines ≠ [] → (p.use u).1 = some (.error (u.told f)) ∧ may) := by
  rw [← useBy_interp, useBy, useBy, watches, plain]
  obtain ⟨lines, same, noted⟩ := exec_watched he holds u.told
  refine ⟨lines, ?_, fun some => ?_⟩
  · dsimp only
    rw [same]
    rfl
  · obtain ⟨answer, here⟩ := noted some
    exact ⟨congrArg Option.some answer, here⟩

/-- A watched use does what the use does, and what it notes is the answer. -/
theorem useBy_watched [J.Complete] (aligned : Agreement.Aligned (J.watching f may apart) I (interp plenty))
    (holds : J.holds { p.world with depth := 0 }) (u : Use) : ∃ lines,
      p.useBy I u = ((p.use u).1, ⟨{ (p.use u).2.world with log := (p.use u).2.log ++ lines }⟩) ∧
        (lines ≠ [] → (p.use u).1 = some (.error (u.told f)) ∧ may) := by
  have unwatched (nothing : p.useBy I u = p.use u) : ∃ lines,
      p.useBy I u = ((p.use u).1, ⟨{ (p.use u).2.world with log := (p.use u).2.log ++ lines }⟩) ∧
        (lines ≠ [] → (p.use u).1 = some (.error (u.told f)) ∧ may) :=
    ⟨[], by simp [nothing, log], fun some => absurd rfl some⟩
  cases u with
  | text name vars source =>
    exact useBy_of_evaluation ((Agreement.Complete.compile_text name source).of_quiet.bind fun c =>
      sim_renderBy aligned (.text c) vars) holds rfl rfl
  | file name vars =>
    cases folder : p.world.settings.folder with
    | none =>
      have nothing : p.evaluation? I (.file name vars) = none := by simp only [evaluation?, folder, Option.map_none]
      exact unwatched (by simp only [useBy, nothing])
    | some place =>
      have rendered : (J.watching f may apart).Same (do renderBy I (.file (← loadTemplate name)) vars)
          (do renderBy (interp plenty) (.file (← loadTemplate name)) vars) :=
        (Agreement.sim_loadTemplate name).bind fun t => sim_renderBy aligned (.file t) vars
      refine useBy_of_evaluation rendered holds ?_ ?_ <;> simp only [evaluation?, folder, Option.map_some]
  | register plugin => exact unwatched rfl
  | startUp => exact unwatched rfl

end Watched

/-- A text that does not compile cannot be rendered, wherever that is tried. -/
theorem renderSource_uncompiled {p : Processor} {w : World} (h : p.Runs w) {s : String} {x : Engine.Fault}
    (uncompiled : compiledText p.world.settings p.listTags none none s = .error x) (I : Interp) (name : String)
    (vars : Table String Value) : (outcome (renderSource I name vars s) w).1 = .error x := by
  have here : compiledText w.settings w.registry.listTags none none s = .error x := by
    rw [h.settings, h.registry]
    exact uncompiled
  unfold renderSource
  rw [outcome_bind, outcome_compileText_uncompiled h.faithful here]

theorem unnamed_of_uncompiled {settings : Settings} {tags : List String} {s : String} {flaw : Template.Flaw}
    {name file : Option String} (failed : compiledText settings tags none none s = .error (.flawed flaw name file)) :
    name = none ∧ file = none := by
  rcases compiledText_eq_error failed with plain | ⟨other, same⟩
  · cases plain
  · unfold Engine.Fault.ofFlaw at same
    split at same <;> cases same <;> exact ⟨rfl, rfl⟩

/-- What a use answers, however deep the fault lies that it ends with. A fault of a text that a tag renders is the fault
of the whole use: a watched use does what the use does, and where the fault was noted the use answers with it. If the text
does not compile, the fault is the one of compiling it alone, without the name or file of a template. A fault of a file is
answered by one failure, which has the name of the outermost template, and no other fault is. -/
theorem answers_noted_fault {c : Config} {files : FileTree} {root : Option Path} {b : Processor}
    (made : bare c files root = .ok b) (uses : List Use) (u : Use) (s : String) {f : Engine.Fault}
    (apart : f ≠ .mishap .wrongType) :
    let p := b.after uses
    (∃ lines, p.useBy (watched s f true plenty) u =
        ((p.use u).1, ⟨{ (p.use u).2.world with log := (p.use u).2.log ++ lines }⟩) ∧
      (lines ≠ [] → (p.use u).1 = some (.error (u.told f)) ∧
        ∀ x, compiledText p.world.settings p.listTags none none s = .error x →
          f = x ∧ ∀ flaw name file, x = .flawed flaw name file → name = none ∧ file = none)) ∧
    ∀ e, p.evaluation? (interp plenty) u = some e →
      (p.use u).1 = some ((outcome e { p.world with depth := 0 }).1.mapError u.told) := by
  intro p
  have empty : b.world.Faithful := .of_empty (texts_bare made)
  have holds : p.steady.holds { p.world with depth := 0 } := ⟨rfl, rfl, (faithful_after empty uses).of_fields rfl rfl rfl⟩
  let alone : Prop := ∀ x, compiledText p.world.settings p.listTags none none s = .error x → f = x
  have possible (n : Nat) (name : String) (vars : Table String Value) (w : World) (runs : p.steady.holds w)
      (ended : (outcome (renderSource (interp n) name vars s) w).1 = .error f) : alone := by
    intro x uncompiled
    rw [renderSource_uncompiled runs uncompiled] at ended
    exact (Except.error.inj ended).symm
  obtain ⟨lines, same, noted⟩ := useBy_watched (Invariant.aligned_watched apart possible plenty) holds u
  refine ⟨⟨lines, same, fun some => ?_⟩, fun e evaluated => ?_⟩
  · obtain ⟨answer, compiled⟩ := noted some
    refine ⟨answer, fun x uncompiled => ⟨compiled x uncompiled, ?_⟩⟩
    rintro flaw name file rfl
    exact unnamed_of_uncompiled uncompiled
  · rw [← useBy_interp, useBy, evaluated]
    dsimp only
    rw [outcome_exec]
    rfl

def malformed : Use := .text "outer" []
  "\x7b% render %\x7d\x7b\x7b '\x7b% render %\x7d\x7b\x7b \"\x7b% if\" ~ \" %\x7d\" \x7d\x7d\x7b% endrender %\x7d' \x7d\x7d\x7b% endrender %\x7d"

def openIf : Engine.Fault := .flawed ⟨.noExpression "end of statement block", 1⟩ none none

theorem answers_noted_fault_malformed : ∃ b, bare {} {} none = .ok b ∧ openIf ≠ .mishap .wrongType ∧
    ((b.after [.register Catalogue.renderBlock, .startUp]).use malformed).1 = some (.error (.template openIf)) := by
  let b : Processor := ⟨{ settings := ⟨false, false, ⟨false, false, true⟩, none⟩, files := {}, texts := .ofSize 400 }⟩
  have made : bare {} {} none = .ok b := rfl
  have apart : openIf ≠ .mishap .wrongType := nofun
  obtain ⟨⟨lines, same, noted⟩, -⟩ :=
    answers_noted_fault made [.register Catalogue.renderBlock, .startUp] malformed "\x7b% if %\x7d" apart
  have written : ((b.after [.register Catalogue.renderBlock, .startUp]).useBy (watched "\x7b% if %\x7d" openIf true plenty)
      malformed).2.log ≠ ((b.after [.register Catalogue.renderBlock, .startUp]).use malformed).2.log := by decide +kernel
  have some : lines ≠ [] := by
    rintro rfl
    apply written
    rw [same]
    simp [log]
  exact ⟨b, made, apart, (noted some).1⟩

def ignoring : Use := .text "" []
  "\x7b% macro m() %\x7d\x7b% render %\x7d\x7b\x7b '\x7b% include \"nope.j2\" %\x7d' \x7d\x7d\x7b% endrender %\x7d\x7b% endmacro %\x7d\x7b% include m() ignore missing %\x7dafter"

def missing : Engine.Fault := .notFound "'nope.j2' not found in search path: '/r/templates'"

def including : Use := .text "" [] "\x7b% render %\x7d\x7b\x7b '\x7b% include \"bad.j2\" %\x7d' \x7d\x7d\x7b% endrender %\x7d"

def badFile : FileTree := FileTree.put {} ["r", "templates", "bad.j2"] "\x7b% if %\x7d".toUTF8.toList

def flawName? : Option (Except Failure String) → Option String
  | some (.error (.template (.flawed _ name _))) => name
  | _ => none

theorem exists_of_toOption {α β : Type} {r : Except Failure α} {g : α → β} {b : β} (h : r.toOption.map g = some b) :
    ∃ a, r = .ok a ∧ g a = b := by
  cases r with
  | error f => cases h
  | ok a => exact ⟨a, rfl, Option.some.inj h⟩

/-- A fault within the name of an include that ignores it is noted if names of includes are watched too, and is not the
answer. The fault of a text that compiles may be the flaw of a file, and have its name. -/
theorem ignored_fault_not_answered :
    (∃ b, bare {} {} (some ⟨1, ["r"]⟩) = .ok b ∧
      let p := b.after [.register Catalogue.renderBlock, .startUp]
      (p.useBy (watched "\x7b% include \"nope.j2\" %\x7d" missing false plenty) ignoring).2.log ≠ (p.use ignoring).2.log ∧
        (p.use ignoring).1.bind Except.toOption = some "after") ∧
    ∃ b, bare {} badFile (some ⟨1, ["r"]⟩) = .ok b ∧
      let p := b.after [.register Catalogue.renderBlock, .startUp]
      flawName? (p.use including).1 = some "bad.j2" := by
  constructor
  · have runs : ((bare {} {} (some ⟨1, ["r"]⟩)).toOption.map fun b =>
        let p := b.after [.register Catalogue.renderBlock, .startUp]
        decide ((p.useBy (watched "\x7b% include \"nope.j2\" %\x7d" missing false plenty) ignoring).2.log ≠
          (p.use ignoring).2.log ∧ (p.use ignoring).1.bind Except.toOption = some "after")) = some true := by
      decide +kernel
    obtain ⟨b, made, holds⟩ := exists_of_toOption runs
    exact ⟨b, made, of_decide_eq_true holds⟩
  · have runs : ((bare {} badFile (some ⟨1, ["r"]⟩)).toOption.map fun b =>
        flawName? ((b.after [.register Catalogue.renderBlock, .startUp]).use including).1) = some (some "bad.j2") := by
      decide +kernel
    exact exists_of_toOption runs

end Stencil.Processor
