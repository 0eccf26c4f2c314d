import Stencil.Command.Perform
import Stencil.Proofs.Tables

/-!
# Delivery of results

A command delivers its text as a whole or not at all. The text is made first, by a task of its own; only when that has
succeeded is anything written, to one place. A command that fails on the way leaves its output empty and the files as
they were.
-/

set_option autoImplicit false

namespace Stencil.FileTree

variable {t t' : FileTree}

/-! ## Files that are written -/

def fileAt? (t : FileTree) (place : List String) : Option FileNode := (t.nodes.find? place).filter (!isDirectory ·)

structure Widened (t t' : FileTree) : Prop where
  kept : ∀ place node, t.nodes.find? place = some node → t'.nodes.find? place = some node
  file : ∀ place, t'.fileAt? place = t.fileAt? place
  cwd : t'.cwd = t.cwd
  writes : t'.writes = t.writes

theorem Widened.refl (t : FileTree) : Widened t t := ⟨fun _ _ => id, fun _ => rfl, rfl, rfl⟩

theorem Widened.trans {u : FileTree} (h : Widened t u) (h' : Widened u t') : Widened t t' where
  kept place node found := h'.kept place node (h.kept place node found)
  file place := (h'.file place).trans (h.file place)
  cwd := h'.cwd.trans h.cwd
  writes := h'.writes.trans h.writes

theorem widened_insert (t : FileTree) (place : List String) :
    Widened t (if t.nodes.has place then t else { t with nodes := t.nodes.insert place .directory }) := by
  by_cases there : t.nodes.has place = true
  · rw [if_pos there]
    exact .refl t
  · rw [if_neg there]
    have absent : t.nodes.find? place = none := by simpa [Table.has] using there
    refine ⟨fun q node found => ?_, fun q => ?_, rfl, rfl⟩
    · have other : place ≠ q := by
        rintro rfl
        rw [absent] at found
        cases found
      rw [← found]
      exact Table.find?_insert_of_ne _ _ other
    · by_cases same : place = q
      · subst same
        simp [fileAt?, absent, Table.find?_insert_self, isDirectory]
      · simp [fileAt?, Table.find?_insert_of_ne _ _ same]

theorem widened_makeDirectories (t : FileTree) (place : List String) : Widened t (t.makeDirectories place) := by
  unfold makeDirectories
  generalize (List.range place.length).map (fun n => place.take (n + 1)) = above
  induction above generalizing t with
  | nil => exact .refl t
  | cons p above ih => exact (widened_insert t p).trans (ih _)

section Put

variable (t) (place : List String) (bytes : List UInt8)

theorem find?_put_self : (t.put place bytes).nodes.find? place = some (.file bytes (t.writes + 1)) := by
  have widened := widened_makeDirectories t place.dropLast
  show ((t.makeDirectories place.dropLast).nodes.insert place _).find? place = _
  rw [Table.find?_insert_self, widened.writes]

theorem find?_put_of_ne {q : List String} {node : FileNode} (other : q ≠ place) (found : t.nodes.find? q = some node) :
    (t.put place bytes).nodes.find? q = some node := by
  show ((t.makeDirectories place.dropLast).nodes.insert place _).find? q = _
  rw [Table.find?_insert_of_ne _ _ other.symm]
  exact (widened_makeDirectories t place.dropLast).kept q node found

/-- No other file is touched. -/
theorem fileAt?_put_of_ne {q : List String} (other : q ≠ place) : (t.put place bytes).fileAt? q = t.fileAt? q := by
  have same : (t.put place bytes).nodes.find? q = (t.makeDirectories place.dropLast).nodes.find? q :=
    Table.find?_insert_of_ne _ _ other.symm
  rw [fileAt?, same]
  exact (widened_makeDirectories t place.dropLast).file q

theorem cwd_put : (t.put place bytes).cwd = t.cwd := (widened_makeDirectories t place.dropLast).cwd

end Put

/-! ## Walks through a tree in which a file was put -/

section Walk

variable {place : List String} {file : FileNode}

structure Filled (place : List String) (file : FileNode) (t t' : FileTree) : Prop where
  inside : place ≠ []
  noDirectory : t.nodes.find? place ≠ some .directory
  found : t'.nodes.find? place = some file
  kept : ∀ q node, q ≠ place → t.nodes.find? q = some node → t'.nodes.find? q = some node

theorem Filled.put (inside : place ≠ []) (noDirectory : t.nodes.find? place ≠ some .directory) (bytes : List UInt8) :
    Filled place (.file bytes (t.writes + 1)) t (t.put place bytes) :=
  ⟨inside, noDirectory, t.find?_put_self place bytes, fun _ _ other found => t.find?_put_of_ne place bytes other found⟩

def step? (t : FileTree) (start : List String) : Option FileNode :=
  if start.isEmpty then some .directory else t.nodes.find? start

theorem Filled.step? (h : Filled place file t t') {start : List String} (directory : t.step? start = some .directory) :
    t'.step? start = some .directory := by
  unfold FileTree.step? at directory ⊢
  by_cases top : start.isEmpty = true
  · rw [if_pos top]
  · rw [if_neg top] at directory ⊢
    refine h.kept start _ ?_ directory
    rintro rfl
    exact h.noDirectory directory

theorem walk_cons (t : FileTree) (start : List String) (part : String) (rest : List String) :
    t.walk start (part :: rest) = match t.step? start with
      | none => .error .missing
      | some (.file _ _) => .error .notADirectory
      | some (.locked _ _) => .error .notADirectory
      | some .directory =>
        if longestPart < part.utf8ByteSize then .error .tooLong else t.walk (Path.descend start part) rest := rfl

/-- A walk that can go on passes through a directory. -/
theorem step?_of_walk {start rest : List String} {part : String} {end_ : List String × FileNode}
    (h : t.walk start (part :: rest) = .ok end_) : t.step? start = some .directory ∧
      ¬ longestPart < part.utf8ByteSize ∧ t.walk (Path.descend start part) rest = .ok end_ := by
  rw [walk_cons] at h
  split at h
  · cases h
  · cases h
  · cases h
  · next directory =>
    split at h
    · cases h
    · next short => exact ⟨directory, short, h⟩

theorem walk_eq_of_step? {start rest : List String} {part : String} (directory : t.step? start = some .directory)
    (short : ¬ longestPart < part.utf8ByteSize) :
    t.walk start (part :: rest) = t.walk (Path.descend start part) rest := by
  rw [walk_cons, directory]
  exact if_neg short

/-- A walk to another place ends there as before. -/
theorem Filled.walk_other (h : Filled place file t t') {start parts q : List String} {node : FileNode}
    (walked : t.walk start parts = .ok (q, node)) (other : q ≠ place) : t'.walk start parts = .ok (q, node) := by
  induction parts generalizing start with
  | nil =>
    unfold walk at walked ⊢
    by_cases top : start.isEmpty = true
    · rw [if_pos top] at walked ⊢
      exact walked
    · rw [if_neg top] at walked ⊢
      cases found : t.nodes.find? start with
      | none =>
        rw [found] at walked
        cases walked
      | some node' =>
        rw [found] at walked
        cases walked
        rw [h.kept _ _ other found]
  | cons part rest ih =>
    obtain ⟨directory, short, further⟩ := step?_of_walk walked
    rw [walk_eq_of_step? (h.step? directory) short]
    exact ih further

/-- A walk to the place ends at the file. -/
theorem Filled.walk_place (h : Filled place file t t') {start parts : List String} {node : FileNode}
    (walked : t.walk start parts = .ok (place, node)) : t'.walk start parts = .ok (place, file) := by
  induction parts generalizing start with
  | nil =>
    unfold walk at walked ⊢
    by_cases top : start.isEmpty = true
    · rw [if_pos top] at walked
      have nowhere : [] = place := congrArg Prod.fst (Except.ok.inj walked)
      exact absurd nowhere.symm h.inside
    · rw [if_neg top] at walked ⊢
      cases found : t.nodes.find? start with
      | none =>
        rw [found] at walked
        cases walked
      | some node' =>
        rw [found] at walked
        cases walked
        rw [h.found]
  | cons part rest ih =>
    obtain ⟨directory, short, further⟩ := step?_of_walk walked
    rw [walk_eq_of_step? (h.step? directory) short]
    exact ih further

theorem step?_of_walk_directory {start parts q : List String} (walked : t.walk start parts = .ok (q, .directory)) :
    t.step? q = some .directory := by
  induction parts generalizing start with
  | nil =>
    unfold walk at walked
    by_cases top : start.isEmpty = true
    · rw [if_pos top] at walked
      cases walked
      rfl
    · rw [if_neg top] at walked
      cases found : t.nodes.find? start with
      | none =>
        rw [found] at walked
        cases walked
      | some node' =>
        rw [found] at walked
        cases walked
        rw [FileTree.step?, if_neg top, found]
  | cons part rest ih => exact ih (step?_of_walk walked).2.2

/-- A walk goes on from the directory where its first half ends. -/
theorem walk_append {start parts q : List String} (walked : t.walk start parts = .ok (q, .directory)) (rest : List String) :
    t.walk start (parts ++ rest) = t.walk q rest := by
  induction parts generalizing start with
  | nil =>
    unfold walk at walked
    by_cases top : start.isEmpty = true
    · rw [if_pos top] at walked
      cases walked
      rw [List.isEmpty_iff.mp top]
      rfl
    · rw [if_neg top] at walked
      cases found : t.nodes.find? start with
      | none =>
        rw [found] at walked
        cases walked
      | some node' =>
        rw [found] at walked
        cases walked
        rfl
  | cons part rest' ih =>
    obtain ⟨directory, short, further⟩ := step?_of_walk walked
    rw [List.cons_append, walk_eq_of_step? directory short]
    exact ih further

end Walk

/-! ## Writing through a path -/

section Write

variable {p : Path} {bytes : List UInt8}

/-- Where a path may lead in two trees with the same working directory. -/
theorem lookup_eq_walk {q : List String × FileNode} (found : t.lookup p = .ok q) :
    t.walk (if p.isAbsolute then [] else t.cwd) p.parts = .ok q ∧
      ∀ u : FileTree, u.cwd = t.cwd → u.lookup p = u.walk (if p.isAbsolute then [] else t.cwd) p.parts := by
  unfold lookup at found ⊢
  by_cases null : p.hasNull = true
  · rw [if_pos null] at found
    cases found
  · rw [if_neg null] at found
    by_cases long : longestPath < p.text.utf8ByteSize
    · rw [if_pos long] at found
      cases found
    · rw [if_neg long] at found
      refine ⟨found, fun u cwd => ?_⟩
      rw [if_neg null, if_neg long, cwd]

theorem lookup_missing (missing : t.lookup p = .error .missing) :
    t.walk (if p.isAbsolute then [] else t.cwd) p.parts = .error .missing ∧
      ∀ u : FileTree, u.cwd = t.cwd → u.lookup p = u.walk (if p.isAbsolute then [] else t.cwd) p.parts := by
  unfold lookup at missing ⊢
  by_cases null : p.hasNull = true
  · rw [if_pos null] at missing
    cases missing
  · rw [if_neg null] at missing
    by_cases long : longestPath < p.text.utf8ByteSize
    · rw [if_pos long] at missing
      cases missing
    · rw [if_neg long] at missing
      refine ⟨missing, fun u cwd => ?_⟩
      rw [if_neg null, if_neg long, cwd]

/-- A walk that ends at a file ends below the top, at the node that the tree holds there. -/
theorem find?_of_walk_file {place : List String} {node : FileNode} (isFile : isDirectory node = false)
    {start parts : List String} (walked : t.walk start parts = .ok (place, node)) :
    place ≠ [] ∧ t.nodes.find? place = some node := by
  induction parts generalizing start with
  | nil =>
    unfold walk at walked
    by_cases top : start.isEmpty = true
    · rw [if_pos top] at walked
      cases walked
      cases isFile
    · rw [if_neg top] at walked
      cases there : t.nodes.find? start with
      | none =>
        rw [there] at walked
        cases walked
      | some node' =>
        rw [there] at walked
        cases walked
        exact ⟨by simpa using top, there⟩
  | cons part rest ih => exact ih (step?_of_walk walked).2.2

/-- A file that was there is found with its new content. -/
theorem lookup_put_existing {place : List String} {node : FileNode} (found : t.lookup p = .ok (place, node))
    (isFile : isDirectory node = false) :
    (t.put place bytes).lookup p = .ok (place, .file bytes (t.writes + 1)) := by
  obtain ⟨walked, same⟩ := lookup_eq_walk found
  obtain ⟨inside, there⟩ := find?_of_walk_file isFile walked
  have noDirectory : t.nodes.find? place ≠ some .directory := by
    intro directory
    rw [there] at directory
    cases directory
    cases isFile
  rw [same _ (t.cwd_put place bytes)]
  exact (Filled.put inside noDirectory bytes).walk_place walked

/-- A file that was not there is found in the directory that was. -/
theorem lookup_put_new {place : List String} (missing : t.lookup p = .error .missing)
    (above : t.lookup ⟨p.slashes, p.parts.dropLast⟩ = .ok (place, .directory)) :
    (t.put (Path.descend place p.name) bytes).lookup p =
      .ok (Path.descend place p.name, .file bytes (t.writes + 1)) := by
  obtain ⟨nowhere, same⟩ := lookup_missing missing
  have walked : t.walk (if p.isAbsolute then [] else t.cwd) p.parts.dropLast = .ok (place, .directory) :=
    (lookup_eq_walk above).1
  have some : p.parts ≠ [] := by
    intro none
    rw [none] at walked nowhere
    rw [List.dropLast_nil, nowhere] at walked
    cases walked
  have parts : p.parts = p.parts.dropLast ++ [p.name] := by
    rw [Path.name, List.getLastD_eq_getLast?, List.getLast?_eq_some_getLast some]
    exact (List.dropLast_append_getLast some).symm
  have last : t.walk place [p.name] = .error .missing := by
    rw [← walk_append walked, ← parts]
    exact nowhere
  have directory := step?_of_walk_directory walked
  have short : ¬ longestPart < p.name.utf8ByteSize := by
    intro long
    rw [walk_cons, directory] at last
    dsimp only at last
    rw [if_pos long] at last
    cases last
  rw [walk_eq_of_step? directory short] at last
  have inside : Path.descend place p.name ≠ [] := by
    intro top
    rw [top] at last
    cases last
  have absent : t.nodes.find? (Path.descend place p.name) = none := by
    unfold walk at last
    rw [if_neg (by simpa using inside)] at last
    cases found : t.nodes.find? (Path.descend place p.name) with
    | none => rfl
    | some node =>
      rw [found] at last
      cases last
  have filled : Filled _ _ t _ := .put inside (by rw [absent]; nofun) bytes
  have other : place ≠ Path.descend place p.name := by
    intro own
    rw [← own] at absent inside
    rw [step?, if_neg (by simpa using inside), absent] at directory
    cases directory
  rw [same _ (t.cwd_put _ bytes), parts, walk_append (filled.walk_other walked other),
    walk_eq_of_step? (filled.step? directory) short]
  show (if (Path.descend place p.name).isEmpty then _ else _) = _
  rw [if_neg (by simpa using inside), filled.found]

/-- A file that was written has the content that was given, and all other files are as they were. -/
theorem write_eq_ok (written : t.write p bytes = .ok t') :
    ∃ place, t'.lookup p = .ok (place, .file bytes (t.writes + 1)) ∧ ∀ q, q ≠ place → t'.fileAt? q = t.fileAt? q := by
  unfold write at written
  split at written
  · cases written
  · next place content revision found =>
    cases written
    exact ⟨place, lookup_put_existing found rfl, fun q other => t.fileAt?_put_of_ne place bytes other⟩
  · cases written
  · next missing =>
    split at written
    · next place above =>
      cases written
      exact ⟨_, lookup_put_new missing above, fun q other => t.fileAt?_put_of_ne _ bytes other⟩
    · cases written
    · cases written
  · cases written

end Write

end Stencil.FileTree

namespace Stencil

/-! ## Failures that are told -/

def Engine.Fault.isTemplateError : Engine.Fault → Bool
  | .flawed _ _ _ => true
  | .undefined _ => true
  | .notFound _ => true
  | .noneFound _ => true
  | .broken _ => true
  | .filterArgument _ => true
  | _ => false

def Failure.isUserError : Failure → Bool
  | .config _ => true
  | .configFile _ => true
  | .data _ => true
  | .notJson _ _ => true
  | .processing _ => true
  | _ => false

def Failure.isTold : Failure → Bool
  | .template f => f.isTemplateError
  | f => f.isUserError

namespace Task

variable {α β : Type}

theorem bind_apply (t : Task α) (k : α → Task β) (log : List LogLine) :
    (t >>= k) log = match t log with
      | (.ok a, log) => k a log
      | (.error f, log) => (.error f, log) := by
  show ExceptT.bindCont k (t log).1 (t log).2 = _
  rcases t log with ⟨_ | _, _⟩ <;> rfl

theorem perform_bind (t : Task α) (k : α → Except Failure β) :
    (t >>= fun a => ofExcept (k a)).perform = (t.perform.1.bind k, t.perform.2) := by
  show (t >>= fun a => ofExcept (k a)) [] = ((t []).1.bind k, (t []).2)
  rw [bind_apply]
  rcases t [] with ⟨_ | a, log⟩
  · rfl
  · show ofExcept (k a) log = (k a, log)
    cases k a <;> rfl

def Yields (P : α → Prop) (t : Task α) : Prop := ∀ log a, (t log).1 = .ok a → P a

/-- The last part of a task makes its results. -/
theorem Yields.bind {P : β → Prop} {t : Task α} {k : α → Task β} (h : ∀ a, (k a).Yields P) : (t >>= k).Yields P := by
  intro log b
  rw [bind_apply]
  rcases t log with ⟨f | a, log'⟩
  · nofun
  · exact h a log' b

end Task

namespace Command

/-! ## The text of a command -/

def text (s : Surroundings) : Command → Task String
  | .render root target dataFiles bindings _ checkJson => do
    let root ← rootPath s root
    let bindings ← Task.ofExcept ((Binding.table bindings).mapError .data)
    Run.render s.files s.input root target ⟨dataFiles, bindings, checkJson⟩
  | .list root what => do
    return listingText what (← Run.list s.files (← rootPath s root) what)

def outFile? : Command → Option String
  | .render _ _ _ _ out _ => out.filter (· != "")
  | .list _ _ => none

def checksJson : Command → Bool
  | .render _ _ _ _ _ checkJson => checkJson
  | .list _ _ => false

theorem filter_filter_out (out : Option String) : (out.filter (· != "")).filter (· != "") = out.filter (· != "") := by
  rw [Option.filter_filter]
  simp

/-- First the text is made, and then it is delivered. -/
theorem task_eq (s : Surroundings) (c : Command) :
    task s c = c.text s >>= fun content => Task.ofExcept (deliver s.files c.outFile? content) := by
  cases c with
  | render root target dataFiles bindings out checkJson =>
    have same (content : String) : deliver s.files (out.filter (· != "")) content = deliver s.files out content := by
      rw [deliver, deliver, filter_filter_out]
    simp only [task, text, outFile?, bind_assoc, same]
  | list root what =>
    simp only [task, text, outFile?, bind_assoc, pure_bind]
    rfl

/-- How a task ends. -/
theorem perform_task (s : Surroundings) (c : Command) :
    (task s c).perform = ((c.text s).perform.1.bind (deliver s.files c.outFile?), (c.text s).perform.2) := by
  rw [task_eq, Task.perform_bind]

/-- With a check only JSON comes through. -/
theorem json_of_text {s : Surroundings} {c : Command} {content : String} (checks : c.checksJson = true)
    (made : (c.text s).perform.1 = .ok content) : ∃ d, Json.read content.toList = .ok d := by
  cases c with
  | list root what => cases checks
  | render root target dataFiles bindings out checkJson =>
    cases checks
    -- the check is the last thing that is done with the text
    have checked (t : String) : Task.Yields (fun content => ∃ d, Json.read content.toList = .ok d)
        (do Task.ofExcept (Run.checkJson target t); return t) := by
      intro log content made
      have whole : (do Task.ofExcept (Run.checkJson target t); return t : Task String) log =
          ((Run.checkJson target t).map fun _ => t, log) := by
        cases Run.checkJson target t <;> rfl
      rw [whole] at made
      unfold Run.checkJson at made
      split at made
      · next d read =>
        cases made
        exact ⟨d, read⟩
      · cases made
      · cases made
    have yields : (Command.text s (.render root target dataFiles bindings out true)).Yields
        fun content => ∃ d, Json.read content.toList = .ok d := by
      refine .bind fun root => .bind fun bindings => .bind fun config => .bind fun p => .bind fun vars => ?_
      simp only [if_true]
      split
      · exact .bind fun _ => .bind fun _ => .bind fun _ => checked _
      · exact .bind fun _ => .bind fun _ => checked _
    exact yields [] content made

/-! ## Endings -/

theorem failureText?_isSome (f : Failure) : (failureText? f).isSome = f.isTold := by
  cases f with
  | template t => cases t <;> rfl
  | _ => rfl

def answer (s : Surroundings) (arguments : List String) : Except Failure Ending :=
  match parse arguments with
  | .ok i => perform s i
  | .error stop => .ok (stopEnding s stop)

def Ending.left (s : Surroundings) : Except Failure Ending → String × FileTree
  | .ok e => (e.output, e.files)
  | .error _ => ("", s.files)

/-- Only a file that cannot be written is in the way of a text, and that is not told. -/
theorem untold_of_deliver {files : FileTree} {out : Option String} {content : String} {f : Failure}
    (h : deliver files out content = .error f) : f.isTold = false := by
  unfold deliver at h
  split at h
  · next path _ =>
    cases written : files.write (.ofString path) (Text.encodeUtf8 content) with
    | error w =>
      rw [written] at h
      cases h
      rfl
    | ok files' =>
      rw [written] at h
      cases h
  · cases h

/-- How a command ends, by what becomes of its text. -/
theorem perform_cases (s : Surroundings) (i : Invocation) :
    (∃ content output files lines, (i.command.text s).perform.1 = .ok content ∧
        deliver s.files i.command.outFile? content = .ok (output, files) ∧ perform s i = .ok ⟨0, output, lines, files⟩) ∨
      (∃ content f, (i.command.text s).perform.1 = .ok content ∧ deliver s.files i.command.outFile? content = .error f ∧
        perform s i = .error f) ∨
      (∃ f lines, (i.command.text s).perform.1 = .error f ∧ f.isTold = true ∧ perform s i = .ok ⟨2, "", lines, s.files⟩) ∨
      ∃ f, (i.command.text s).perform.1 = .error f ∧ f.isTold = false ∧ perform s i = .error f := by
  unfold perform
  rw [perform_task]
  cases made : (i.command.text s).perform.1 with
  | error f =>
    have told := failureText?_isSome f
    dsimp only [Except.bind]
    cases message : failureText? f with
    | some m =>
      rw [message] at told
      exact .inr (.inr (.inl ⟨f, _, rfl, told.symm, rfl⟩))
    | none =>
      rw [message] at told
      exact .inr (.inr (.inr ⟨f, rfl, told.symm, rfl⟩))
  | ok content =>
    dsimp only [Except.bind]
    cases delivered : deliver s.files i.command.outFile? content with
    | ok result => exact .inl ⟨content, result.1, result.2, _, rfl, delivered, rfl⟩
    | error f =>
      have unwritten : failureText? f = none := by
        rw [← Option.not_isSome_iff_eq_none, failureText?_isSome, untold_of_deliver delivered]
        exact Bool.false_ne_true
      dsimp only
      rw [unwritten]
      exact .inr (.inl ⟨content, f, rfl, delivered, rfl⟩)

def Delivered (s : Surroundings) (out : Option String) (content : String) (e : Ending) : Prop :=
  match out with
  | none => e.output = content ∧ e.files = s.files
  | some path => e.output = "" ∧ ∃ place revision,
      e.files.lookup (.ofString path) = .ok (place, .file (Text.encodeUtf8 content) revision) ∧
        ∀ q, q ≠ place → e.files.fileAt? q = s.files.fileAt? q

theorem delivered_of_deliver {s : Surroundings} {c : Command} {content output lines : String} {files : FileTree}
    (h : deliver s.files c.outFile? content = .ok (output, files)) :
    Delivered s c.outFile? content ⟨0, output, lines, files⟩ := by
  have named : c.outFile?.filter (· != "") = c.outFile? := by
    cases c with
    | render root target dataFiles bindings out checkJson => exact filter_filter_out out
    | list root what => rfl
  unfold deliver at h
  rw [named] at h
  unfold Delivered
  cases out : c.outFile? with
  | none =>
    rw [out] at h
    cases h
    exact ⟨rfl, rfl⟩
  | some path =>
    rw [out] at h
    dsimp only at h ⊢
    cases written : s.files.write (.ofString path) (Text.encodeUtf8 content) with
    | error w =>
      rw [written] at h
      cases h
    | ok files' =>
      rw [written] at h
      cases h
      obtain ⟨place, found, others⟩ := FileTree.write_eq_ok written
      exact ⟨rfl, place, _, found, others⟩

section Endings

variable (s : Surroundings) (i : Invocation)

theorem perform_ends_well_iff : (∃ e, perform s i = .ok e ∧ e.exitCode = 0) ↔
    ∃ content, (i.command.text s).perform.1 = .ok content ∧ ∃ r, deliver s.files i.command.outFile? content = .ok r := by
  rcases perform_cases s i with ⟨content, output, files, lines, made, delivered, ends⟩ | ⟨content, f, made, failed, ends⟩ |
    ⟨f, lines, made, -, ends⟩ | ⟨f, made, -, ends⟩
  · exact ⟨fun _ => ⟨content, made, _, delivered⟩, fun _ => ⟨_, ends, rfl⟩⟩
  · simp [made, failed, ends]
  · simp [made, ends]
  · simp [made, ends]

theorem delivered_of_perform {e : Ending} (ends : perform s i = .ok e) (well : e.exitCode = 0) :
    ∃ content, (i.command.text s).perform.1 = .ok content ∧ Delivered s i.command.outFile? content e := by
  rcases perform_cases s i with ⟨content, output, files, lines, made, delivered, ends'⟩ | ⟨content, f, -, -, ends'⟩ |
    ⟨f, lines, -, -, ends'⟩ | ⟨f, -, -, ends'⟩ <;>
    rw [ends] at ends' <;> cases ends'
  · exact ⟨content, made, delivered_of_deliver delivered⟩
  · cases well

theorem perform_ends_told_iff : (∃ e, perform s i = .ok e ∧ e.exitCode = 2) ↔
    ∃ f, (i.command.text s).perform.1 = .error f ∧ f.isTold = true := by
  rcases perform_cases s i with ⟨content, output, files, lines, made, -, ends⟩ | ⟨content, f, made, -, ends⟩ |
    ⟨f, lines, made, told, ends⟩ | ⟨f, made, untold, ends⟩
  · simp [made, ends]
  · simp [made, ends]
  · exact ⟨fun _ => ⟨f, made, told⟩, fun _ => ⟨_, ends, rfl⟩⟩
  · simp [made, untold, ends]

theorem exitCode_of_perform {e : Ending} (ends : perform s i = .ok e) : e.exitCode = 0 ∨ e.exitCode = 2 := by
  rcases perform_cases s i with ⟨content, output, files, lines, -, -, ends'⟩ | ⟨content, f, -, -, ends'⟩ |
    ⟨f, lines, -, -, ends'⟩ | ⟨f, -, -, ends'⟩ <;>
    rw [ends] at ends' <;> cases ends'
  · exact .inl rfl
  · exact .inr rfl

theorem left_of_failed {f : Failure} (failed : (i.command.text s).perform.1 = .error f) :
    Ending.left s (perform s i) = ("", s.files) := by
  rcases perform_cases s i with ⟨content, output, files, lines, made, -, -⟩ | ⟨content, f', made, -, -⟩ |
    ⟨f', lines, -, -, ends⟩ | ⟨f', -, -, ends⟩
  · rw [failed] at made
    cases made
  · rw [failed] at made
    cases made
  · rw [ends]
    rfl
  · rw [ends]
    rfl

theorem untold_of_perform {f : Failure} (escaped : perform s i = .error f) : f.isTold = false := by
  rcases perform_cases s i with ⟨content, output, files, lines, -, -, ends⟩ | ⟨content, f', -, failed, ends⟩ |
    ⟨f', lines, -, -, ends⟩ | ⟨f', -, untold, ends⟩ <;>
    rw [escaped] at ends <;> cases ends
  · exact untold_of_deliver failed
  · exact untold

end Endings

end Command

end Stencil
