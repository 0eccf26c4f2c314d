import Stencil.Command.Basic

/-!
# Performing a command

A command ends with an exit code, with what it printed, and with the files as it left them. Failures that the user
can mend are told on the error output; others end the program.
-/

set_option autoImplicit false

namespace Stencil.Command

structure Surroundings where
  files : FileTree
  input : List UInt8 := []
  debug : Bool := false

structure Ending where
  exitCode : Nat
  output : String
  errors : String
  files : FileTree

def flawText (flaw : Template.Flaw) (name file : Option String) : String :=
  let place := ([file, name].filterMap id).find? (· != "")
  place.getD "<string>" ++ ":" ++ toString flaw.line ++ ": " ++ flaw.problem.message

def templateText? (f : Engine.Fault) : Option String :=
  match f with
  | .flawed flaw name file => some (flawText flaw name file)
  | .undefined m => some m
  | .notFound m => some m
  | .noneFound m => some m
  | .broken m => some m
  | .filterArgument m => some m
  | _ => none

def failureText? (f : Failure) : Option String :=
  match f with
  | .template t => templateText? t
  | f => f.userMessage?

def withoutTail (s : String) : String := String.ofList (Text.stripRight s.toList)

def listingText (what : Run.Listing) (names : List String) : String :=
  let d : Data := .map [(.text what.label, .list (names.map .text))]
  (Json.write ⟨false, false, none⟩ d).toOption.getD ""

def deliver (files : FileTree) (out : Option String) (text : String) : Except Failure (String × FileTree) :=
  match out.filter (· != "") with
  | some path => ((files.write (.ofString path) (Text.encodeUtf8 text)).mapError .write).map ("", ·)
  | none => .ok (text, files)

def rootPath (s : Surroundings) (root : String) : Task Path :=
  match (Path.ofString root).resolve? s.files.cwd with
  | some p => return p
  | none => throw (.mishap .badValue)

def task (s : Surroundings) : Command → Task (String × FileTree)
  | .render root target dataFiles bindings out checkJson => do
    let root ← rootPath s root
    let bindings ← Task.ofExcept ((Binding.table bindings).mapError .data)
    let text ← Run.render s.files s.input root target ⟨dataFiles, bindings, checkJson⟩
    Task.ofExcept (deliver s.files out text)
  | .list root what => do
    let names ← Run.list s.files (← rootPath s root) what
    return (listingText what names, s.files)

def perform (s : Surroundings) (i : Invocation) : Except Failure Ending :=
  let (result, log) := (task s i.command).perform
  let lines := String.join ((shownLines (i.verbose || s.debug) log).map (· ++ "\n"))
  match result with
  | .ok (output, files) => .ok ⟨0, output, lines, files⟩
  | .error f =>
    match failureText? f with
    | some message => .ok ⟨2, "", lines ++ withoutTail message ++ "\n", s.files⟩
    | none => .error f

def stopEnding (s : Surroundings) : Stop → Ending
  | .fault program problem => ⟨2, "", program ++ ": error: " ++ problem.message ++ "\n", s.files⟩
  | .help => ⟨0, "", "", s.files⟩
  | .version => ⟨0, programName ++ " " ++ toolVersion ++ "\n", "", s.files⟩

end Stencil.Command
