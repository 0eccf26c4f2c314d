import Stencil.Processor

/-!
# Tasks

A task writes a log as it goes, and ends with a result or with a failure. What was logged before a failure stays.
-/

set_option autoImplicit false

namespace Stencil

abbrev Task := ExceptT Failure (StateM (List LogLine))

namespace Task

def note (level : LogLevel) (text : String) : Task Unit := modify (· ++ [⟨level, text⟩])

def perform {α : Type} (t : Task α) : Except Failure α × List LogLine := t.run.run []

def ofExcept {α : Type} (r : Except Failure α) : Task α :=
  match r with
  | .ok a => return a
  | .error f => throw f

def decode (bytes : List UInt8) : Task String :=
  match FileTree.decodeText bytes with
  | .ok s => return s
  | .error f => throw (.undecodable f)

def ofOutcome {α : Type} (r : Processor.Outcome α) : Task (α × Processor) := do
  modify (· ++ r.2.log)
  match r.1 with
  | .ok a => return (a, r.2.clearReports)
  | .error f => throw f

end Task

end Stencil
