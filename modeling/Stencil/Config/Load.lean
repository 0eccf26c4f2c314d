import Stencil.Task
import Stencil.Yaml.Value

/-!
# The configuration file

A project's configuration stands in one file in its root. Without the file, or with an empty one, the defaults hold.
-/

set_option autoImplicit false

namespace Stencil.Config

def filePath? (cwd : List String) (root : Path) : Option Path := (root.join (.ofString configFileName)).resolve? cwd

def ofText (source : String) : Except Failure Config :=
  match Yaml.read {} source.toList with
  | .error .invalid => .error (.configFile .notYaml)
  | .error (.mishap m) => .error (.mishap m)
  | .ok (d, _) =>
    match d.plain with
    | .null => .ok {}
    | .map entries => (ofEntries entries).mapError (Failure.ofConfig true)
    | .ordered entries => (ofEntries entries).mapError (Failure.ofConfig true)
    | _ => .error (.configFile .notMapping)

def load (files : FileTree) (root : Path) : Task Config := do
  match filePath? files.cwd root with
  | none => throw (.mishap .badValue)
  | some path =>
    match files.content path with
    | .ok (bytes, _) => Task.ofExcept (ofText (← Task.decode bytes))
    | .error .tooLong => throw (.mishap .system)
    | .error (.refused _) => throw (.mishap .system)
    | .error _ =>
      Task.note .debug ("No config at " ++ path.text ++ ", using defaults")
      return {}

end Stencil.Config
