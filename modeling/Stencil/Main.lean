import Stencil.Command.Perform

/-!
# The program

Fetches what a command can see from the disk, performs it, and writes back what it left.
-/

set_option autoImplicit false

namespace Stencil.Main

def directoriesOf (cwd : List String) (p : Path) : List (List String) :=
  (List.range p.parts.length).map fun n => Path.absoluteParts cwd ⟨p.slashes, p.parts.take n⟩

def refusalFor (p : Path) : String := "[Errno 13] Permission denied: " ++ Text.quoted p.text

def fetchLocked (t : FileTree) (p : Path) : IO FileTree := do
  try
    let place ← IO.FS.realPath p.text
    if (← place.pathExists) && !(← place.isDir) then
      return t.putLocked (p.absoluteParts t.cwd) (refusalFor p)
    else return t
  catch _ => return t

def fetchFile (t : FileTree) (p : Path) : IO FileTree := do
  try
    let content ← IO.FS.readBinFile p.text
    let t := (directoriesOf t.cwd p).foldl FileTree.makeDirectories t
    return t.put (p.absoluteParts t.cwd) content.toList
  catch _ => fetchLocked t p

def fetchDirectory (t : FileTree) (p : Path) : IO FileTree := do
  try
    if ← (← IO.FS.realPath p.text).isDir then
      return (directoriesOf t.cwd p ++ [p.absoluteParts t.cwd]).foldl FileTree.makeDirectories t
    else return t
  catch _ => return t

def fetchFolder : Nat → FileTree → Path → IO FileTree
  | 0, t, _ => return t
  | n + 1, t, p => do
    let t ← fetchDirectory t p
    try
      let mut t := t
      for entry in ← (← IO.FS.realPath p.text).readDir do
        let inner := p.join ⟨0, [entry.fileName]⟩
        t ← fetchFolder n (← fetchFile t inner) inner
      return t
    catch _ => return t

def folderDepth : Nat := 32

def fetch (cwd : List String) (c : Command) : IO FileTree := do
  let (root, given, out) := match c with
    | .render root _ dataFiles _ out _ => (root, dataFiles, out)
    | .list root _ => (root, [], none)
  let start : FileTree := { cwd }
  let t := start.makeDirectories cwd
  let some root := (Path.ofString root).resolve? cwd | return t
  let some configPath := Config.filePath? cwd root | return t
  let t ← fetchFile t configPath
  match (Config.load t root).perform.1 with
  | .error _ => return t
  | .ok config =>
    let some folder := Processor.templatesFolder? cwd root config.templates | return t
    let t ← fetchFolder folderDepth t folder
    let configured := config.dataFiles.map fun s => root.join (.ofString s)
    let t ← (configured ++ given.map Path.ofString).foldlM fetchFile t
    match out with
    | none => return t
    | some path =>
      let p := Path.ofString path
      fetchDirectory (← fetchDirectory (← fetchFile t p) ⟨p.slashes, p.parts.dropLast⟩) p

def store (revision : Nat) (t : FileTree) : IO Unit :=
  t.nodes.entries.forM fun (place, node) => do
    match node with
    | .file content written =>
      if revision < written then IO.FS.writeBinFile (Path.text ⟨1, place⟩) ⟨content.toArray⟩
    | _ => return ()

def readsInput : Command → Bool
  | .render _ target _ _ _ _ => target == Run.inputTarget
  | .list _ _ => false

def finish (revision : Nat) (e : Command.Ending) : IO UInt32 := do
  store revision e.files
  IO.eprint e.errors
  IO.print e.output
  return e.exitCode.toUInt32

def run (arguments : List String) : IO UInt32 := do
  match Command.parse arguments with
  | .error stop => finish 0 (Command.stopEnding ⟨{}, [], false⟩ stop)
  | .ok i =>
    let cwd := (Path.ofString (← IO.currentDir).toString).parts
    let files ← fetch cwd i.command
    let input ← if readsInput i.command then (·.toList) <$> IO.FS.readBinFile "/dev/stdin" else pure []
    let debug := ((← IO.getEnv "RERENDER_DEBUG").getD "") != ""
    match Command.perform ⟨files, input, debug⟩ i with
    | .ok e => finish files.writes e
    | .error _ =>
      IO.eprintln "unexpected failure"
      return 1

end Stencil.Main

def main (arguments : List String) : IO UInt32 := Stencil.Main.run arguments
