import Stencil.Path
import Stencil.Table
import Stencil.Text.Lines
import Stencil.Text.Utf8

/-!
# Files

A tree of files and directories, and the directory that relative paths start from. Every write gives a file a new
revision, by which a reader notices the change.
-/

set_option autoImplicit false

namespace Stencil

inductive FileNode where
  | file (content : List UInt8) (revision : Nat)
  -- a file that may not be read, with what the system says to that
  | locked (refusal : String) (revision : Nat)
  | directory

structure FileTree where
  nodes : Table (List String) FileNode := {}
  cwd : List String := []
  writes : Nat := 0

namespace FileTree

def isDirectory : FileNode → Bool
  | .directory => true
  | _ => false

inductive PathFault where
  | missing
  | notADirectory
  | tooLong
  | nullCharacter
  -- the path leads to a file that may not be read
  | refused (refusal : String)
  deriving DecidableEq, Repr

def longestPart : Nat := 255

def longestPath : Nat := 4095

def walk (t : FileTree) (start : List String) : List String → Except PathFault (List String × FileNode)
  | [] =>
    if start.isEmpty then .ok ([], .directory)
    else match t.nodes.find? start with
      | some node => .ok (start, node)
      | none => .error .missing
  | part :: rest =>
    match if start.isEmpty then some .directory else t.nodes.find? start with
    | none => .error .missing
    | some (.file _ _) => .error .notADirectory
    | some (.locked _ _) => .error .notADirectory
    | some .directory =>
      if longestPart < part.utf8ByteSize then .error .tooLong else walk t (Path.descend start part) rest

def lookup (t : FileTree) (p : Path) : Except PathFault (List String × FileNode) :=
  if p.hasNull then .error .nullCharacter
  else if longestPath < p.text.utf8ByteSize then .error .tooLong
  else t.walk (if p.isAbsolute then [] else t.cwd) p.parts

def content (t : FileTree) (p : Path) : Except PathFault (List UInt8 × Nat) :=
  match t.lookup p with
  | .ok (_, .file content revision) => .ok (content, revision)
  | .ok (_, .locked refusal _) => .error (.refused refusal)
  | .ok (_, .directory) => .error .missing
  | .error f => .error f

def revision? (t : FileTree) (p : Path) : Option Nat :=
  match t.lookup p with
  | .ok (_, .file _ revision) => some revision
  | .ok (_, .locked _ revision) => some revision
  | _ => none

def decodeText (bytes : List UInt8) : Except Text.DecodeFault String :=
  (Text.decodeUtf8 bytes).map fun cs => String.ofList (Text.unifyLines cs)

def makeDirectories (t : FileTree) (place : List String) : FileTree :=
  let above := (List.range place.length).map fun n => place.take (n + 1)
  above.foldl (fun t p => if t.nodes.has p then t else { t with nodes := t.nodes.insert p .directory }) t

def putNode (t : FileTree) (place : List String) (node : Nat → FileNode) : FileTree :=
  let t := t.makeDirectories place.dropLast
  { t with nodes := t.nodes.insert place (node (t.writes + 1)), writes := t.writes + 1 }

def put (t : FileTree) (place : List String) (content : List UInt8) : FileTree := t.putNode place (.file content)

def putLocked (t : FileTree) (place : List String) (refusal : String) : FileTree := t.putNode place (.locked refusal)

inductive WriteFault where
  | noPath (f : PathFault)
  | isADirectory
  deriving DecidableEq, Repr

def write (t : FileTree) (p : Path) (content : List UInt8) : Except WriteFault FileTree :=
  match t.lookup p with
  | .ok (_, .directory) => .error .isADirectory
  | .ok (place, .file _ _) => .ok (t.put place content)
  | .ok (_, .locked refusal _) => .error (.noPath (.refused refusal))
  | .error .missing =>
    match t.lookup ⟨p.slashes, p.parts.dropLast⟩ with
    | .ok (place, .directory) => .ok (t.put (Path.descend place p.name) content)
    | .ok (_, _) => .error (.noPath .notADirectory)
    | .error f => .error (.noPath f)
  | .error f => .error (.noPath f)

end FileTree

end Stencil
