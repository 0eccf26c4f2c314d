import Stencil.Config.Load
import Stencil.Json.Reader
import Stencil.Text.Case

/-!
# Variables

The names that a template is rendered with come from data files and from bindings `KEY=VALUE`. Later sources win, and
a name keeps the place where it was first given.
-/

set_option autoImplicit false

namespace Stencil

namespace Binding

def parse? (item : String) : Option (String × String) := do
  let cs := item.toList
  let key := cs.takeWhile (· != '=')
  let name := Text.strip key
  if key.length = cs.length || name.isEmpty then none
  else some (String.ofList name, String.ofList (cs.drop (key.length + 1)))

def parseAll (items : List String) : Except DataFault (List (String × String)) :=
  items.mapM fun item => match parse? item with
    | some b => .ok b
    | none => .error (.badBinding item)

def table (items : List String) : Except DataFault (Table String String) := (parseAll items).map Table.ofList

end Binding

inductive DataFormat where
  | yaml
  | json
  deriving DecidableEq, Repr

def DataFormat.ofSuffix? (suffix : String) : Option DataFormat :=
  match suffix with
  | ".yaml" => some .yaml
  | ".yml" => some .yaml
  | ".json" => some .json
  | _ => none

namespace DataFile

def parse (session : Yaml.Session) (format : DataFormat) (path : Path) (source : String) :
    Except Failure (Data × Yaml.Session) :=
  match format with
  | .json =>
    match Json.read source.toList with
    | .ok d => .ok (d, session)
    | .error (.malformed f) => .error (.data (.unparsable path.text (some (f.message source.toList))))
    | .error (.mishap m) => .error (.mishap m)
  | .yaml => (Yaml.read session source.toList).mapError fun
    | .invalid => .data (.unparsable path.text none)
    | .mishap m => .mishap m

def entries (path : Path) (d : Data) : Except Failure (List (Data × Data)) :=
  match d with
  | .null => .ok []
  | .map entries => .ok entries
  | .ordered entries => .ok entries
  | _ => .error (.data (.notMapping path.text))

def lowerSuffix (path : Path) : String := String.ofList (Text.lower path.suffix.toList)

def loadIn (session : Yaml.Session) (files : FileTree) (path : Path) :
    Except Failure (List (Data × Data) × Yaml.Session) :=
  match files.content path with
  | .error .tooLong => .error (.mishap .system)
  | .error (.refused _) => .error (.mishap .system)
  | .error _ => .error (.data (.notFound path.text))
  | .ok (bytes, _) =>
    match DataFormat.ofSuffix? (lowerSuffix path) with
    | none => .error (.data (.unsupported (lowerSuffix path) path.text))
    | some format => do
      let source ← (FileTree.decodeText bytes).mapError Failure.undecodable
      let (d, session) ← parse session format path source
      return (← entries path d, session)

def load (files : FileTree) (path : Path) : Except Failure (List (Data × Data)) :=
  (loadIn {} files path).map Prod.fst

end DataFile

namespace Variables

def merge (first second : List (Data × Data)) : List (Data × Data) :=
  second.foldl (fun made e => Data.put e.1 e.2 made) first

def ofBindings (bindings : Table String String) : List (Data × Data) :=
  bindings.entries.map fun b => (.text b.1, .text b.2)

def loadAll (files : FileTree) (session : Yaml.Session) (known : List (Data × Data)) :
    List Path → Task (List (Data × Data))
  | [] => return known
  | path :: rest => do
    let (entries, session) ← Task.ofExcept (DataFile.loadIn session files path)
    Task.note .debug ("Loaded " ++ toString entries.length ++ " key(s) from " ++ path.text)
    loadAll files session (merge known entries) rest

def build (files : FileTree) (root : Path) (config : Config) (dataFiles : List String)
    (bindings : Table String String) : Task (List (Data × Data)) := do
  let configured := config.dataFiles.map fun s => root.join (.ofString s)
  let loaded ← loadAll files {} [] (configured ++ dataFiles.map .ofString)
  return merge loaded (ofBindings bindings)

end Variables

end Stencil
