import Stencil.Data.Order
import Stencil.Data.Shown

/-!
# Configuration

Nine settings, each with a default. A configuration is read from a map that gives some of them; keys that are not
settings and values of the wrong kind are refused.
-/

set_option autoImplicit false

namespace Stencil

structure Config where
  templates : String := "templates"
  dataFiles : List String := []
  plugins : List String := ["render_block"]
  autoescape : Bool := false
  strictUndefined : Bool := false
  trimBlocks : Bool := false
  lstripBlocks : Bool := false
  keepTrailingNewline : Bool := true
  cacheSize : Nat := 400
  deriving DecidableEq, Repr

namespace Config

inductive Fault where
  | unknownKeys (keys : List Data)
  -- there are unknown keys, and they have no order in which they could be told
  | unsortableKeys
  | notBool (key : String) (value : Data)
  | notPositive (key : String) (value : Data)
  | notText (key : String) (value : Data)
  | notTexts (key : String) (value : Data)
  | notYaml
  | notMapping

def wrongKind (key wanted : String) (value : Data) : String := key ++ ": expected " ++ wanted ++ ", got " ++ value.spelled

def Fault.message : Fault → String
  | .unknownKeys keys => "unknown config key(s): " ++ ", ".intercalate (keys.map Data.printed)
  | .unsortableKeys => ""
  | .notBool key value => wrongKind key "bool" value
  | .notPositive key value => wrongKind key "positive int" value
  | .notText key value => wrongKind key "non-empty string" value
  | .notTexts key value => wrongKind key "list of strings" value
  | .notYaml => "invalid YAML"
  | .notMapping => "top level must be a mapping"

def Fault.shown : Fault → List Data
  | .unknownKeys keys => keys
  | .notBool _ value => [value]
  | .notPositive _ value => [value]
  | .notText _ value => [value]
  | .notTexts _ value => [value]
  | _ => []

def Fault.isUntold (f : Fault) : Bool := f.shown.any Data.hasTooLong

def knownKeys : List String :=
  ["templates", "data", "plugins", "autoescape", "strict_undefined", "trim_blocks", "lstrip_blocks",
    "keep_trailing_newline", "cache_size"]

def readBool (key : String) : Data → Except Fault Bool
  | .bool b => .ok b
  | d => .error (.notBool key d)

def readPositive (key : String) : Data → Except Fault Nat
  | .int n => if 1 ≤ n then .ok n.toNat else .error (.notPositive key (.int n))
  | d => .error (.notPositive key d)

def readText (key : String) : Data → Except Fault String
  | .text s => if s = "" then .error (.notText key (.text s)) else .ok s
  | d => .error (.notText key d)

def texts? : List Data → Option (List String)
  | [] => some []
  | .text s :: rest => (texts? rest).map (s :: ·)
  | _ :: _ => none

def readTexts (key : String) : Data → Except Fault (List String)
  | .list items => match texts? items with
    | some ss => .ok ss
    | none => .error (.notTexts key (.list items))
  | d => .error (.notTexts key d)

def set (c : Config) (key : String) (value : Data) : Except Fault Config :=
  match key with
  | "templates" => (readText key value).map fun v => { c with templates := v }
  | "data" => (readTexts key value).map fun v => { c with dataFiles := v }
  | "plugins" => (readTexts key value).map fun v => { c with plugins := v }
  | "autoescape" => (readBool key value).map fun v => { c with autoescape := v }
  | "strict_undefined" => (readBool key value).map fun v => { c with strictUndefined := v }
  | "trim_blocks" => (readBool key value).map fun v => { c with trimBlocks := v }
  | "lstrip_blocks" => (readBool key value).map fun v => { c with lstripBlocks := v }
  | "keep_trailing_newline" => (readBool key value).map fun v => { c with keepTrailingNewline := v }
  | "cache_size" => (readPositive key value).map fun v => { c with cacheSize := v }
  | _ => .error (.unknownKeys [.text key])

def settingKey? : Data → Option String
  | .text s => if knownKeys.contains s then some s else none
  | _ => none

def setAll (c : Config) : List (Data × Data) → Except Fault Config
  | [] => .ok c
  | (k, v) :: rest =>
    match settingKey? k with
    | some key => do setAll (← c.set key v) rest
    | none => .error (.unknownKeys [k])

def ofEntries (entries : List (Data × Data)) : Except Fault Config :=
  match (entries.map Prod.fst).filter fun k => (settingKey? k).isNone with
  | [] => setAll {} entries
  | unknown =>
    match sortM (Data.related .lt) unknown with
    | some keys => .error (.unknownKeys keys)
    | none => .error .unsortableKeys

def ofTexts (ss : List String) : Data := .list (ss.map .text)

def toEntries (c : Config) : List (Data × Data) :=
  [(.text "templates", .text c.templates), (.text "data", ofTexts c.dataFiles), (.text "plugins", ofTexts c.plugins),
    (.text "autoescape", .bool c.autoescape), (.text "strict_undefined", .bool c.strictUndefined),
    (.text "trim_blocks", .bool c.trimBlocks), (.text "lstrip_blocks", .bool c.lstripBlocks),
    (.text "keep_trailing_newline", .bool c.keepTrailingNewline), (.text "cache_size", .int c.cacheSize)]

end Config

end Stencil
