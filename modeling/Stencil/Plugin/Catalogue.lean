import Stencil.Plugin.Basic
import Stencil.Text.Quoted
import Stencil.Text.Split

/-!
# The catalogue of plugins

Plugins are named by a short name, or by the module that holds them and the name they have there. Modules stand in
packages, packages in packages, and a name is looked up from the outermost one inwards.
-/

set_option autoImplicit false

namespace Stencil.Catalogue

inductive Entry where
  | plugin (p : Plugin)
  | outline

structure Module where
  path : String
  isPackage : Bool := false
  entries : List (String × Entry) := []

def renderBlock : Plugin := ⟨"render_block", .block, [("render", .renderTwice)], false, none⟩

def upperCase : Plugin := ⟨"upper", .standard, [("upper", .upper)], false, none⟩

def recording : Plugin := ⟨"record", .standard, [("record", .body)], false, none⟩

def renderBlockEntries : List (String × Entry) := [("RenderBlockPlugin", .plugin renderBlock)]

def outlineEntries : List (String × Entry) := [("TemplatePlugin", .outline)]

def modules : List Module :=
  [⟨"rerender", true, []⟩, ⟨"rerender.cli", false, []⟩, ⟨"rerender.config", true, []⟩,
    ⟨"rerender.config.load", false, []⟩, ⟨"rerender.config.model", false, []⟩, ⟨"rerender.config.paths", false, []⟩,
    ⟨"rerender.engine", false, []⟩, ⟨"rerender.errors", false, []⟩, ⟨"rerender.jsonic", false, []⟩,
    ⟨"rerender.template", true, outlineEntries⟩, ⟨"rerender.template.base", false, outlineEntries⟩,
    ⟨"rerender.template.extension", false, []⟩, ⟨"rerender.template.handlers", false, []⟩,
    ⟨"rerender.template.processor", false, outlineEntries⟩, ⟨"rerender.template.protocols", false, []⟩,
    ⟨"rerender.template.registry", false, outlineEntries⟩,
    ⟨"rerender.template.render_block", true, renderBlockEntries⟩,
    ⟨"rerender.template.render_block.plugin", false, renderBlockEntries ++ outlineEntries⟩,
    ⟨"rerender.template.types", false, []⟩, ⟨"rerender.types", false, []⟩, ⟨"rerender.variables", false, []⟩,
    ⟨"rerender.version", false, []⟩, ⟨"tests", true, []⟩, ⟨"tests.infrastructure", true, []⟩,
    ⟨"tests.infrastructure.cli_utils", false, []⟩, ⟨"tests.infrastructure.file_utils", false, []⟩,
    ⟨"tests.infrastructure.plugins", false,
      [("UpperPlugin", .plugin upperCase), ("RecordingPlugin", .plugin recording), ("OrderPlugin", .outline),
        ("TemplatePlugin", .outline)]⟩]

def builtins : List (String × String) :=
  [("render_block", "rerender.template.render_block:RenderBlockPlugin")]

inductive LoadFault where
  | unknown (reference : String)
  | missing (modulePath : String) (part : String) (leaf : Option String)
  | notAPlugin (target : String)
  -- the name stands for an outline, of which there are no instances
  | outline
  -- the path of the module starts with a point
  | relative
  deriving DecidableEq, Repr

def LoadFault.message : LoadFault → String
  | .unknown reference =>
    "Unknown plugin '" ++ reference ++ "'. Builtin plugins: " ++ ", ".intercalate (builtins.map Prod.fst)
  | .missing modulePath part leaf =>
    "Cannot import plugin module '" ++ modulePath ++ "': No module named " ++ Text.quoted part ++
      (match leaf with
        | none => ""
        | some parent => "; " ++ Text.quoted parent ++ " is not a package")
  | .notAPlugin target => "'" ++ target ++ "' is not a TemplatePlugin class"
  | .outline => ""
  | .relative => ""

def findModule? (path : String) : Option Module := modules.find? (·.path == path)

def follow (whole : String) (parent : Option Module) (walked : String) : List String → Except LoadFault Module
  | [] => match parent with
    | some m => .ok m
    | none => .error (.missing whole whole none)
  | part :: rest =>
    let path := if walked == "" then part else walked ++ "." ++ part
    match parent.filter (!·.isPackage), findModule? path with
    | some leaf, _ => .error (.missing whole path (some leaf.path))
    | none, some m => follow whole (some m) path rest
    | none, none => .error (.missing whole path none)

structure Loaded where
  className : String
  plugin : Plugin

def splitReference (target : String) : List Char × List Char :=
  let module := target.toList.takeWhile (· != ':')
  (module, target.toList.drop (module.length + 1))

def load (reference : String) : Except LoadFault Loaded :=
  let target := ((builtins.find? (·.1 == reference)).map Prod.snd).getD reference
  let (modulePath, name) := splitReference target
  if modulePath.isEmpty || name.isEmpty then .error (.unknown reference)
  else if modulePath.head? == some '.' then .error .relative
  else do
    let parts := (Text.splitText ['.'] modulePath.length modulePath).map String.ofList
    let m ← follow (String.ofList modulePath) none "" parts
    match m.entries.find? (·.1 == String.ofList name) with
    | some (className, .plugin p) => return ⟨className, p⟩
    | some (_, .outline) => throw .outline
    | none => throw (.notAPlugin target)

end Stencil.Catalogue
