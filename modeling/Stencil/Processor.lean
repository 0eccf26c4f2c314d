import Stencil.Engine.Interpreter
import Stencil.Failure

/-!
# Processors

A processor renders templates, from texts and from files, with the plugins it was set up with. It is a state: its
caches, its registry, its log and the reports of its plugins change with every use.
-/

set_option autoImplicit false

namespace Stencil

open Engine

structure Processor where
  world : World

namespace Processor

abbrev Outcome (α : Type) := Except Failure α × Processor

def layoutOf (c : Config) : Template.Layout := ⟨c.trimBlocks, c.lstripBlocks, c.keepTrailingNewline⟩

def templatesFolder? (cwd : List String) (root : Path) (templates : String) : Option Path :=
  (root.join (.ofString templates)).resolve? cwd

def folderFor (cwd : List String) (c : Config) : Option Path → Except Failure (Option Path)
  | none => .ok none
  | some root =>
    match templatesFolder? cwd root c.templates with
    | some folder => .ok (some folder)
    | none => .error (.mishap .badValue)

def bare (c : Config) (files : FileTree) (root : Option Path) : Except Failure Processor := do
  let settings : Settings := ⟨c.autoescape, c.strictUndefined, layoutOf c, ← folderFor files.cwd c root⟩
  return ⟨{ settings, files, texts := .ofSize c.cacheSize }⟩

def register (p : Processor) (plugin : Plugin) : Except Failure Processor :=
  match p.world.registry.register? plugin with
  | none => .error (.pluginTwice plugin.name)
  | some (registry, log) => .ok ⟨{ p.world with registry, log := p.world.log ++ log }⟩

def loadPlugin (reference : String) : Except Failure Plugin :=
  match Catalogue.load reference with
  | .ok loaded => .ok loaded.plugin
  | .error f => .error (.ofLoad f)

def registerAll (p : Processor) : List String → Outcome Unit
  | [] => (.ok (), p)
  | reference :: rest =>
    match (loadPlugin reference).bind p.register with
    | .ok q => registerAll q rest
    | .error f => (.error f, p)

def startUp (p : Processor) : Processor :=
  let (registry, reports) := p.world.registry.startUp .own
  ⟨{ p.world with registry, events := p.world.events ++ reports.map .init }⟩

def setUp (c : Config) (files : FileTree) (root : Option Path) : Except Failure (Outcome Unit) := do
  match (← bare c files root).registerAll c.plugins with
  | (.ok _, p) => return (.ok (), p.startUp)
  | (.error f, p) => return (.error f, p)

def create (c : Config) (files : FileTree) (root : Option Path) : Except Failure Processor := do
  let (result, p) ← setUp c files root
  result.map fun _ => p

def namedData? (entries : List (Data × Data)) : Option (List (String × Data)) :=
  entries.mapM fun e => e.1.asText?.map (·, e.2)

def thawNamed (named : List (String × Data)) : Eval (Table String Value) := do
  let thawed : Thaw (List (String × Value)) := named.mapM fun e => do return (e.1, ← thawAs none e.2)
  return .ofList (← thawed.run []).1

def renderWith (t : Script) (vars : List (Data × Data)) : Eval String := do
  let named ← liftOption .wrongType (namedData? vars)
  renderTemplate (interp plenty) t (← thawNamed named)

def sourceText (name : String) (vars : List (Data × Data)) (source : String) : Eval String := do
  renderWith (.text (← compileText name source)) vars

def fileText (name : String) (vars : List (Data × Data)) : Eval String := do
  renderWith (.file (← loadTemplate name)) vars

def wrapFault (name reason : String) (f : Engine.Fault) : Failure :=
  match f with
  | .undecodable d => .processing ⟨reason ++ ": " ++ d.message, name, some .undecodable⟩
  | .unreadable refusal => .processing ⟨reason ++ ": " ++ refusal, name, some .unreadable⟩
  | f => .template f

def bareFault (f : Engine.Fault) : Failure :=
  match f with
  | .undecodable d => .undecodable d
  | .unreadable _ => .mishap .system
  | f => .template f

def exec {α : Type} (p : Processor) (wrap : Engine.Fault → Failure) (e : Eval α) : Outcome α :=
  match (e.run).run { p.world with depth := 0 } with
  | (.ok a, world) => (.ok a, ⟨world⟩)
  | (.error f, world) => (.error (wrap f), ⟨world⟩)

def renderText (p : Processor) (name : String) (vars : List (Data × Data)) (source : String) : Outcome String :=
  p.exec (wrapFault name "Unexpected error during processing") (sourceText name vars source)

def renderFile (p : Processor) (name : String) (vars : List (Data × Data)) : Outcome String :=
  match p.world.settings.folder with
  | none => (.error (.processing ⟨"No templates directory configured", name, none⟩), p)
  | some _ => p.exec (wrapFault name "Failed to process template file") (fileText name vars)

def renderNested (p : Processor) (name : String) (vars : List (Data × Data)) (source : String) : Outcome String :=
  p.exec bareFault (sourceText name vars source)

def isCached (p : Processor) (name source : String) : Bool := p.world.texts.keeps name source

def cacheSize (p : Processor) : Nat := p.world.texts.size

def listPlugins (p : Processor) : List String := p.world.registry.listPlugins

def listTags (p : Processor) : List String := p.world.registry.listTags

def getTag? (p : Processor) (name : String) : Option Tag := p.world.registry.getTag? name

def log (p : Processor) : List LogLine := p.world.log

def events (p : Processor) : List Event := p.world.events

def clearReports (p : Processor) : Processor := ⟨{ p.world with log := [], events := [] }⟩

def withFiles (p : Processor) (files : FileTree) : Processor := ⟨{ p.world with files }⟩

end Processor

end Stencil
