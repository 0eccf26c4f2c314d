import Stencil.Log
import Stencil.Plugin.Basic
import Stencil.Table
import Stencil.Text.Quoted

/-!
# The registry

Plugins are registered under different names, each bringing its tags; a tag replaces an earlier one of its name.
Initialisation happens once, in two phases: first every plugin registered by then is connected to the renderer,
then each reports in the order of priority.
-/

set_option autoImplicit false

namespace Stencil

structure Renderer where
  number : Nat
  deriving DecidableEq, Repr

def Renderer.own : Renderer := ⟨0⟩

structure Registry where
  plugins : List Plugin := []
  tags : Table String Tag := {}
  initialized : Bool := false
  -- the renderers that plugins hold, by the name of the plugin
  links : Table String Renderer := {}

structure InitReport where
  plugin : String
  tags : List String
  probe : Option (Option String)
  deriving DecidableEq, Repr

namespace Registry

def getTag? (r : Registry) (name : String) : Option Tag := r.tags.find? name

def listTags (r : Registry) : List String := r.tags.keys.mergeSort (fun a b => a ≤ b)

def listPlugins (r : Registry) : List String := r.plugins.map Plugin.name

def overrideWarning (tag : Tag) : LogLine :=
  ⟨.warning, "Tag '" ++ tag.name ++ "' from plugin '" ++ tag.owner ++ "' overwrites existing tag"⟩

def addTags (tags : Table String Tag) : List Tag → Table String Tag × List LogLine
  | [] => (tags, [])
  | t :: rest =>
    let (final, log) := addTags (tags.insert t.name t) rest
    (final, (if tags.has t.name then [overrideWarning t] else []) ++ log)

def register? (r : Registry) (p : Plugin) : Option (Registry × List LogLine) :=
  if r.plugins.any (·.name == p.name) then none
  else
    let (tags, log) := addTags r.tags p.ownTags
    some ({ r with plugins := r.plugins ++ [p], tags },
      log ++ [⟨.debug, "Registered plugin '" ++ p.name ++ "'"⟩])

def initOrder (r : Registry) : List Plugin :=
  r.plugins.mergeSort fun a b => b.priority.weight ≤ a.priority.weight

def endTagOf (name : String) : String := "end" ++ name

def report (r : Registry) (p : Plugin) : InitReport :=
  ⟨p.name, r.listTags, p.probe.map fun tag => (r.getTag? tag).map fun t => endTagOf t.name⟩

def connected (r : Registry) : List String := r.links.keys

def connect (r : Registry) (renderer : Renderer) (p : Plugin) : Registry :=
  { r with links := r.links.insert p.name renderer }

def connectAll (r : Registry) (renderer : Renderer) (plugins : List Plugin) : Registry :=
  plugins.foldl (·.connect renderer ·) r

/-- To connect plugins changes nothing but what they hold. -/
theorem connectAll_eq (r : Registry) (renderer : Renderer) (plugins : List Plugin) :
    r.connectAll renderer plugins = { r with links := (r.connectAll renderer plugins).links } := by
  induction plugins generalizing r with
  | nil => rfl
  | cons p rest ih => exact ih (r.connect renderer p)

@[simp] theorem plugins_connectAll (r : Registry) (renderer : Renderer) (plugins : List Plugin) :
    (r.connectAll renderer plugins).plugins = r.plugins := by
  rw [connectAll_eq]

@[simp] theorem tags_connectAll (r : Registry) (renderer : Renderer) (plugins : List Plugin) :
    (r.connectAll renderer plugins).tags = r.tags := by
  rw [connectAll_eq]

structure Hook where
  plugin : Plugin
  seen : Registry

def Hook.report? (h : Hook) : Option InitReport :=
  if h.plugin.announces then some (h.seen.report h.plugin) else none

def hooks (r : Registry) (renderer : Renderer) : List Hook :=
  if r.initialized then [] else r.initOrder.map fun p => ⟨p, r.connectAll renderer r.initOrder⟩

def startUp (r : Registry) (renderer : Renderer) : Registry × List InitReport :=
  if r.initialized then (r, [])
  else ({ r.connectAll renderer r.initOrder with initialized := true }, (r.hooks renderer).filterMap Hook.report?)

end Registry

end Stencil
