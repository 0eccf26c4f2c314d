import Mathlib.Order.Monotone.Basic
import Stencil.Engine.Variable

/-!
# Renaming of references

Nothing a template does depends on the numbers of its cells, only on which of them are the same and which is older.
A renaming gives the cells of each kind other numbers and keeps their order; `ρ.on` renames the references in a
value, an environment or the content of a cell.
-/

set_option autoImplicit false

namespace Stencil.Table

variable {κ υ ω : Type}

def mapValues (f : υ → ω) (t : Table κ υ) : Table κ ω := ⟨t.entries.map fun e => (e.1, f e.2)⟩

@[simp] theorem mapValues_empty (f : υ → ω) : mapValues f ({} : Table κ υ) = {} := rfl

@[simp] theorem isEmpty_mapValues (f : υ → ω) (t : Table κ υ) :
    (t.mapValues f).entries.isEmpty = t.entries.isEmpty := by
  simp [mapValues]

theorem mapValues_id (t : Table κ υ) : t.mapValues id = t := by
  simp [mapValues]

variable [BEq κ]

theorem findEntries?_map (f : υ → ω) (key : κ) (es : List (κ × υ)) :
    findEntries? key (es.map fun e => (e.1, f e.2)) = (findEntries? key es).map f := by
  induction es with
  | nil => rfl
  | cons e es ih =>
    obtain ⟨k, v⟩ := e
    by_cases h : k == key <;> simp [findEntries?, h, ih]

@[simp] theorem find?_mapValues (f : υ → ω) (t : Table κ υ) (key : κ) :
    (t.mapValues f).find? key = (t.find? key).map f :=
  findEntries?_map f key t.entries

theorem insertEntries_map (f : υ → ω) (key : κ) (v : υ) (es : List (κ × υ)) :
    insertEntries key (f v) (es.map fun e => (e.1, f e.2)) =
      (insertEntries key v es).map fun e => (e.1, f e.2) := by
  induction es with
  | nil => rfl
  | cons e es ih =>
    obtain ⟨k, x⟩ := e
    by_cases h : k == key <;> simp [insertEntries, h, ih]

@[simp] theorem mapValues_insert (f : υ → ω) (t : Table κ υ) (key : κ) (v : υ) :
    (t.insert key v).mapValues f = (t.mapValues f).insert key (f v) := by
  simp [mapValues, insert, insertEntries_map]

@[simp] theorem mapValues_erase (f : υ → ω) (t : Table κ υ) (key : κ) :
    (t.erase key).mapValues f = (t.mapValues f).erase key := by
  simp [mapValues, erase, List.filter_map, Function.comp_def]

theorem mapValues_insertAll (f : υ → ω) (t : Table κ υ) (es : List (κ × υ)) :
    (t.insertAll es).mapValues f = (t.mapValues f).insertAll (es.map fun e => (e.1, f e.2)) := by
  induction es generalizing t with
  | nil => rfl
  | cons e es ih => simpa [insertAll] using ih (t.insert e.1 e.2)

@[simp] theorem mapValues_update (f : υ → ω) (t later : Table κ υ) :
    (t.update later).mapValues f = (t.mapValues f).update (later.mapValues f) :=
  mapValues_insertAll f t later.entries

end Stencil.Table

namespace Stencil.Engine

open Stencil.Template

structure Renaming where
  object : Ref → Ref
  frame : Ref → Ref
  context : Ref → Ref
  escape : Ref → Ref
  object_mono : StrictMono object
  frame_mono : StrictMono frame
  context_mono : StrictMono context
  escape_mono : StrictMono escape

class Renames (α : Type) where
  renamed : Renaming → α → α

def Renaming.on {α : Type} [Renames α] (ρ : Renaming) (a : α) : α := Renames.renamed ρ a

class Inert (α : Type) extends Renames α where
  renamed_self : ∀ (ρ : Renaming) (a : α), renamed ρ a = a

instance : Inert Unit where
  renamed _ a := a
  renamed_self _ _ := rfl

instance : Inert Bool where
  renamed _ a := a
  renamed_self _ _ := rfl

instance : Inert Nat where
  renamed _ a := a
  renamed_self _ _ := rfl

instance : Inert Int where
  renamed _ a := a
  renamed_self _ _ := rfl

instance : Inert Float where
  renamed _ a := a
  renamed_self _ _ := rfl

instance : Inert Char where
  renamed _ a := a
  renamed_self _ _ := rfl

instance : Inert String where
  renamed _ a := a
  renamed_self _ _ := rfl

instance : Inert UInt8 where
  renamed _ a := a
  renamed_self _ _ := rfl

instance : Inert Data where
  renamed _ a := a
  renamed_self _ _ := rfl

instance : Inert Output where
  renamed _ a := a
  renamed_self _ _ := rfl

instance : Inert Compiled where
  renamed _ a := a
  renamed_self _ _ := rfl

instance {α : Type} [Renames α] : Renames (List α) := ⟨fun ρ => List.map ρ.on⟩

instance {α : Type} [Renames α] : Renames (Option α) := ⟨fun ρ => Option.map ρ.on⟩

instance {α β : Type} [Renames α] [Renames β] : Renames (α × β) := ⟨fun ρ p => (ρ.on p.1, ρ.on p.2)⟩

instance {κ υ : Type} [Renames υ] : Renames (Table κ υ) := ⟨fun ρ => Table.mapValues ρ.on⟩

mutual

def Value.renamed (ρ : Renaming) : Value → Value
  | .tuple items => .tuple (renamedAll ρ items)
  | .list r => .list (ρ.object r)
  | .dict r => .dict (ρ.object r)
  | .set r => .set (ρ.object r)
  | .slice start stop stride => .slice (start.renamed ρ) (stop.renamed ρ) (stride.renamed ρ)
  | .view kind r => .view kind (ρ.object r)
  | .namespace r => .namespace (ρ.object r)
  | .loop r => .loop (ρ.object r)
  | .iterator r => .iterator (ρ.object r)
  | .macroFn r => .macroFn (ρ.object r)
  | .module r => .module (ρ.object r)
  | .method owner id => .method (owner.renamed ρ) id
  | .blocks r => .blocks (ρ.context r)
  | .blockRef id r stack height => .blockRef id (ρ.context r) stack height
  | v => v

def renamedAll (ρ : Renaming) : List Value → List Value
  | [] => []
  | v :: rest => v.renamed ρ :: renamedAll ρ rest

end

instance : Renames Value := ⟨Value.renamed⟩

def Env.renamed (ρ : Renaming) (env : Env) : Env :=
  { env with
    context := ρ.context env.context, frame := ρ.frame env.frame, dropping := env.dropping.map ρ.frame }

instance : Renames Env := ⟨Env.renamed⟩

def Frame.renamed (ρ : Renaming) (f : Frame) : Frame :=
  { f with outer := f.outer.map ρ.frame, starts := ρ.on f.starts, values := ρ.on f.values }

instance : Renames Frame := ⟨Frame.renamed⟩

def Context.renamed (ρ : Renaming) (c : Context) : Context :=
  { c with parent := ρ.on c.parent, vars := ρ.on c.vars, escape := c.escape.map ρ.escape }

instance : Renames Context := ⟨Context.renamed⟩

def Macro.renamed (ρ : Renaming) (m : Macro) : Macro := { m with env := ρ.on m.env, escape := ρ.on m.escape }

instance : Renames Macro := ⟨Macro.renamed⟩

def LoopFn.renamed (ρ : Renaming) (f : LoopFn) : LoopFn := { f with env := ρ.on f.env }

instance : Renames LoopFn := ⟨LoopFn.renamed⟩

def Iter.renamed (ρ : Renaming) : Iter → Iter
  | .items typeName rest => .items typeName (ρ.on rest)
  | .growing list index => .growing (ρ.object list) index
  | .backward list left => .backward (ρ.object list) left
  | .entries dict kind size left place last => .entries (ρ.object dict) kind size left place (ρ.on last)
  | .guarded typeName owner size rest => .guarded typeName (ρ.on owner) size (ρ.on rest)
  | .counting next stride left => .counting next stride left
  | .turns loop => .turns (ρ.object loop)
  | .blocks => .blocks
  | .tested source started env target test =>
    .tested (ρ.on source) (started.map fun s => (ρ.object s.1, ρ.on s.2)) (ρ.on env) target test
  | .sifted id env args named source seen =>
    .sifted id (ρ.on env) (ρ.on args) (ρ.on named) (source.map ρ.object) (ρ.on seen)
  | .leaking m bound => .leaking (ρ.on m) (ρ.on bound)

instance : Renames Iter := ⟨Iter.renamed⟩

def Loop.renamed (ρ : Renaming) (l : Loop) : Loop :=
  { l with
    iterable := ρ.on l.iterable, source := ρ.object l.source, fn := l.fn.map ρ.object, ahead := ρ.on l.ahead,
    before := ρ.on l.before, current := ρ.on l.current, lastChanged := ρ.on l.lastChanged }

instance : Renames Loop := ⟨Loop.renamed⟩

def Module.renamed (ρ : Renaming) (m : Module) : Module := { m with exports := ρ.on m.exports }

instance : Renames Module := ⟨Module.renamed⟩

def Object.renamed (ρ : Renaming) : Object → Object
  | .list items => .list (ρ.on items)
  | .dict entries insists => .dict (ρ.on entries) insists
  | .set items => .set (ρ.on items)
  | .namespace entries => .namespace (ρ.on entries)
  | .loop l => .loop (ρ.on l)
  | .iter it => .iter (ρ.on it)
  | .macroFn m => .macroFn (ρ.on m)
  | .loopFn f => .loopFn (ρ.on f)
  | .module m => .module (ρ.on m)

instance : Renames Object := ⟨Object.renamed⟩

theorem renamedAll_eq_map (ρ : Renaming) (vs : List Value) : renamedAll ρ vs = vs.map ρ.on := by
  induction vs with
  | nil => rfl
  | cons v vs ih => simp [renamedAll, ih, Renaming.on, Renames.renamed]

namespace Renaming

variable (ρ : Renaming)

theorem object_eq {r q : Ref} : ρ.object r = ρ.object q ↔ r = q := ρ.object_mono.injective.eq_iff

@[simp] theorem frame_le {r q : Ref} : ρ.frame r ≤ ρ.frame q ↔ r ≤ q := ρ.frame_mono.le_iff_le

@[simp] theorem object_beq (r q : Ref) : (ρ.object r == ρ.object q) = (r == q) := by
  rw [Bool.eq_iff_iff]
  simp [object_eq]

@[simp] theorem context_beq (r q : Ref) : (ρ.context r == ρ.context q) = (r == q) := by
  rw [Bool.eq_iff_iff]
  simp [ρ.context_mono.injective.eq_iff]

section Containers

variable {α β κ : Type}

@[simp] theorem on_inert [Inert α] (a : α) : ρ.on a = a := Inert.renamed_self ρ a

@[simp] theorem map_inert [Inert α] (xs : List α) : xs.map ρ.on = xs := by
  induction xs with
  | nil => rfl
  | cons x xs ih => rw [List.map_cons, on_inert, ih]

@[simp] theorem option_map_inert [Inert α] (x : Option α) : x.map ρ.on = x := by
  cases x <;> simp

variable [Renames α] [Renames β]

@[simp] theorem on_list_eq (xs : List α) : ρ.on xs = xs.map ρ.on := rfl

@[simp] theorem on_option_eq (x : Option α) : ρ.on x = x.map ρ.on := rfl

theorem on_some (a : α) : ρ.on (some a) = some (ρ.on a) := rfl

@[simp] theorem on_pair (a : α) (b : β) : ρ.on (a, b) = (ρ.on a, ρ.on b) := rfl

@[simp] theorem on_fst (p : α × β) : (ρ.on p).1 = ρ.on p.1 := rfl

@[simp] theorem on_snd (p : α × β) : (ρ.on p).2 = ρ.on p.2 := rfl

theorem on_table (t : Table κ α) : ρ.on t = t.mapValues ρ.on := rfl

end Containers

section Fields

theorem env_scopes (env : Env) : (ρ.on env).scopes = env.scopes := rfl

theorem env_dropping (env : Env) : (ρ.on env).dropping = env.dropping.map ρ.frame := rfl

theorem frame_base (f : Frame) : (ρ.on f).base = f.base := rfl

theorem frame_outer (f : Frame) : (ρ.on f).outer = f.outer.map ρ.frame := rfl

theorem frame_parent (f : Frame) : (ρ.on f).parent = f.parent := rfl

theorem context_vars (c : Context) : (ρ.on c).vars = c.vars.mapValues ρ.on := rfl

theorem context_parent (c : Context) : (ρ.on c).parent = c.parent.mapValues ρ.on := rfl

theorem context_escape (c : Context) : (ρ.on c).escape = c.escape.map ρ.escape := rfl

theorem context_blocks (c : Context) : (ρ.on c).blocks = c.blocks := rfl

theorem module_exports (m : Module) : (ρ.on m).exports = m.exports.mapValues ρ.on := rfl

theorem macro_name (m : Macro) : (ρ.on m).name = m.name := rfl

theorem loopFn_test (f : LoopFn) : (ρ.on f).test = f.test := rfl

theorem loop_fn (l : Loop) : (ρ.on l).fn = l.fn.map ρ.object := rfl

theorem loop_ahead (l : Loop) : (ρ.on l).ahead = l.ahead.map ρ.on := rfl

theorem loop_before (l : Loop) : (ρ.on l).before = l.before.map ρ.on := rfl

theorem loop_length (l : Loop) : (ρ.on l).length = l.length := rfl

theorem loop_lastChanged (l : Loop) : (ρ.on l).lastChanged = l.lastChanged.map ρ.on := rfl

end Fields

end Renaming

end Stencil.Engine
