import Stencil.Proofs.Block.Passes
import Stencil.Proofs.Caching
import Stencil.Proofs.Initialisation

/-!
# Processors with their plugins and variables

A processor that could be created knows the tags of its plugins, and every later render finds them as they were set
up. The variables of a render are brought to life without a fault, and texts stay what they are.
-/

set_option autoImplicit false

namespace Stencil.Engine

/-! ## Data brought to life -/

section Thawing

variable {α β : Type}

def Builds (objects : Array Object) (e : Eval α) (Q : α → Prop) : Prop :=
  ∃ a objects', Q a ∧ ∀ w : World, w.objects = objects → outcome e w = (.ok a, { w with objects := objects' })

section Builds

variable {objects : Array Object} {e : Eval α} {Q : α → Prop} {R : β → Prop}

theorem Builds.ret {a : α} (h : Q a) : Builds objects (pure a) Q :=
  ⟨a, objects, h, fun _ same => by subst same; rfl⟩

theorem Builds.bind {k : α → Eval β} (he : Builds objects e Q) (hk : ∀ a objects', Q a → Builds objects' (k a) R) :
    Builds objects (e >>= k) R := by
  obtain ⟨a, objects₁, result, first⟩ := he
  obtain ⟨b, objects₂, result', second⟩ := hk a objects₁ result
  exact ⟨b, objects₂, result', fun w same => (outcome_bind_of (first w same)).trans (second _ rfl)⟩

theorem Builds.mono {Q' : α → Prop} (he : Builds objects e Q) (h : ∀ a, Q a → Q' a) : Builds objects e Q' := by
  obtain ⟨a, objects', result, run⟩ := he
  exact ⟨a, objects', h a result, run⟩

theorem Builds.yields {w : World} (h : Builds w.objects e Q) : Yields w e Q := by
  obtain ⟨a, objects', result, run⟩ := h
  exact .of_outcome (run w rfl) result (.objects w objects') rfl

theorem Builds.run_bind {e : Thaw α} {k : α → Thaw β} {labels : Labels} {Q : α × Labels → Prop}
    {R : β × Labels → Prop} (he : Builds objects (e.run labels) Q)
    (hk : ∀ r objects', Q r → Builds objects' ((k r.1).run r.2) R) : Builds objects ((e >>= k).run labels) R := by
  rw [StateT.run_bind]
  exact he.bind hk

theorem builds_liftM (labels : Labels) (he : Builds objects e Q) :
    Builds objects ((liftM e : Thaw α).run labels) fun r => Q r.1 := by
  show Builds objects (e >>= fun a => pure (a, labels)) _
  exact he.bind fun a _ ha => .ret ha

end Builds

theorem builds_alloc (objects : Array Object) (o : Object) : Builds objects (alloc o) fun _ => True :=
  ⟨objects.size, objects.push o, trivial, fun _ same => by subst same; rfl⟩

theorem builds_modifyObject (objects : Array Object) (r : Ref) (u : Object → Object) :
    Builds objects (modifyObject r u) fun _ => True :=
  ⟨(), objects.modify r u, trivial, fun _ same => by subst same; rfl⟩

theorem builds_setLabel (objects : Array Object) (label : Option Nat) (v : Value) (labels : Labels) :
    Builds objects ((setLabel label v).run labels) fun _ => True := by
  cases label with
  | none => exact .ret trivial
  | some l => exact .ret trivial

mutual

/-- Texts stay what they are. -/
theorem builds_thawAs (objects : Array Object) (label : Option Nat) (d : Data) (labels : Labels) :
    Builds objects ((thawAs label d).run labels) fun r => ∀ s, d = .text s → r.1 = .text s := by
  cases d with
  | text s =>
    unfold thawAs
    exact .ret fun _ same => congrArg Value.text (Data.text.inj same)
  | list items =>
    unfold thawAs
    refine (builds_liftM labels (builds_alloc objects _)).run_bind fun r objects₁ _ => ?_
    refine (builds_setLabel objects₁ label _ r.2).run_bind fun r objects₂ _ => ?_
    refine (builds_thawItems objects₂ items r.2).run_bind fun r objects₃ _ => ?_
    refine (builds_liftM r.2 (builds_modifyObject objects₃ _ _)).run_bind fun r objects₄ _ => ?_
    exact .ret fun _ same => by cases same
  | tuple items =>
    unfold thawAs
    refine (builds_thawItems objects items labels).run_bind fun r objects₁ _ => ?_
    exact .ret fun _ same => by cases same
  | set items =>
    unfold thawAs
    refine (builds_thawItems objects items labels).run_bind fun r objects₁ _ => ?_
    refine (builds_liftM r.2 (builds_alloc objects₁ _)).run_bind fun r objects₂ _ => ?_
    refine (builds_setLabel objects₂ label _ r.2).run_bind fun r objects₃ _ => ?_
    exact .ret fun _ same => by cases same
  | map entries | ordered entries =>
    unfold thawAs
    refine (builds_liftM labels (builds_alloc objects _)).run_bind fun r objects₁ _ => ?_
    refine (builds_setLabel objects₁ label _ r.2).run_bind fun r objects₂ _ => ?_
    refine (builds_thawEntries objects₂ entries r.2).run_bind fun r objects₃ _ => ?_
    refine (builds_liftM r.2 (builds_modifyObject objects₃ _ _)).run_bind fun r objects₄ _ => ?_
    exact .ret fun _ same => by cases same
  | labelled l d =>
    unfold thawAs
    show Builds objects ((labelled? l >>= _ : Thaw Value).run labels) _
    refine Builds.run_bind (Q := fun r => r.2 = labels) (.ret rfl) fun r objects₁ _ => ?_
    obtain ⟨found, labels'⟩ := r
    cases found with
    | some v => exact .ret fun _ same => by cases same
    | none => exact (builds_thawAs objects₁ (some l) d labels').mono fun _ _ _ same => by cases same
  | _ =>
    unfold thawAs
    exact .ret fun _ same => by cases same

theorem builds_thawItems (objects : Array Object) (items : List Data) (labels : Labels) :
    Builds objects ((thawItems items).run labels) fun _ => True := by
  cases items with
  | nil =>
    unfold thawItems
    exact .ret trivial
  | cons d rest =>
    unfold thawItems
    refine (builds_thawAs objects none d labels).run_bind fun r objects₁ _ => ?_
    refine (builds_thawItems objects₁ rest r.2).run_bind fun r objects₂ _ => ?_
    exact .ret trivial

theorem builds_thawEntries (objects : Array Object) (entries : List (Data × Data)) (labels : Labels) :
    Builds objects ((thawEntries entries).run labels) fun _ => True := by
  cases entries with
  | nil =>
    unfold thawEntries
    exact .ret trivial
  | cons e rest =>
    obtain ⟨k, d⟩ := e
    unfold thawEntries
    refine (builds_thawAs objects none k labels).run_bind fun r objects₁ _ => ?_
    refine (builds_thawAs objects₁ none d r.2).run_bind fun r objects₂ _ => ?_
    refine (builds_thawEntries objects₂ rest r.2).run_bind fun r objects₃ _ => ?_
    exact .ret trivial

end

end Thawing

end Stencil.Engine

namespace Stencil.Processor

open Engine

def Alive (named : List (String × Data)) (values : List (String × Value)) : Prop :=
  ∀ id, (Table.findEntries? id named.reverse = none → Table.findEntries? id values.reverse = none) ∧
    ∀ s, Table.findEntries? id named.reverse = some (.text s) → Table.findEntries? id values.reverse = some (.text s)

theorem Alive.cons {named : List (String × Data)} {values : List (String × Value)} {id : String} {d : Data} {v : Value}
    (h : Alive named values) (text : ∀ s, d = .text s → v = .text s) : Alive ((id, d) :: named) ((id, v) :: values) := by
  intro other
  rw [List.reverse_cons, List.reverse_cons, Table.findEntries?_append, Table.findEntries?_append]
  cases found : Table.findEntries? other named.reverse with
  | none =>
    rw [(h other).1 found, Option.none_or, Option.none_or]
    by_cases same : id = other
    · rw [Table.findEntries?_cons_self _ same, Table.findEntries?_cons_self _ same]
      exact ⟨fun none => (by cases none), fun s hs => congrArg some (text s (Option.some.inj hs))⟩
    · rw [Table.findEntries?_cons_of_ne _ same, Table.findEntries?_cons_of_ne _ same]
      exact ⟨fun _ => rfl, fun _ hs => by cases hs⟩
  | some d' =>
    refine ⟨fun none => (by cases none), fun s hs => ?_⟩
    rw [(h other).2 s (found.trans hs), Option.some_or]

theorem builds_thawed (objects : Array Object) (named : List (String × Data)) (labels : Labels) :
    Builds objects ((named.mapM fun e => do return (e.1, ← thawAs none e.2) : Thaw (List (String × Value))).run labels)
      fun r => Alive named r.1 := by
  induction named generalizing objects labels with
  | nil => exact .ret fun id => ⟨fun _ => rfl, fun _ hs => by cases hs⟩
  | cons e named ih =>
    rw [List.mapM_cons]
    refine Builds.run_bind (Q := fun r => r.1.1 = e.1 ∧ ∀ s, e.2 = .text s → r.1.2 = .text s) ?_ fun r objects₁ first => ?_
    · exact (builds_thawAs objects none e.2 labels).run_bind fun r _ text => .ret ⟨rfl, text⟩
    · refine (ih objects₁ r.2).run_bind fun r' _ others => .ret ?_
      obtain ⟨⟨id, v⟩, labels'⟩ := r
      obtain ⟨rfl, text⟩ := first
      exact others.cons text

/-- The variables of a render: each name has the last value that is given to it. -/
theorem builds_thawNamed (objects : Array Object) (named : List (String × Data)) :
    Builds objects (thawNamed named) fun vars => ∀ id s, (Table.ofList named).find? id = some (.text s) →
      (globals.update vars).find? id = some (.text s) := by
  refine (builds_thawed objects named []).bind fun r _ alive => .ret fun id s found => ?_
  have unique : (Table.ofList r.1 : Table String Value).keys.Nodup :=
    Table.nodup_keys_insertAll (t := .empty) List.nodup_nil r.1
  rw [Table.find?_ofList] at found
  rw [Table.find?_update unique, Table.find?_ofList, (alive id).2 s found, Option.some_or]

end Stencil.Processor

namespace Stencil.Catalogue

/-! ## Plugins of the catalogue -/

theorem mem_of_follow {whole walked : String} {parent : Option Module} {parts : List String} {m : Module}
    (known : ∀ m ∈ parent, m ∈ modules) (h : follow whole parent walked parts = .ok m) : m ∈ modules := by
  induction parts generalizing parent walked with
  | nil =>
    cases parent with
    | none => cases h
    | some m' =>
      cases h
      exact known m rfl
  | cons part rest ih =>
    unfold follow at h
    dsimp only at h
    split at h
    · cases h
    · next m' _ found => exact ih (fun _ same => Option.some.inj same ▸ List.mem_of_find?_eq_some found) h
    · cases h

def plugins : List Plugin := [renderBlock, upperCase, recording]

def Entry.isListed : Entry → Bool
  | .plugin p => plugins.contains p
  | .outline => true

theorem entries_listed : ∀ m ∈ modules, ∀ e ∈ m.entries, e.2.isListed = true := by decide

theorem mem_of_load {reference : String} {loaded : Loaded} (h : load reference = .ok loaded) : loaded.plugin ∈ plugins := by
  unfold load at h
  generalize ((builtins.find? (·.1 == reference)).map Prod.snd).getD reference = target at h
  dsimp only at h
  split at h
  · cases h
  · split at h
    · cases h
    · cases found : follow (String.ofList (splitReference target).1) none ""
        ((Text.splitText ['.'] (splitReference target).1.length (splitReference target).1).map String.ofList) with
      | error f =>
        rw [found] at h
        cases h
      | ok m =>
        have known : m ∈ modules := mem_of_follow (fun _ none => by cases none) found
        rw [found] at h
        simp only [bind, Except.bind] at h
        split at h
        · next className p entry =>
          cases h
          have listed := entries_listed m known _ (List.mem_of_find?_eq_some entry)
          simpa [Entry.isListed] using listed
        · cases h
        · cases h

def renderTag : Tag := ⟨"render", "render_block", .renderTwice⟩

end Stencil.Catalogue

/-! ## Registered plugins -/

namespace Stencil.Registry

open Catalogue

structure Sound (r : Registry) : Prop where
  fresh : r.initialized = false
  renders : renderBlock ∈ r.plugins → r.getTag? "render" = some renderTag

theorem Sound.register {r r' : Registry} {plugin : Plugin} {log : List LogLine} (h : r.Sound)
    (member : plugin ∈ Catalogue.plugins) (registered : r.register? plugin = some (r', log)) :
    r'.Sound ∧ r'.plugins = r.plugins ++ [plugin] := by
  unfold register? at registered
  split at registered
  · cases registered
  · cases registered
    refine ⟨⟨h.fresh, fun installed => ?_⟩, rfl⟩
    have before (other : plugin ≠ renderBlock) : r.getTag? "render" = some renderTag :=
      h.renders ((List.mem_append.mp installed).resolve_right fun last => other (List.mem_singleton.mp last).symm)
    simp only [Catalogue.plugins, List.mem_cons, List.not_mem_nil, or_false] at member
    rcases member with rfl | rfl | rfl
    · exact Table.find?_insert_self _ _ _
    · exact (Table.find?_insert_of_ne _ _ (by decide)).trans (before (by decide))
    · exact (Table.find?_insert_of_ne _ _ (by decide)).trans (before (by decide))

end Stencil.Registry

namespace Stencil.Processor

open Engine Catalogue

def Installs (c : Config) : Prop := ∃ reference ∈ c.plugins, loadPlugin reference = .ok renderBlock

theorem mem_of_loadPlugin {reference : String} {plugin : Plugin} (h : loadPlugin reference = .ok plugin) :
    plugin ∈ Catalogue.plugins := by
  unfold loadPlugin at h
  cases loaded : Catalogue.load reference with
  | error f =>
    rw [loaded] at h
    cases h
  | ok l =>
    rw [loaded] at h
    cases h
    exact mem_of_load loaded

/-- Registering plugins adds them, and changes nothing but the registry and the log. -/
theorem registerAll_sound {p q : Processor} {references : List String} (sound : p.world.registry.Sound)
    (h : p.registerAll references = (.ok (), q)) :
    q.world.registry.Sound ∧ p.world.registry.plugins ⊆ q.world.registry.plugins ∧
      (∀ reference ∈ references, ∀ plugin, loadPlugin reference = .ok plugin → plugin ∈ q.world.registry.plugins) ∧
      q.world.settings = p.world.settings := by
  induction references generalizing p with
  | nil =>
    cases h
    exact ⟨sound, fun _ h => h, fun _ h => (by cases h), rfl⟩
  | cons reference rest ih =>
    unfold registerAll at h
    cases loaded : loadPlugin reference with
    | error f =>
      rw [loaded] at h
      cases h
    | ok plugin =>
      rw [loaded] at h
      simp only [Except.bind, register] at h
      cases registered : p.world.registry.register? plugin with
      | none =>
        rw [registered] at h
        cases h
      | some result =>
        obtain ⟨registry, log⟩ := result
        rw [registered] at h
        obtain ⟨sound', added⟩ := sound.register (mem_of_loadPlugin loaded) registered
        obtain ⟨soundAll, kept, loadedAll, settings⟩ := ih sound' h
        have grown : registry.plugins ⊆ q.world.registry.plugins := kept
        rw [added] at grown
        refine ⟨soundAll, fun _ old => grown (List.mem_append_left _ old), fun other hother plugin' hplugin => ?_, settings⟩
        rcases List.mem_cons.mp hother with rfl | inRest
        · rw [loaded] at hplugin
          cases hplugin
          exact grown (List.mem_append_right _ (List.mem_singleton.mpr rfl))
        · exact loadedAll other inRest plugin' hplugin

structure Ready (c : Config) (p : Processor) : Prop where
  settings : p.world.settings.escape = c.autoescape ∧ p.world.settings.strict = c.strictUndefined ∧
    p.world.settings.layout = layoutOf c
  found : p.world.registry.getTag? "render" = some renderTag
  connected : p.world.registry.connected.contains renderTag.owner = true
  faithful : p.world.Faithful

theorem ready_of_create {c : Config} {files : FileTree} {root : Option Path} {p : Processor}
    (created : create c files root = .ok p) (installed : Installs c) : Ready c p := by
  have empty := texts_create created
  obtain ⟨b, q, bare, registered, rfl⟩ := registerAll_of_create created
  obtain ⟨reference, named, loaded⟩ := installed
  obtain ⟨folder, world⟩ := world_bare bare
  have sound : b.world.registry.Sound := by
    rw [world]
    exact ⟨rfl, fun h => (by cases h)⟩
  obtain ⟨sound', -, all, same⟩ := registerAll_sound sound registered
  have member := all reference named renderBlock loaded
  have started : q.startUp.world.registry =
      { q.world.registry.connectAll .own q.world.registry.initOrder with initialized := true } := by
    show (q.world.registry.startUp .own).1 = _
    unfold Registry.startUp
    rw [sound'.fresh]
    rfl
  refine ⟨?_, ?_, ?_, .of_empty empty⟩
  · rw [show q.startUp.world.settings = b.world.settings from same, world]
    exact ⟨rfl, rfl, rfl⟩
  · rw [started, Registry.getTag?, Registry.tags_connectAll]
    exact sound'.renders member
  · have named : renderTag.owner ∈ q.world.registry.initOrder.map Plugin.name :=
      List.mem_map.mpr ⟨renderBlock, q.world.registry.initOrder_perm.mem_iff.mpr member, rfl⟩
    have held := q.world.registry.find?_connectAll .own q.world.registry.initOrder renderTag.owner
    rw [if_pos named] at held
    rw [started]
    exact List.contains_iff_mem.mpr (Table.mem_keys_of_find? held)

/-! ## Renders one after the other -/

structure Runs (p : Processor) (w : World) : Prop where
  settings : w.settings = p.world.settings
  registry : w.registry = p.world.registry
  faithful : w.Faithful

theorem Runs.kept {p : Processor} {frames contexts : Ref → Prop} {w w' : World} (change : Change frames contexts w w')
    (h : p.Runs w) : p.Runs w' := by
  obtain ⟨settings, registry, -⟩ := change.fields
  exact ⟨settings.trans h.settings, registry.trans h.registry, change.faithful h.faithful⟩

def steady (p : Processor) : Invariant :=
  .everywhere p.Runs (fun _ => True) (fun _ => True) (fun _ => trivial) Runs.kept

instance (p : Processor) : p.steady.Complete := .of_all (fun _ => trivial) fun _ => trivial

theorem runs_use {p q : Processor} (h : p.Runs q.world) {u : Use} (isRender : u.isRender = true) : p.Runs (q.use u).2.world :=
  holds_use (J := p.steady) h isRender

/-- Renders leave a processor as it was set up. -/
theorem runs_after {p q : Processor} (h : p.Runs q.world) {uses : List Use} (renders : ∀ u ∈ uses, u.isRender = true) :
    p.Runs (q.after uses).world := by
  induction uses generalizing q with
  | nil => exact h
  | cons u rest ih =>
    exact ih (runs_use h (renders u List.mem_cons_self)) fun u hu => renders u (List.mem_cons_of_mem _ hu)

theorem exists_default : ∃ p : Processor, create {} {} none = .ok p := by
  obtain ⟨p, created, -⟩ := exists_created
    (show (create {} {} none).toOption.map (fun _ => ()) = some () by decide +kernel)
  exact ⟨p, created⟩

/-! ## The top of a text -/

def topEnv : Env :=
  { script := .text ⟨none, none, [], [], false⟩, context := 0, frame := 0, scopes := [⟨0, ⟨[("loop", .resolve)]⟩, []⟩],
    escape := ⟨true, false⟩, top := true }

def topWorld (w : World) (v : String) : World :=
  { w with
    contexts := #[⟨none, ⟨[("x", .text v)]⟩, {}, [], {}, some 0⟩]
    escapes := #[.bool true]
    frames := #[⟨0, none, {}, {}, none⟩]
    depth := 1 }

/-- At the top of a text the first pass over a block around a text gives that text. -/
theorem outcome_firstPass_top (w : World) (v text : String) :
    ∃ vars w₁, outcome (firstPass (interp 5) topEnv renderTag "" ([.output [.fixed text none]] ++ [.collect])) (topWorld w v) =
      (.ok (.safe text, vars), w₁) ∧ Decided topEnv w₁ true := by
  have decided : Decided topEnv (topWorld w v) true := ⟨_, 0, rfl, rfl, rfl⟩
  obtain ⟨vars, objects, f, first⟩ := outcome_firstPass_fixed (k := 3) renderTag text rfl rfl decided
    (show 1 + 15 ≤ 985 by decide)
  exact ⟨vars, _, first, decided⟩

end Stencil.Processor
