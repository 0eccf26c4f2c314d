import Stencil.Proofs.Delivery
import Stencil.Proofs.Keys.Reading
import Mathlib.Data.List.Induction

/-!
# Variables from many sources

The variables of a run are written source by source: the configured data files, the given ones, and the bindings. Every key
has the value that the last source with it gives, whole; it stands where it first occurred, and as it was first spelled. If a
file cannot be loaded, the first such one is told.
-/

set_option autoImplicit false

namespace Stencil.Variables

open Data (IsMapping put put_of_mem put_of_not_mem)

/-! ## Entries written one after the other -/

structure Written (all vars : List (Data × Data)) : Prop where
  order : vars.map (fun e => e.1.identity) = (all.map fun e => e.1.identity).eraseDups
  spelling : ∀ e ∈ vars, ∃ before v after, all = before ++ (e.1, v) :: after ∧ ∀ d ∈ before, d.1.identity ≠ e.1.identity
  value : ∀ e ∈ vars, ∃ before key after, all = before ++ (key, e.2) :: after ∧ key.identity = e.1.identity ∧
    ∀ d ∈ after, d.1.identity ≠ e.1.identity

variable {all vars : List (Data × Data)}

theorem Written.mem_iff (h : Written all vars) (i : Identity) :
    i ∈ vars.map (fun e => e.1.identity) ↔ i ∈ all.map fun e => e.1.identity := by
  rw [h.order, List.mem_eraseDups]

theorem Written.spelling_concat (h : Written all vars) {e : Data × Data} (old : e ∈ vars) (new : Data × Data) :
    ∃ before v after, all ++ [new] = before ++ (e.1, v) :: after ∧ ∀ d ∈ before, d.1.identity ≠ e.1.identity := by
  obtain ⟨before, v, after, rfl, first⟩ := h.spelling e old
  exact ⟨before, v, after ++ [new], by simp, first⟩

theorem Written.value_concat (h : Written all vars) {e : Data × Data} (old : e ∈ vars) {new : Data × Data}
    (apart : new.1.identity ≠ e.1.identity) :
    ∃ before key after, all ++ [new] = before ++ (key, e.2) :: after ∧ key.identity = e.1.identity ∧
      ∀ d ∈ after, d.1.identity ≠ e.1.identity := by
  obtain ⟨before, key, after, rfl, same, last⟩ := h.value e old
  refine ⟨before, key, after ++ [new], by simp, same, ?_⟩
  simp only [List.mem_append, List.mem_singleton, or_imp, forall_and, forall_eq]
  exact ⟨last, apart⟩

/-- A key that is there keeps its place and its spelling. -/
theorem Written.put_known (h : Written all vars) (mapping : IsMapping vars) {key : Data} (file : key.isFileKey = true)
    (value : Data) (known : key.identity ∈ vars.map fun e => e.1.identity) :
    Written (all ++ [(key, value)]) (put key value vars) := by
  obtain ⟨before, k, v, after, rfl, same, -, written⟩ := put_of_mem value mapping.keys file known
  have distinct := mapping.distinct
  simp only [List.map_append, List.map_cons, List.nodup_append, List.nodup_cons, List.mem_map, List.mem_cons] at distinct
  have others : ∀ e ∈ before ++ after, key.identity ≠ e.1.identity := by
    intro e he one
    rcases List.mem_append.mp he with front | back
    · exact distinct.2.2 _ ⟨e, front, rfl⟩ k.identity (.inl rfl) (one.symm.trans same.symm)
    · exact distinct.2.1.1 ⟨e, back, one.symm.trans same.symm⟩
  have place : (k, v) ∈ before ++ (k, v) :: after := by simp
  rw [written]
  constructor
  · have there : key.identity ∈ all.map fun e => e.1.identity := (h.mem_iff _).mp known
    have more : (all ++ [(key, value)]).map (fun e => e.1.identity) = all.map (fun e => e.1.identity) ++ [key.identity] := by
      simp
    rw [more, List.eraseDups_append, ← h.order]
    simp [List.removeAll, there]
  · intro e he
    rcases List.mem_append.mp he with front | back
    · exact h.spelling_concat (by simp [front]) _
    · rcases List.mem_cons.mp back with rfl | back
      · exact h.spelling_concat place (key, value)
      · exact h.spelling_concat (by simp [back]) _
  · intro e he
    rcases List.mem_append.mp he with front | back
    · exact h.value_concat (by simp [front]) (others e (by simp [front]))
    · rcases List.mem_cons.mp back with rfl | back
      · exact ⟨all, key, [], rfl, same.symm, by simp⟩
      · exact h.value_concat (by simp [back]) (others e (by simp [back]))

/-- A new key stands behind the others. -/
theorem Written.put_fresh (h : Written all vars) (mapping : IsMapping vars) {key : Data} (file : key.isFileKey = true)
    (value : Data) (fresh : key.identity ∉ vars.map fun e => e.1.identity) :
    Written (all ++ [(key, value)]) (put key value vars) := by
  have unseen : key.identity ∉ all.map fun e => e.1.identity := mt (h.mem_iff _).mpr fresh
  rw [put_of_not_mem value mapping.keys file fresh]
  constructor
  · rw [List.map_append, List.map_append, List.eraseDups_append, h.order]
    simp [List.removeAll, unseen, List.eraseDups_cons]
  · intro e he
    rcases List.mem_append.mp he with old | new
    · exact h.spelling_concat old _
    · rw [List.mem_singleton.mp new]
      exact ⟨all, value, [], rfl, fun d hd same => unseen (List.mem_map.mpr ⟨d, hd, same⟩)⟩
  · intro e he
    rcases List.mem_append.mp he with old | new
    · exact h.value_concat old fun same => fresh (List.mem_map.mpr ⟨e, old, same.symm⟩)
    · rw [List.mem_singleton.mp new]
      exact ⟨all, key, [], rfl, rfl, by simp⟩

/-- Entries that are written one after the other. -/
theorem written_foldl (all : List (Data × Data)) (proper : ∀ e ∈ all, e.1.isFileKey = true) :
    Written all (merge [] all) ∧ IsMapping (merge [] all) := by
  induction all using List.reverseRecOn with
  | nil => exact ⟨⟨rfl, by simp [merge], by simp [merge]⟩, .nil⟩
  | append_singleton all e ih =>
    obtain ⟨h, mapping⟩ := ih fun d hd => proper d (List.mem_append_left _ hd)
    have file : e.1.isFileKey = true := proper e (by simp)
    have step : merge [] (all ++ [e]) = put e.1 e.2 (merge [] all) := by
      simp [merge]
    rw [step]
    refine ⟨?_, mapping.put file e.2⟩
    by_cases known : e.1.identity ∈ (merge [] all).map fun e => e.1.identity
    · exact h.put_known mapping file e.2 known
    · exact h.put_fresh mapping file e.2 known

/-! ## Sources -/

structure Merged (sources : List (List (Data × Data))) (vars : List (Data × Data)) : Prop where
  order : vars.map (fun e => e.1.identity) = (sources.flatten.map fun e => e.1.identity).eraseDups
  spelling : ∀ e ∈ vars, ∃ before v after, sources.flatten = before ++ (e.1, v) :: after ∧
    ∀ d ∈ before, d.1.identity ≠ e.1.identity
  value : ∀ e ∈ vars, ∃ earlier source later key, sources = earlier ++ source :: later ∧ (key, e.2) ∈ source ∧
    key.identity = e.1.identity ∧ ∀ s ∈ later, ∀ d ∈ s, d.1.identity ≠ e.1.identity

theorem exists_source {α : Type} {sources : List (List α)} {before after : List α} {a : α}
    (h : sources.flatten = before ++ a :: after) :
    ∃ earlier source later, sources = earlier ++ source :: later ∧ a ∈ source ∧ ∀ s ∈ later, ∀ b ∈ s, b ∈ after := by
  induction sources generalizing before with
  | nil => simp at h
  | cons source sources ih =>
    rw [List.flatten_cons, List.append_eq_append_iff] at h
    rcases h with ⟨more, rfl, rest⟩ | ⟨more, rfl, rest⟩
    · obtain ⟨earlier, one, later, rfl, inside, behind⟩ := ih rest
      exact ⟨source :: earlier, one, later, rfl, inside, behind⟩
    · cases more with
      | nil =>
        have start : sources.flatten = [] ++ a :: after := rest.symm
        obtain ⟨earlier, one, later, rfl, inside, behind⟩ := ih start
        exact ⟨_ :: earlier, one, later, rfl, inside, behind⟩
      | cons b more =>
        cases rest
        refine ⟨[], _, sources, rfl, by simp, ?_⟩
        intro s hs b hb
        exact List.mem_append_right _ (List.mem_flatten_of_mem hs hb)

theorem merge_flatten (sources : List (List (Data × Data))) (known : List (Data × Data)) :
    sources.foldl merge known = merge known sources.flatten := by
  unfold merge
  rw [List.foldl_flatten]

theorem merged_foldl {sources : List (List (Data × Data))} (proper : ∀ s ∈ sources, ∀ e ∈ s, e.1.isFileKey = true) :
    Merged sources (sources.foldl merge []) := by
  have file : ∀ e ∈ sources.flatten, e.1.isFileKey = true := by
    intro e he
    obtain ⟨s, hs, inside⟩ := List.mem_flatten.mp he
    exact proper s hs e inside
  obtain ⟨h, -⟩ := written_foldl sources.flatten file
  rw [merge_flatten]
  refine ⟨h.order, h.spelling, ?_⟩
  intro e he
  obtain ⟨before, key, after, split, same, last⟩ := h.value e he
  obtain ⟨earlier, source, later, rfl, inside, behind⟩ := exists_source split
  exact ⟨earlier, source, later, key, rfl, inside, same, fun s hs d hd => last d (behind s hs d hd)⟩

/-! ## Loading -/

inductive Loads (files : FileTree) : Yaml.Session → List Path → List (List (Data × Data)) → Yaml.Session → Prop
  | nil (session : Yaml.Session) : Loads files session [] [] session
  | cons {session next last : Yaml.Session} {path : Path} {rest : List Path} {source : List (Data × Data)}
      {sources : List (List (Data × Data))} (one : DataFile.loadIn session files path = .ok (source, next))
      (more : Loads files next rest sources last) : Loads files session (path :: rest) (source :: sources) last

variable {files : FileTree} {session last : Yaml.Session} {paths : List Path} {sources : List (List (Data × Data))}

theorem Loads.isMapping (h : Loads files session paths sources last) : ∀ s ∈ sources, IsMapping s := by
  induction h with
  | nil session => simp
  | cons one more ih =>
    intro s hs
    rcases List.mem_cons.mp hs with rfl | hs
    · exact DataFile.isMapping_of_loadIn one
    · exact ih s hs

/-- Every row of files loads, or has a first file that does not. -/
theorem loads_or_fails (files : FileTree) (session : Yaml.Session) (paths : List Path) :
    (∃ sources last, Loads files session paths sources last) ∨
      ∃ before path after sources last failure, paths = before ++ path :: after ∧
        Loads files session before sources last ∧ DataFile.loadIn last files path = .error failure := by
  induction paths generalizing session with
  | nil => exact .inl ⟨[], session, .nil session⟩
  | cons path rest ih =>
    cases one : DataFile.loadIn session files path with
    | error failure => exact .inr ⟨[], path, rest, [], session, failure, rfl, .nil session, one⟩
    | ok loaded =>
      obtain ⟨source, next⟩ := loaded
      rcases ih next with ⟨sources, last, more⟩ | ⟨before, bad, after, sources, last, failure, rfl, more, fails⟩
      · exact .inl ⟨source :: sources, last, .cons one more⟩
      · exact .inr ⟨path :: before, bad, after, source :: sources, last, failure, rfl, .cons one more, fails⟩

/-- One file is loaded and written over what is known. -/
theorem loadAll_cons {path : Path} {rest : List Path} {next : Yaml.Session} {source known : List (Data × Data)}
    (one : DataFile.loadIn session files path = .ok (source, next)) (log : List LogLine) :
    ∃ log', loadAll files session known (path :: rest) log = loadAll files next (merge known source) rest log' := by
  rw [loadAll, Task.bind_apply, one]
  exact ⟨_, rfl⟩

theorem loadAll_of_loads (h : Loads files session paths sources last) (known : List (Data × Data)) (log : List LogLine) :
    (loadAll files session known paths log).1 = .ok (sources.foldl merge known) := by
  induction h generalizing known log with
  | nil session => rfl
  | cons one more ih =>
    obtain ⟨log', run⟩ := loadAll_cons one log
    rw [run]
    exact ih _ _

theorem loadAll_of_fails {path : Path} {after : List Path} {failure : Failure}
    (h : Loads files session paths sources last) (fails : DataFile.loadIn last files path = .error failure)
    (known : List (Data × Data)) (log : List LogLine) :
    (loadAll files session known (paths ++ path :: after) log).1 = .error failure := by
  induction h generalizing known log with
  | nil session =>
    rw [List.nil_append, loadAll, Task.bind_apply, fails]
    rfl
  | cons one more ih =>
    obtain ⟨log', run⟩ := loadAll_cons one log
    rw [List.cons_append, run]
    exact ih fails _ _

def dataPaths (root : Path) (config : Config) (dataFiles : List String) : List Path :=
  (config.dataFiles.map fun s => root.join (.ofString s)) ++ dataFiles.map .ofString

theorem build_eq (files : FileTree) (root : Path) (config : Config) (dataFiles : List String)
    (bindings : Table String String) :
    (build files root config dataFiles bindings).perform.1 =
      (loadAll files {} [] (dataPaths root config dataFiles) []).1.map (merge · (ofBindings bindings)) := by
  show (build files root config dataFiles bindings []).1 = _
  unfold build dataPaths
  rw [Task.bind_apply]
  rcases loadAll files {} [] _ [] with ⟨_ | _, _⟩ <;> rfl

theorem isFileKey_ofBindings (bindings : Table String String) : ∀ e ∈ ofBindings bindings, e.1.isFileKey = true := by
  intro e he
  obtain ⟨b, -, rfl⟩ := List.mem_map.mp he
  rfl

/-- If all data files load, each of them is a mapping, and the variables are these mappings and the bindings, merged in order;
if not, the run fails for the first file that does not load, and as that file fails. -/
theorem sources_merged_in_order (files : FileTree) (root : Path) (config : Config) (dataFiles : List String)
    (bindings : Table String String) :
    (∀ sources last, Loads files {} (dataPaths root config dataFiles) sources last →
      ∃ vars, (build files root config dataFiles bindings).perform.1 = .ok vars ∧ (∀ s ∈ sources, IsMapping s) ∧
        Merged (sources ++ [ofBindings bindings]) vars) ∧
    ∀ failure, (build files root config dataFiles bindings).perform.1 = .error failure ↔
      ∃ before path after sources last, dataPaths root config dataFiles = before ++ path :: after ∧
        Loads files {} before sources last ∧ DataFile.loadIn last files path = .error failure := by
  have merged {sources : List (List (Data × Data))} {last : Yaml.Session}
      (loads : Loads files {} (dataPaths root config dataFiles) sources last) :
      (build files root config dataFiles bindings).perform.1 = .ok ((sources ++ [ofBindings bindings]).foldl merge []) := by
    rw [build_eq, loadAll_of_loads loads, List.foldl_append]
    rfl
  refine ⟨?_, ?_⟩
  · intro sources last loads
    refine ⟨_, merged loads, loads.isMapping, merged_foldl ?_⟩
    simp only [List.mem_append, List.mem_singleton, or_imp, forall_and, forall_eq]
    exact ⟨fun s hs => (loads.isMapping s hs).keys, isFileKey_ofBindings bindings⟩
  · intro failure
    constructor
    · intro failed
      rcases loads_or_fails files {} (dataPaths root config dataFiles) with
        ⟨sources, last, loads⟩ | ⟨before, path, after, sources, last, other, split, loads, fails⟩
      · cases failed.symm.trans (merged loads)
      · rw [build_eq, split, loadAll_of_fails loads fails] at failed
        cases failed
        exact ⟨before, path, after, sources, last, split, loads, fails⟩
    · rintro ⟨before, path, after, sources, last, split, loads, fails⟩
      rw [build_eq, split, loadAll_of_fails loads fails]
      rfl

def sharing : FileTree :=
  (FileTree.put {} ["a.json"] "\x7b\"k\": \x7b\"y\": 1\x7d\x7d".toUTF8.toList).put ["b.json"]
    "\x7b\"k\": [2]\x7d".toUTF8.toList

theorem first_shared : (match DataFile.loadIn {} sharing ((Path.ofString "/").join (.ofString "a.json")) with
    | .ok ([(.text "k", .map [(.text "y", .int 1)])], ⟨.oneTwo, 2⟩) => true
    | _ => false) = true := by
  decide +kernel

theorem second_shared : (match DataFile.loadIn {} sharing (.ofString "/b.json") with
    | .ok ([(.text "k", .list [.int 2])], ⟨.oneTwo, 2⟩) => true
    | _ => false) = true := by
  decide +kernel

theorem loads_sharing : Loads sharing {} (dataPaths (.ofString "/") { dataFiles := ["a.json"] } ["/b.json"])
    [[(.text "k", .map [(.text "y", .int 1)])], [(.text "k", .list [.int 2])]] {} := by
  have first := first_shared
  have second := second_shared
  split at first
  · next loaded =>
    split at second
    · next loaded' => exact .cons loaded (.cons loaded' (.nil {}))
    · cases second
  · cases first

/-- The key has the value of the second file, and the binding stands behind it. -/
theorem sources_merged_in_order_sharing : ∃ vars,
    (build sharing (.ofString "/") { dataFiles := ["a.json"] } ["/b.json"] ⟨[("x", "s")]⟩).perform.1 = .ok vars ∧
      vars.map (fun e => e.1.identity) = [.text "k", .text "x"] ∧
      ∀ e ∈ vars, e.1.identity = .text "k" → e.2 = .list [.int 2] := by
  obtain ⟨merges, -⟩ := sources_merged_in_order sharing (.ofString "/") { dataFiles := ["a.json"] } ["/b.json"] ⟨[("x", "s")]⟩
  obtain ⟨vars, built, -, merged⟩ := merges _ _ loads_sharing
  refine ⟨vars, built, ?_, ?_⟩
  · rw [merged.order]
    simp [ofBindings, Data.identity, List.eraseDups_cons]
  · intro e he key
    obtain ⟨earlier, source, later, k, split, inside, same, last⟩ := merged.value e he
    rw [key] at same last
    rcases earlier with _ | ⟨a, _ | ⟨b, _ | ⟨c, earlier⟩⟩⟩
    · obtain ⟨rfl, rfl⟩ := List.cons.inj split
      exact absurd rfl (last _ List.mem_cons_self _ List.mem_cons_self)
    · cases split
      exact (Prod.mk.inj (List.mem_singleton.mp inside)).2
    · cases split
      rw [(Prod.mk.inj (List.mem_singleton.mp inside)).1] at same
      simp [Data.identity] at same
    · simp at split

end Stencil.Variables
