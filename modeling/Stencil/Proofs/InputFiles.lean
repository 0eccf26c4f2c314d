import Mathlib
import Stencil.Variables

/-!
# Files that are read before a run

What is wrong with the configuration file or with a data file is told to the user in a sentence. This is so for every
content but a few, and those are listed here with the failures that they give.
-/

set_option autoImplicit false

namespace Stencil

namespace Task

variable {α : Type}

theorem perform_ofExcept (r : Except Failure α) : (ofExcept r).perform.1 = r := by
  cases r <;> rfl

theorem perform_decode_bind (bytes : List UInt8) (k : String → Task α) :
    (decode bytes >>= k).perform.1 = match FileTree.decodeText bytes with
      | .ok source => (k source).perform.1
      | .error f => .error (.undecodable f) := by
  rw [decode]
  cases FileTree.decodeText bytes <;> rfl

end Task

/-! ## The configuration file -/

namespace Config

theorem set_ne_unsortable (c : Config) (key : String) (value : Data) : c.set key value ≠ .error .unsortableKeys := by
  have bool (k : Bool → Config) : (readBool key value).map k ≠ .error .unsortableKeys := by
    cases value <;> simp [readBool, Except.map]
  have text : (readText key value).map (fun v => { c with templates := v }) ≠ .error .unsortableKeys := by
    cases value <;> simp only [readText] <;> (try split) <;> simp [Except.map]
  have texts (k : List String → Config) : (readTexts key value).map k ≠ .error .unsortableKeys := by
    cases value <;> simp only [readTexts] <;> (try split) <;> simp [Except.map]
  have positive : (readPositive key value).map (fun v => { c with cacheSize := v }) ≠ .error .unsortableKeys := by
    cases value <;> simp only [readPositive] <;> (try split) <;> simp [Except.map]
  unfold set
  split
  case h_1 => exact text
  case h_2 | h_3 => exact texts _
  case h_9 => exact positive
  case h_10 => simp
  all_goals exact bool _

theorem setAll_ne_unsortable (c : Config) (entries : List (Data × Data)) :
    c.setAll entries ≠ .error .unsortableKeys := by
  induction entries generalizing c with
  | nil => simp [setAll]
  | cons e rest ih =>
    obtain ⟨k, v⟩ := e
    rw [setAll]
    cases settingKey? k with
    | none => simp
    | some key =>
      show (c.set key v >>= fun c' => c'.setAll rest) ≠ _
      cases changed : c.set key v with
      | error f =>
        intro same
        exact set_ne_unsortable c key v (changed.trans same)
      | ok c' => exact ih c'

def unknownKeys (entries : List (Data × Data)) : List Data :=
  (entries.map Prod.fst).filter fun k => (settingKey? k).isNone

theorem ofEntries_unsortable_iff (entries : List (Data × Data)) :
    ofEntries entries = .error .unsortableKeys ↔ sortM (Data.related .lt) (unknownKeys entries) = none := by
  unfold ofEntries
  split
  · next none =>
    rw [show unknownKeys entries = [] from none]
    exact iff_of_false (setAll_ne_unsortable {} entries) (by decide)
  · cases sorted : sortM (Data.related .lt) (unknownKeys entries) <;> simp [show sortM _ (List.filter _ _) = _ from sorted]

def Holds (source : String) (entries : List (Data × Data)) : Prop :=
  ∃ d session, Yaml.read {} source.toList = .ok (d, session) ∧ (d.plain = .map entries ∨ d.plain = .ordered entries)

inductive Unspoken (bytes : List UInt8) : Failure → Prop
  | undecodable {f : Text.DecodeFault} (broken : FileTree.decodeText bytes = .error f) : Unspoken bytes (.undecodable f)
  | unsortable {source : String} {entries : List (Data × Data)} (text : FileTree.decodeText bytes = .ok source)
    (holds : Holds source entries) (disorder : sortM (Data.related .lt) (unknownKeys entries) = none) :
    Unspoken bytes (.mishap .wrongType)
  | digits {source : String} {entries : List (Data × Data)} {f : Fault} (text : FileTree.decodeText bytes = .ok source)
    (holds : Holds source entries) (refused : ofEntries entries = .error f) (long : f.isUntold = true) :
    Unspoken bytes (.mishap .badValue)

def Told (failure : Failure) : Prop :=
  ∃ f, failure = .configFile f ∧ failure.userMessage? = some ("rerender.yaml: " ++ f.message)

theorem told_configFile (f : Fault) : Told (.configFile f) := ⟨f, rfl, rfl⟩

/-- Of the faults of a map of settings, those without a sentence are the two that `Unspoken` names. -/
theorem told_ofConfig_or {entries : List (Data × Data)} {f : Fault} (refused : ofEntries entries = .error f) :
    Told (Failure.ofConfig true f) ∨
      (Failure.ofConfig true f = .mishap .wrongType ∧ sortM (Data.related .lt) (unknownKeys entries) = none) ∨
      (Failure.ofConfig true f = .mishap .badValue ∧ f.isUntold = true) := by
  by_cases disorder : f = .unsortableKeys
  · subst disorder
    exact .inr (.inl ⟨rfl, (ofEntries_unsortable_iff entries).mp refused⟩)
  · have kind : Failure.ofConfig true f = if f.isUntold then .mishap .badValue else .configFile f := by
      cases f <;> first | rfl | exact absurd rfl disorder
    rw [kind]
    by_cases long : f.isUntold = true
    · rw [if_pos long]
      exact .inr (.inr ⟨rfl, long⟩)
    · rw [if_neg long]
      exact .inl (told_configFile f)

section Load

variable {bytes : List UInt8}

def Readable (source : String) : Prop := ∀ m, Yaml.read {} source.toList ≠ .error (.mishap m)

theorem ofText_of_holds {source : String} {entries : List (Data × Data)} (holds : Holds source entries) :
    ofText source = (ofEntries entries).mapError (Failure.ofConfig true) := by
  obtain ⟨d, session, read, map | ordered⟩ := holds
  · simp only [ofText, read, map]
  · simp only [ofText, read, ordered]

/-- What is wrong with a text that can be read is told, unless it is `Unspoken`. -/
theorem told_ofText_or {source : String} {failure : Failure} (text : FileTree.decodeText bytes = .ok source)
    (readable : Readable source) (failed : ofText source = .error failure) : Told failure ∨ Unspoken bytes failure := by
  unfold ofText at failed
  split at failed
  · cases failed
    exact .inl (told_configFile _)
  · next m read => exact absurd read (readable m)
  · next d session read =>
    have settings {entries : List (Data × Data)} (holds : Holds source entries)
        (failed : (ofEntries entries).mapError (Failure.ofConfig true) = .error failure) :
        Told failure ∨ Unspoken bytes failure := by
      cases refused : ofEntries entries with
      | ok c =>
        rw [refused] at failed
        cases failed
      | error f =>
        rw [refused] at failed
        cases failed
        rcases told_ofConfig_or refused with told | ⟨kind, disorder⟩ | ⟨kind, long⟩
        · exact .inl told
        · exact .inr (kind ▸ .unsortable text holds disorder)
        · exact .inr (kind ▸ .digits text holds refused long)
    split at failed
    · cases failed
    · next entries map => exact settings ⟨d, session, read, .inl map⟩ failed
    · next entries ordered => exact settings ⟨d, session, read, .inr ordered⟩ failed
    · cases failed
      exact .inl (told_configFile _)

theorem Unspoken.not_told {failure : Failure} (h : Unspoken bytes failure) : ¬ Told failure := by
  rintro ⟨f, same, -⟩
  cases h <;> cases same

/-- The failure of a content that is `Unspoken` is the one it names. -/
theorem Unspoken.ofBytes {failure : Failure} (h : Unspoken bytes failure) :
    (Task.decode bytes >>= fun source => Task.ofExcept (ofText source)).perform.1 = .error failure := by
  rw [Task.perform_decode_bind]
  cases h with
  | undecodable broken => simp only [broken]
  | unsortable text holds disorder =>
    simp only [text]
    rw [Task.perform_ofExcept, ofText_of_holds holds, (ofEntries_unsortable_iff _).mpr disorder]
    rfl
  | digits text holds refused long =>
    simp only [text]
    rw [Task.perform_ofExcept, ofText_of_holds holds, refused]
    rename_i f
    have other : f ≠ .unsortableKeys := by
      rintro rfl
      cases long
    show Except.error (Failure.ofConfig true f) = _
    cases f <;> first | exact absurd rfl other | exact congrArg _ (if_pos long)

/-- The failures of a file's content that are not told are those that `Unspoken` lists. -/
theorem load_untold_iff {files : FileTree} {root path : Path} {revision : Nat} {failure : Failure}
    (place : filePath? files.cwd root = some path) (content : files.content path = .ok (bytes, revision))
    (readable : ∀ source, FileTree.decodeText bytes = .ok source → Readable source) :
    ((load files root).perform.1 = .error failure ∧ ¬ Told failure) ↔ Unspoken bytes failure := by
  have opened : load files root = Task.decode bytes >>= fun source => Task.ofExcept (ofText source) := by
    simp only [load, place, content]
  rw [opened]
  refine ⟨fun ⟨failed, untold⟩ => ?_, fun h => ⟨h.ofBytes, h.not_told⟩⟩
  rw [Task.perform_decode_bind] at failed
  cases text : FileTree.decodeText bytes with
  | error f =>
    rw [text] at failed
    cases failed
    exact .undecodable text
  | ok source =>
    simp only [text, Task.perform_ofExcept] at failed
    exact (told_ofText_or text (readable source text) failed).resolve_left untold

end Load

end Config

/-! ## Data files -/

namespace DataFile

inductive Unspoken (files : FileTree) (path : Path) : Failure → Prop
  | tooLong (beyond : files.content path = .error .tooLong) : Unspoken files path (.mishap .system)
  | undecodable {bytes : List UInt8} {revision : Nat} {format : DataFormat} {f : Text.DecodeFault}
    (content : files.content path = .ok (bytes, revision)) (kind : DataFormat.ofSuffix? (lowerSuffix path) = some format)
    (broken : FileTree.decodeText bytes = .error f) : Unspoken files path (.undecodable f)

structure Readable (files : FileTree) (path : Path) : Prop where
  unlocked : ∀ refusal, files.content path ≠ .error (.refused refusal)
  reader : ∀ bytes revision format source, files.content path = .ok (bytes, revision) →
    DataFormat.ofSuffix? (lowerSuffix path) = some format → FileTree.decodeText bytes = .ok source →
    ∀ m, parse {} format path source ≠ .error (.mishap m)

def Told (failure : Failure) : Prop := ∃ f, failure = .data f

theorem told_parse {session : Yaml.Session} {format : DataFormat} {path : Path} {source : String} {failure : Failure}
    (copes : ∀ m, parse session format path source ≠ .error (.mishap m))
    (failed : parse session format path source = .error failure) : Told failure := by
  rw [failed] at copes
  cases format with
  | json =>
    simp only [parse] at failed
    split at failed
    · cases failed
    · cases failed
      exact ⟨_, rfl⟩
    · cases failed
      exact absurd rfl (copes _)
  | yaml =>
    simp only [parse] at failed
    cases read : Yaml.read session source.toList with
    | ok r =>
      rw [read] at failed
      cases failed
    | error f =>
      rw [read] at failed
      cases f with
      | invalid =>
        cases failed
        exact ⟨_, rfl⟩
      | mishap m =>
        cases failed
        exact absurd rfl (copes m)

theorem told_entries {path : Path} {d : Data} {failure : Failure} (failed : entries path d = .error failure) :
    Told failure := by
  unfold entries at failed
  split at failed
  case h_4 =>
    cases failed
    exact ⟨_, rfl⟩
  all_goals cases failed

theorem not_told_mishap (m : Mishap) : ¬ Told (.mishap m) := fun ⟨_, same⟩ => by cases same

theorem not_told_undecodable (f : Text.DecodeFault) : ¬ Told (.undecodable f) := fun ⟨_, same⟩ => by cases same

theorem load_untold_iff {files : FileTree} {path : Path} {failure : Failure} (readable : Readable files path) :
    (load files path = .error failure ∧ ¬ Told failure) ↔ Unspoken files path failure := by
  constructor
  · rintro ⟨failed, untold⟩
    unfold load loadIn at failed
    cases content : files.content path with
    | error fault =>
      rw [content] at failed
      cases fault with
      | tooLong =>
        cases failed
        exact .tooLong content
      | refused refusal => exact absurd content (readable.unlocked refusal)
      | missing | notADirectory | nullCharacter =>
        cases failed
        exact absurd ⟨_, rfl⟩ untold
    | ok found =>
      obtain ⟨bytes, revision⟩ := found
      simp only [content] at failed
      cases kind : DataFormat.ofSuffix? (lowerSuffix path) with
      | none =>
        rw [kind] at failed
        cases failed
        exact absurd ⟨_, rfl⟩ untold
      | some format =>
        simp only [kind] at failed
        cases text : FileTree.decodeText bytes with
        | error f =>
          rw [text] at failed
          cases failed
          exact .undecodable content kind text
        | ok source =>
          rw [text] at failed
          refine absurd ?_ untold
          cases parsed : parse {} format path source with
          | error f =>
            simp only [Except.mapError, bind, Except.bind, parsed] at failed
            cases failed
            exact told_parse (readable.reader bytes revision format source content kind text) parsed
          | ok r =>
            simp only [Except.mapError, bind, Except.bind, parsed] at failed
            cases listed : entries path r.1 with
            | error f =>
              rw [listed] at failed
              cases failed
              exact told_entries listed
            | ok es =>
              rw [listed] at failed
              cases failed
  · rintro (beyond | ⟨content, kind, broken⟩)
    · refine ⟨?_, not_told_mishap .system⟩
      simp only [load, loadIn, beyond]
      rfl
    · refine ⟨?_, not_told_undecodable _⟩
      simp only [load, loadIn, content, kind, broken]
      rfl

end DataFile

/-- Input files are read, or what is wrong with them is told, with the exceptions that `Config.Unspoken` and
`DataFile.Unspoken` list: those fail in just the way they say. -/
theorem inputs_told_unless_unspoken (files : FileTree) (failure : Failure) :
    (∀ (root path : Path) (bytes : List UInt8) (revision : Nat),
      Config.filePath? files.cwd root = some path → files.content path = .ok (bytes, revision) →
      (∀ source, FileTree.decodeText bytes = .ok source → Config.Readable source) →
      (((Config.load files root).perform.1 = .error failure ∧ ¬ Config.Told failure) ↔
        Config.Unspoken bytes failure)) ∧
    ∀ path : Path, DataFile.Readable files path →
      ((DataFile.load files path = .error failure ∧ ¬ DataFile.Told failure) ↔
        DataFile.Unspoken files path failure) :=
  ⟨fun _ _ _ _ place content readable => Config.load_untold_iff place content readable,
    fun _ readable => DataFile.load_untold_iff readable⟩

theorem read_one : (match Yaml.read {} "1".toList with
    | .ok (d, _) => (match d.plain with | .int n => n == 1 | _ => false)
    | .error _ => false) = true := by
  decide +kernel

/-- A configuration that is a number is refused with a sentence, one that is no text without any; and what is no text
is no data file either. -/
theorem inputs_told_unless_unspoken_bytes :
    (∀ failure, (Config.load (FileTree.put {} ["rerender.yaml"] [0x31]) (.ofString "/")).perform.1 = .error failure →
      Config.Told failure) ∧
    (Config.load (FileTree.put {} ["rerender.yaml"] [0xff]) (.ofString "/")).perform.1 =
      .error (.undecodable ⟨0xff, 0, 0, .invalidStart⟩) ∧
    DataFile.load (FileTree.put {} ["d.json"] [0xff]) (.ofString "/d.json") =
      .error (.undecodable ⟨0xff, 0, 0, .invalidStart⟩) := by
  have number : FileTree.decodeText [0x31] = .ok "1" := rfl
  have noText : FileTree.decodeText [0xff] = .error ⟨0xff, 0, 0, .invalidStart⟩ := rfl
  have place : Config.filePath? [] (.ofString "/") = some (.ofString "/rerender.yaml") := by decide +kernel
  have scalar := read_one
  refine ⟨fun failure failed => Classical.byContradiction fun untold => ?_, ?_, ?_⟩
  · have readable : ∀ source, FileTree.decodeText [0x31] = .ok source → Config.Readable source := by
      intro source text m read
      rw [number] at text
      cases text
      rw [read] at scalar
      cases scalar
    have noMap {source : String} {entries : List (Data × Data)} (text : FileTree.decodeText [0x31] = .ok source)
        (holds : Config.Holds source entries) : False := by
      rw [number] at text
      cases text
      obtain ⟨d, session, read, map | ordered⟩ := holds
      · simp only [read, map] at scalar
        cases scalar
      · simp only [read, ordered] at scalar
        cases scalar
    obtain ⟨config, -⟩ := inputs_told_unless_unspoken (FileTree.put {} ["rerender.yaml"] [0x31]) failure
    have unspoken := (config _ (.ofString "/rerender.yaml") [0x31] 1 place rfl readable).mp
      ⟨failed, untold⟩
    cases unspoken with
    | undecodable broken => cases number.symm.trans broken
    | unsortable text holds => exact noMap text holds
    | digits text holds => exact noMap text holds
  · have readable : ∀ source, FileTree.decodeText [0xff] = .ok source → Config.Readable source :=
      fun source text => by cases noText.symm.trans text
    obtain ⟨config, -⟩ := inputs_told_unless_unspoken (FileTree.put {} ["rerender.yaml"] [0xff])
      (.undecodable ⟨0xff, 0, 0, .invalidStart⟩)
    exact ((config _ (.ofString "/rerender.yaml") [0xff] 1 place rfl readable).mpr (.undecodable noText)).1
  · have content : (FileTree.put {} ["d.json"] [0xff]).content (.ofString "/d.json") = .ok ([0xff], 1) := rfl
    have readable : DataFile.Readable (FileTree.put {} ["d.json"] [0xff]) (.ofString "/d.json") := by
      refine ⟨fun _ locked => (by cases content.symm.trans locked), fun bytes revision format source found _ text => ?_⟩
      cases content.symm.trans found
      cases noText.symm.trans text
    have kind : DataFormat.ofSuffix? (DataFile.lowerSuffix (.ofString "/d.json")) = some .json := by decide +kernel
    obtain ⟨-, data⟩ := inputs_told_unless_unspoken (FileTree.put {} ["d.json"] [0xff])
      (.undecodable ⟨0xff, 0, 0, .invalidStart⟩)
    exact ((data _ readable).mpr (.undecodable content kind noText)).1

end Stencil
