import Stencil.Failure
import Stencil.Proofs.Sorting
import Mathlib.Tactic

/-!
# Reading and writing settings

A configuration is read from entries exactly if each key names a field and each value is of the field's kind. It is then
the defaults with the given values in their places, whatever the order of the entries, and reading what it writes gives it
back. Otherwise the failure names all the keys that are no fields, in order, or else the first entry whose value is not of
its field's kind; only where that value holds a number with too many digits to be written does the failure name nothing.
-/

set_option autoImplicit false

namespace Stencil.Config

/-! ## The fields -/

inductive Kind where
  | flag
  | count
  | text
  | texts

namespace Kind

def Admits : Kind → Data → Prop
  | flag, d => ∃ b, d = .bool b
  | count, d => ∃ n : Int, 1 ≤ n ∧ d = .int n
  | text, d => ∃ s, s ≠ "" ∧ d = .text s
  | texts, d => ∃ ss : List String, d = .list (ss.map .text)

def wanted : Kind → String
  | flag => "bool"
  | count => "positive int"
  | text => "non-empty string"
  | texts => "list of strings"

def fault : Kind → String → Data → Fault
  | flag => .notBool
  | count => .notPositive
  | text => .notText
  | texts => .notTexts

theorem message_fault (k : Kind) (key : String) (value : Data) :
    (k.fault key value).message = key ++ ": expected " ++ k.wanted ++ ", got " ++ value.spelled := by
  cases k <;> rfl

theorem isUntold_fault (k : Kind) (key : String) (value : Data) : (k.fault key value).isUntold = value.hasTooLong := by
  cases k <;> simp [fault, Fault.isUntold, Fault.shown]

theorem ofConfig_fault (k : Kind) (inFile : Bool) (key : String) (value : Data) :
    Failure.ofConfig inFile (k.fault key value) =
      if value.hasTooLong then .mishap .badValue
      else if inFile then .configFile (k.fault key value) else .config (k.fault key value) := by
  rw [← isUntold_fault k key value]
  cases k <;> rfl

end Kind

structure Field where
  key : String
  kind : Kind
  default : Data

def fields : List Field :=
  [⟨"templates", .text, .text "templates"⟩, ⟨"data", .texts, ofTexts []⟩, ⟨"plugins", .texts, ofTexts ["render_block"]⟩,
    ⟨"autoescape", .flag, .bool false⟩, ⟨"strict_undefined", .flag, .bool false⟩, ⟨"trim_blocks", .flag, .bool false⟩,
    ⟨"lstrip_blocks", .flag, .bool false⟩, ⟨"keep_trailing_newline", .flag, .bool true⟩, ⟨"cache_size", .count, .int 400⟩]

theorem knownKeys_eq : knownKeys = fields.map Field.key := rfl

/-- Fields with one key are one field. -/
theorem fields_key_inj {f g : Field} (hf : f ∈ fields) (hg : g ∈ fields) (same : f.key = g.key) : f = g := by
  have distinct : (fields.map Field.key).Nodup := by decide
  exact List.inj_on_of_nodup_map distinct hf hg same

theorem admits_default {f : Field} (hf : f ∈ fields) : f.kind.Admits f.default := by
  have text : Kind.text.Admits (.text "templates") := ⟨_, by decide, rfl⟩
  have texts (ss : List String) : Kind.texts.Admits (ofTexts ss) := ⟨ss, rfl⟩
  have flag (b : Bool) : Kind.flag.Admits (.bool b) := ⟨b, rfl⟩
  have count : Kind.count.Admits (.int 400) := ⟨400, by decide, rfl⟩
  simp only [fields, List.mem_cons, List.not_mem_nil, or_false] at hf
  rcases hf with rfl | rfl | rfl | rfl | rfl | rfl | rfl | rfl | rfl
  case inl => exact text
  case inr.inl | inr.inr.inl => exact texts _
  case inr.inr.inr.inr.inr.inr.inr.inr => exact count
  all_goals exact flag _

def get (c : Config) : String → Data
  | "templates" => .text c.templates
  | "data" => ofTexts c.dataFiles
  | "plugins" => ofTexts c.plugins
  | "autoescape" => .bool c.autoescape
  | "strict_undefined" => .bool c.strictUndefined
  | "trim_blocks" => .bool c.trimBlocks
  | "lstrip_blocks" => .bool c.lstripBlocks
  | "keep_trailing_newline" => .bool c.keepTrailingNewline
  | "cache_size" => .int c.cacheSize
  | _ => .null

theorem toEntries_eq (c : Config) : c.toEntries = fields.map fun f => (.text f.key, c.get f.key) := rfl

theorem get_default {f : Field} (hf : f ∈ fields) : get {} f.key = f.default := by
  simp only [fields, List.mem_cons, List.not_mem_nil, or_false] at hf
  rcases hf with rfl | rfl | rfl | rfl | rfl | rfl | rfl | rfl | rfl <;> rfl

theorem ofTexts_inj {ss ts : List String} (h : ofTexts ss = ofTexts ts) : ss = ts := by
  apply List.map_injective_iff.mpr (fun s t same => Data.text.inj same)
  exact Data.list.inj h

/-- A configuration is known by the values of its settings. -/
theorem ext_get {c d : Config} (h : ∀ f ∈ fields, c.get f.key = d.get f.key) : c = d := by
  simp only [fields, List.forall_mem_cons, get] at h
  obtain ⟨templates, dataFiles, plugins, autoescape, strict, trim, lstrip, keep, size, -⟩ := h
  have sameData := ofTexts_inj dataFiles
  have samePlugins := ofTexts_inj plugins
  cases c
  cases d
  simp_all

/-! ## One entry -/

def Reads {α : Type} (kind : Kind) (write : α → Data) (read : String → Data → Except Fault α) : Prop :=
  ∀ key value, (kind.Admits value ∧ ∃ a, value = write a ∧ read key value = .ok a) ∨
    (¬ kind.Admits value ∧ read key value = .error (kind.fault key value))

theorem reads_readBool : Reads .flag .bool readBool := by
  intro key value
  cases value with
  | bool b => exact .inl ⟨⟨b, rfl⟩, b, rfl, rfl⟩
  | _ => exact .inr ⟨by simp [Kind.Admits], rfl⟩

theorem reads_readPositive : Reads .count (fun n : Nat => .int n) readPositive := by
  intro key value
  cases value with
  | int n =>
    by_cases positive : 1 ≤ n
    · have whole : ((n.toNat : Nat) : Int) = n := Int.toNat_of_nonneg (by omega)
      exact .inl ⟨⟨n, positive, rfl⟩, n.toNat, by simp [whole], by simp [readPositive, positive]⟩
    · refine .inr ⟨?_, by simp [readPositive, positive, Kind.fault]⟩
      rintro ⟨m, hm, same⟩
      cases same
      exact positive hm
  | _ => exact .inr ⟨by simp [Kind.Admits], rfl⟩

theorem reads_readText : Reads .text .text readText := by
  intro key value
  cases value with
  | text s =>
    by_cases empty : s = ""
    · refine .inr ⟨?_, by simp [readText, empty, Kind.fault]⟩
      rintro ⟨t, ht, same⟩
      cases same
      exact ht empty
    · exact .inl ⟨⟨s, empty, rfl⟩, s, rfl, by simp [readText, empty]⟩
  | _ => exact .inr ⟨by simp [Kind.Admits], rfl⟩

theorem texts?_eq_some_iff {items : List Data} {ss : List String} : texts? items = some ss ↔ items = ss.map .text := by
  induction items generalizing ss with
  | nil => cases ss <;> simp [texts?]
  | cons d items ih =>
    cases d with
    | text s => cases ss <;> simp [texts?, ih, and_comm]
    | _ => cases ss <;> simp [texts?]

theorem reads_readTexts : Reads .texts ofTexts readTexts := by
  intro key value
  cases value with
  | list items =>
    cases found : texts? items with
    | some ss =>
      have shape : Data.list items = ofTexts ss := by rw [ofTexts, texts?_eq_some_iff.mp found]
      exact .inl ⟨⟨ss, shape⟩, ss, shape, by simp [readTexts, found]⟩
    | none =>
      refine .inr ⟨?_, by simp [readTexts, found, Kind.fault]⟩
      rintro ⟨ss, same⟩
      rw [texts?_eq_some_iff.mpr (Data.list.inj same)] at found
      cases found
  | _ => exact .inr ⟨by simp [Kind.Admits], rfl⟩

/-- Setting a field changes its value and no other, if the value is of the field's kind. -/
theorem set_field (c : Config) {field : Field} (known : field ∈ fields) (value : Data) :
    (field.kind.Admits value ∧ ∃ c', c.set field.key value = .ok c' ∧
      ∀ f ∈ fields, c'.get f.key = if f.key = field.key then value else c.get f.key) ∨
    (¬ field.kind.Admits value ∧ c.set field.key value = .error (field.kind.fault field.key value)) := by
  have step {α : Type} {kind : Kind} {write : α → Data} {read : String → Data → Except Fault α} (reads : Reads kind write read)
      (key : String) (put : α → Config)
      (change : c.set key value = (read key value).map put)
      (effect : ∀ a, ∀ f ∈ fields, (put a).get f.key = if f.key = key then write a else c.get f.key) :
      (kind.Admits value ∧ ∃ c', c.set key value = .ok c' ∧
        ∀ f ∈ fields, c'.get f.key = if f.key = key then value else c.get f.key) ∨
      (¬ kind.Admits value ∧ c.set key value = .error (kind.fault key value)) := by
    rcases reads key value with ⟨admitted, a, rfl, done⟩ | ⟨refused, failed⟩
    · exact .inl ⟨admitted, put a, by rw [change, done]; rfl, effect a⟩
    · exact .inr ⟨refused, by rw [change, failed]; rfl⟩
  simp only [fields, List.mem_cons, List.not_mem_nil, or_false] at known
  rcases known with rfl | rfl | rfl | rfl | rfl | rfl | rfl | rfl | rfl
  · exact step reads_readText _ (fun v => { c with templates := v }) rfl (by simp [fields, get])
  · exact step reads_readTexts _ (fun v => { c with dataFiles := v }) rfl (by simp [fields, get])
  · exact step reads_readTexts _ (fun v => { c with plugins := v }) rfl (by simp [fields, get])
  · exact step reads_readBool _ (fun v => { c with autoescape := v }) rfl (by simp [fields, get])
  · exact step reads_readBool _ (fun v => { c with strictUndefined := v }) rfl (by simp [fields, get])
  · exact step reads_readBool _ (fun v => { c with trimBlocks := v }) rfl (by simp [fields, get])
  · exact step reads_readBool _ (fun v => { c with lstripBlocks := v }) rfl (by simp [fields, get])
  · exact step reads_readBool _ (fun v => { c with keepTrailingNewline := v }) rfl (by simp [fields, get])
  · exact step reads_readPositive _ (fun v => { c with cacheSize := v }) rfl (by simp [fields, get])

/-! ## All entries -/

def texted (es : List (String × Data)) : List (Data × Data) := es.map fun e => (.text e.1, e.2)

def Settles (e : String × Data) : Prop := ∃ f ∈ fields, f.key = e.1 ∧ f.kind.Admits e.2

theorem settingKey?_text (s : String) : settingKey? (.text s) = if s ∈ fields.map Field.key then some s else none := by
  rw [← knownKeys_eq]
  simp [settingKey?]

theorem setAll_field (c : Config) {f : Field} (known : f ∈ fields) (value : Data) (rest : List (Data × Data)) :
    c.setAll ((.text f.key, value) :: rest) = (c.set f.key value >>= fun c' => c'.setAll rest) := by
  rw [setAll, settingKey?_text, if_pos (List.mem_map_of_mem known)]

/-- Entries that all settle a field put their values in the places of the old ones. -/
theorem setAll_settled (c : Config) {es : List (String × Data)} (distinct : (es.map Prod.fst).Nodup)
    (settled : ∀ e ∈ es, Settles e) :
    ∃ c', c.setAll (texted es) = .ok c' ∧ ∀ f ∈ fields, c'.get f.key = (es.lookup f.key).getD (c.get f.key) := by
  induction es generalizing c with
  | nil => exact ⟨c, rfl, by simp⟩
  | cons e es ih =>
    obtain ⟨key, value⟩ := e
    obtain ⟨field, known, rfl, admitted⟩ := settled (key, value) (by simp)
    rw [List.map_cons, List.nodup_cons] at distinct
    rcases set_field c known value with ⟨-, c₁, set, changed⟩ | ⟨refused, -⟩
    · obtain ⟨c', done, final⟩ := ih c₁ distinct.2 fun e he => settled e (by simp [he])
      refine ⟨c', by rw [texted, List.map_cons, setAll_field c known, set]; exact done, ?_⟩
      intro f hf
      rw [final f hf, changed f hf, List.lookup_cons]
      by_cases here : f.key = field.key
      · have gone : es.lookup field.key = none := by
          rw [List.lookup_eq_none_iff]
          intro e he
          have other : field.key ≠ e.1 := by
            intro same
            exact distinct.1 (List.mem_map.mpr ⟨e, he, same.symm⟩)
          simpa using other
        simp [here, gone]
      · have different : (f.key == field.key) = false := by simpa using here
        simp [here, different]
    · exact absurd admitted refused

theorem setAll_ill (c : Config) {before after : List (String × Data)} {field : Field} {value : Data}
    (settled : ∀ e ∈ before, Settles e) (known : field ∈ fields) (ill : ¬ field.kind.Admits value) :
    c.setAll (texted (before ++ (field.key, value) :: after)) = .error (field.kind.fault field.key value) := by
  induction before generalizing c with
  | nil =>
    rw [List.nil_append, texted, List.map_cons, setAll_field c known]
    rcases set_field c known value with ⟨admitted, -⟩ | ⟨-, failed⟩
    · exact absurd admitted ill
    · rw [failed]
      rfl
  | cons e before ih =>
    obtain ⟨key, one⟩ := e
    obtain ⟨f, hf, rfl, admitted⟩ := settled (key, one) (by simp)
    rw [List.cons_append, texted, List.map_cons, setAll_field c hf]
    rcases set_field c hf one with ⟨-, c₁, set, -⟩ | ⟨refused, -⟩
    · rw [set]
      exact ih c₁ fun e he => settled e (by simp [he])
    · exact absurd admitted refused

def strangers (es : List (String × Data)) : List String := (es.map Prod.fst).filter fun k => k ∉ fields.map Field.key

theorem settled_or_ill {es : List (String × Data)} (known : strangers es = []) :
    (∀ e ∈ es, Settles e) ∨ ∃ before field value after, es = before ++ (Field.key field, value) :: after ∧
      (∀ e ∈ before, Settles e) ∧ field ∈ fields ∧ ¬ field.kind.Admits value := by
  induction es with
  | nil => exact .inl (by simp)
  | cons e es ih =>
    obtain ⟨key, value⟩ := e
    rw [strangers, List.map_cons, List.filter_cons] at known
    split at known
    · cases known
    · rename_i field
      obtain ⟨f, hf, rfl⟩ : ∃ f ∈ fields, f.key = key := by simpa using field
      by_cases admitted : f.kind.Admits value
      · have here : Settles (f.key, value) := ⟨f, hf, rfl, admitted⟩
        rcases ih known with settled | ⟨before, field, other, after, rfl, settled, known, ill⟩
        · exact .inl (List.forall_mem_cons.mpr ⟨here, settled⟩)
        · exact .inr ⟨(f.key, value) :: before, field, other, after, rfl, List.forall_mem_cons.mpr ⟨here, settled⟩, known, ill⟩
      · exact .inr ⟨[], f, value, es, rfl, by simp, hf, admitted⟩

theorem strangers_eq_nil {es : List (String × Data)} (settled : ∀ e ∈ es, Settles e) : strangers es = [] := by
  rw [strangers, List.filter_eq_nil_iff]
  intro key hkey
  obtain ⟨e, he, rfl⟩ := List.mem_map.mp hkey
  obtain ⟨f, hf, same, -⟩ := settled e he
  simpa [← same] using ⟨f, hf, rfl⟩

theorem unknown_texted (es : List (String × Data)) :
    ((texted es).map Prod.fst).filter (fun k => (settingKey? k).isNone) = (strangers es).map .text := by
  have keys : (texted es).map Prod.fst = (es.map Prod.fst).map Data.text := by simp [texted]
  rw [keys, List.filter_map, strangers]
  congr 2
  funext key
  by_cases known : key ∈ fields.map Field.key
  · simp [settingKey?_text, known]
  · simp [settingKey?_text, known]

theorem ofEntries_known {es : List (String × Data)} (known : strangers es = []) :
    ofEntries (texted es) = setAll {} (texted es) := by
  rw [ofEntries, unknown_texted, known]
  rfl

theorem ofEntries_unknown {es : List (String × Data)} (unknown : strangers es ≠ []) :
    ∃ keys : List String, ofEntries (texted es) = .error (.unknownKeys (keys.map .text)) ∧ keys.Perm (strangers es) ∧
      keys.Pairwise fun s t => (compare s t).isLE := by
  obtain ⟨keys, sorting, perm, ordered⟩ := sortM_texts (strangers es)
  refine ⟨keys, ?_, perm, ordered⟩
  rw [ofEntries, unknown_texted]
  split
  · rename_i none
    exact absurd (List.map_eq_nil_iff.mp none) unknown
  · rw [sorting]

theorem message_unknownKeys (keys : List String) :
    (Fault.unknownKeys (keys.map .text)).message = "unknown config key(s): " ++ ", ".intercalate keys := by
  show "unknown config key(s): " ++ ", ".intercalate ((keys.map Data.text).map Data.printed) = _
  congr 2
  simp [Function.comp_def, Data.printed]

/-! ## The reader -/

def readSettings (es : List (String × Data)) : Except Failure Config :=
  (ofEntries (texted es)).mapError (Failure.ofConfig false)

def Overlays (es : List (String × Data)) (c : Config) : Prop :=
  c.toEntries = fields.map fun f => (.text f.key, (es.lookup f.key).getD f.default)

inductive Refused (es : List (String × Data)) : Failure → Prop
  | unknown {f : Fault} {keys : List String} (found : strangers es ≠ []) (all : keys.Perm (strangers es))
      (sorted : keys.Pairwise fun s t => (compare s t).isLE)
      (message : f.message = "unknown config key(s): " ++ ", ".intercalate keys) : Refused es (.config f)
  | ill {f : Fault} {before after : List (String × Data)} {field : Field} {value : Data} (known : strangers es = [])
      (split : es = before ++ (field.key, value) :: after) (settled : ∀ e ∈ before, Settles e) (mem : field ∈ fields)
      (wrong : ¬ field.kind.Admits value) (short : value.hasTooLong = false)
      (message : f.message = field.key ++ ": expected " ++ field.kind.wanted ++ ", got " ++ value.spelled) :
      Refused es (.config f)
  -- the value has a number that is too long to be written
  | unspoken {before after : List (String × Data)} {field : Field} {value : Data} (known : strangers es = [])
      (split : es = before ++ (field.key, value) :: after) (settled : ∀ e ∈ before, Settles e) (mem : field ∈ fields)
      (wrong : ¬ field.kind.Admits value) (long : value.hasTooLong = true) : Refused es (.mishap .badValue)

theorem readSettings_settled {es : List (String × Data)} (distinct : (es.map Prod.fst).Nodup)
    (settled : ∀ e ∈ es, Settles e) : ∃ c, readSettings es = .ok c ∧ Overlays es c := by
  obtain ⟨c, done, values⟩ := setAll_settled {} distinct settled
  refine ⟨c, by rw [readSettings, ofEntries_known (strangers_eq_nil settled), done]; rfl, ?_⟩
  rw [Overlays, toEntries_eq]
  apply List.map_congr_left
  intro f hf
  rw [values f hf, get_default hf]

theorem readSettings_refused {es : List (String × Data)} (refused : ¬ ∀ e ∈ es, Settles e) :
    ∃ failure, readSettings es = .error failure ∧ Refused es failure := by
  by_cases known : strangers es = []
  · obtain ⟨before, field, value, after, split, settled, mem, ill⟩ := (settled_or_ill known).resolve_left refused
    have failed : readSettings es = .error (Failure.ofConfig false (field.kind.fault field.key value)) := by
      rw [readSettings, ofEntries_known known, split, setAll_ill {} settled mem ill]
      rfl
    refine ⟨_, failed, ?_⟩
    rw [Kind.ofConfig_fault]
    cases long : value.hasTooLong with
    | true => exact .unspoken known split settled mem ill long
    | false => exact .ill known split settled mem ill long (Kind.message_fault _ _ _)
  · obtain ⟨keys, failed, perm, sorted⟩ := ofEntries_unknown known
    have spoken : (Fault.unknownKeys (keys.map .text)).isUntold = false := by
      simp [Fault.isUntold, Fault.shown, Data.hasTooLong]
    refine ⟨.config (.unknownKeys (keys.map .text)), ?_, .unknown known perm sorted (message_unknownKeys keys)⟩
    rw [readSettings, failed]
    simp [Except.mapError, Failure.ofConfig, spoken]

theorem lookup_eq_some_iff_mem {es : List (String × Data)} (distinct : (es.map Prod.fst).Nodup) {key : String}
    {value : Data} : es.lookup key = some value ↔ (key, value) ∈ es := by
  rw [List.lookup_eq_some_iff]
  constructor
  · rintro ⟨before, after, rfl, -⟩
    simp
  · intro mem
    obtain ⟨before, after, rfl⟩ := List.append_of_mem mem
    refine ⟨before, after, rfl, ?_⟩
    intro e he
    rw [List.map_append, List.map_cons, List.nodup_append] at distinct
    have other := distinct.2.2 e.1 (List.mem_map_of_mem he) key (by simp)
    simpa using other.symm

theorem Overlays.of_perm {es es' : List (String × Data)} {c : Config} (perm : es'.Perm es)
    (distinct : (es.map Prod.fst).Nodup) (overlays : Overlays es' c) : Overlays es c := by
  have distinct' : (es'.map Prod.fst).Nodup := (perm.map Prod.fst).nodup_iff.mpr distinct
  have same (key : String) : es'.lookup key = es.lookup key := by
    ext value
    rw [lookup_eq_some_iff_mem distinct', lookup_eq_some_iff_mem distinct, perm.mem_iff]
  simpa only [Overlays, same] using overlays

theorem Overlays.get_eq {es : List (String × Data)} {c : Config} (overlays : Overlays es c) {f : Field} (hf : f ∈ fields) :
    c.get f.key = (es.lookup f.key).getD f.default := by
  rw [Overlays, toEntries_eq, List.map_inj_left] at overlays
  exact (Prod.mk.inj (overlays f hf)).2

theorem Overlays.unique {es : List (String × Data)} {c d : Config} (hc : Overlays es c) (hd : Overlays es d) : c = d := by
  apply ext_get
  intro f hf
  rw [hc.get_eq hf, hd.get_eq hf]

/-- What a configuration writes is of the kinds of the fields, if what it was read from was. -/
theorem Overlays.settles {es : List (String × Data)} {c : Config} (distinct : (es.map Prod.fst).Nodup)
    (settled : ∀ e ∈ es, Settles e) (overlays : Overlays es c) {f : Field} (hf : f ∈ fields) :
    f.kind.Admits (c.get f.key) := by
  rw [overlays.get_eq hf]
  cases found : es.lookup f.key with
  | none => exact admits_default hf
  | some v =>
    obtain ⟨g, hg, same, admitted⟩ := settled _ ((lookup_eq_some_iff_mem distinct).mp found)
    obtain rfl := fields_key_inj hg hf same
    exact admitted

/-- What a configuration writes reads back. -/
theorem readSettings_written {c : Config} (settles : ∀ f ∈ fields, f.kind.Admits (c.get f.key)) :
    (ofEntries c.toEntries).mapError (Failure.ofConfig false) = .ok c := by
  have keys : (fields.map fun f => (f.key, c.get f.key)).map Prod.fst = fields.map Field.key := by simp
  have distinct : ((fields.map fun f => (f.key, c.get f.key)).map Prod.fst).Nodup := by
    rw [keys]
    decide
  have settled : ∀ e ∈ fields.map fun f => (f.key, c.get f.key), Settles e := by
    intro e he
    obtain ⟨f, hf, rfl⟩ := List.mem_map.mp he
    exact ⟨f, hf, rfl, settles f hf⟩
  obtain ⟨d, done, overlays⟩ := readSettings_settled distinct settled
  have same : d = c := by
    apply ext_get
    intro f hf
    rw [overlays.get_eq hf, (lookup_eq_some_iff_mem distinct).mpr (List.mem_map.mpr ⟨f, hf, rfl⟩)]
    rfl
  subst same
  have written : d.toEntries = texted (fields.map fun f => (f.key, d.get f.key)) := by
    rw [toEntries_eq, texted, List.map_map]
    rfl
  rw [written]
  exact done

/-- Settings are read exactly if all are known and of their kinds. The result is the defaults under what is given, in any
order, and reads back from what it writes; a refusal names what is wrong, unless it would have to write a number that is too
long. -/
theorem settings_read_exactly (es : List (String × Data)) (distinct : (es.map Prod.fst).Nodup) :
    ((∃ c, readSettings es = .ok c) ↔ ∀ e ∈ es, Settles e) ∧
      (∀ c, readSettings es = .ok c → Overlays es c ∧ (∀ es', es'.Perm es → readSettings es' = .ok c) ∧
        (ofEntries c.toEntries).mapError (Failure.ofConfig false) = .ok c) ∧
      ∀ failure, readSettings es = .error failure → Refused es failure := by
  by_cases settled : ∀ e ∈ es, Settles e
  · obtain ⟨c, done, overlays⟩ := readSettings_settled distinct settled
    refine ⟨iff_of_true ⟨c, done⟩ settled, ?_, ?_⟩
    · intro c' done'
      obtain rfl : c = c' := Except.ok.inj (done.symm.trans done')
      refine ⟨overlays, ?_, readSettings_written fun f hf => overlays.settles distinct settled hf⟩
      intro es' perm
      have distinct' : (es'.map Prod.fst).Nodup := (perm.map Prod.fst).nodup_iff.mpr distinct
      obtain ⟨d, read, other⟩ := readSettings_settled distinct' fun e he => settled e (perm.mem_iff.mp he)
      obtain rfl : d = c := (other.of_perm perm distinct).unique overlays
      exact read
    · intro failure failed
      cases done.symm.trans failed
  · obtain ⟨failure, failed, refused⟩ := readSettings_refused settled
    refine ⟨iff_of_false ?_ settled, ?_, ?_⟩
    · rintro ⟨c, done⟩
      cases done.symm.trans failed
    · intro c done
      cases done.symm.trans failed
    · intro failure' failed'
      cases failed.symm.trans failed'
      exact refused

theorem settings_read_exactly_backwards :
    ([("cache_size", Data.int 1), ("templates", Data.text "t")].map Prod.fst).Nodup ∧
      ∃ c, readSettings [("cache_size", .int 1), ("templates", .text "t")] = .ok c ∧
        Overlays [("cache_size", .int 1), ("templates", .text "t")] c ∧
        readSettings [("templates", .text "t"), ("cache_size", .int 1)] = .ok c := by
  have distinct : ([("cache_size", Data.int 1), ("templates", Data.text "t")].map Prod.fst).Nodup := by decide
  obtain ⟨accepted, result, -⟩ := settings_read_exactly _ distinct
  obtain ⟨c, done⟩ := accepted.mpr (by
    rw [List.forall_mem_cons, List.forall_mem_singleton]
    exact ⟨⟨⟨"cache_size", .count, .int 400⟩, by simp [fields], rfl, 1, by decide, rfl⟩,
      ⟨"templates", .text, .text "templates"⟩, by simp [fields], rfl, "t", by decide, rfl⟩)
  obtain ⟨overlays, anyOrder, -⟩ := result c done
  exact ⟨distinct, c, done, overlays, anyOrder _ (List.Perm.swap _ _ _)⟩

end Stencil.Config
