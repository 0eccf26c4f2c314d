import Mathlib
import Stencil.Command.Perform
import Stencil.Proofs.Delivery
import Stencil.Proofs.Json.ReadBack
import Stencil.Proofs.Utf8

/-!
# Data stored as JSON

Data of the kinds that the format has is written unless it is nested too deep or holds a number with too many digits, and
what is written is read back as it was: by the check of a result, from a data file, and where the names of a listing
are put out. No line ends in such a text, so a file that holds it is read as it stands.
-/

set_option autoImplicit false

namespace Stencil.Json

/-! ## Writing -/

inductive Told {α : Type} (deep long : Prop) (good : α → Prop) : Except Mishap α → Prop
  | done {a : α} : ¬ deep → ¬ long → good a → Told deep long good (.ok a)
  | deep : deep → Told deep long good (.error .tooDeep)
  | long : long → Told deep long good (.error .badValue)

namespace Told

variable {α β : Type} {deep deep' long long' : Prop} {good : α → Prop} {good' : β → Prop}

theorem bind {x : Except Mishap α} {next : α → Except Mishap β} (first : Told deep long good x)
    (second : ∀ a, good a → Told deep' long' good' (next a)) :
    Told (deep ∨ deep') (long ∨ long') good' (x >>= next) := by
  cases first with
  | @done a shallow short well =>
    have then' := second a well
    show Told _ _ _ (next a)
    generalize next a = outcome at then' ⊢
    cases then' with
    | done shallow' short' well' => exact .done (not_or.mpr ⟨shallow, shallow'⟩) (not_or.mpr ⟨short, short'⟩) well'
    | deep h => exact .deep (.inr h)
    | long h => exact .long (.inr h)
  | deep h => exact .deep (.inl h)
  | long h => exact .long (.inl h)

theorem map {x : Except Mishap α} {f : α → β} (told : Told deep long good x) (well : ∀ a, ¬ deep → good a → good' (f a)) :
    Told deep long good' (x >>= fun a => pure (f a)) := by
  cases told with
  | done shallow short h => exact .done shallow short (well _ shallow h)
  | deep h => exact .deep h
  | long h => exact .long h

theorem ok_of_not {x : Except Mishap α} (told : Told deep long good x) (shallow : ¬ deep) (short : ¬ long) :
    ∃ a, x = .ok a ∧ good a := by
  cases told with
  | done _ _ h => exact ⟨_, rfl, h⟩
  | deep h => exact absurd h shallow
  | long h => exact absurd h short

theorem error_of {x : Except Mishap α} (told : Told deep long good x) (limit : deep ∨ long) :
    x = .error .tooDeep ∨ x = .error .badValue := by
  cases told with
  | done shallow short _ => exact absurd limit (not_or.mpr ⟨shallow, short⟩)
  | deep _ => exact .inl rfl
  | long _ => exact .inr rfl

end Told

def Faithful (depth : Nat) (d : Data) (s : String) : Prop := ReadsBack depth d s.toList ∧ '\r' ∉ s.toList

def EntryFaithful (depth : Nat) (m : String × Data) (s : String) : Prop := EntryReadsBack depth m s.toList ∧ '\r' ∉ s.toList

theorem not_mem_escapedChar (c : Char) : '\r' ∉ escapedChar false c := by
  rcases escapedChar_cases c with ⟨e, written, -, -, other⟩ | ⟨written, -⟩ | ⟨written, -, -, high⟩
  · simp [written, other.symm]
  · rw [written, unicodeEscape, List.mem_append, not_or]
    exact ⟨by decide, fun digit => absurd (Text.isDigitOf_of_mem_hexDigits digit) (by decide)⟩
  · rw [written, List.mem_singleton]
    rintro rfl
    exact high (by decide)

theorem not_mem_writeText (s : String) : '\r' ∉ (writeText false s).toList := by
  rw [toList_writeText]
  simp [not_mem_escapedChar]

theorem not_mem_intText (n : Int) : '\r' ∉ (Number.intText n).toList := by
  have digits : '\r' ∉ Number.digitsOf n.natAbs := fun h => absurd (Number.isDigit_of_mem_digitsOf h) (by decide)
  rw [Number.intText]
  split <;> simp [digits]

theorem not_mem_intercalate {parts : List (List Char)} (all : ∀ p ∈ parts, '\r' ∉ p) : '\r' ∉ separator.intercalate parts := by
  induction parts with
  | nil => exact List.not_mem_nil
  | cons part parts ih =>
    have first := all part List.mem_cons_self
    have others := ih fun p h => all p (List.mem_cons_of_mem _ h)
    cases parts with
    | nil => simpa using first
    | cons part' parts =>
      rw [List.intercalate_cons_cons]
      simpa [separator, first] using others

theorem inline_parts {α : Type} {good : α → String → Prop} (inline : ∀ a s, good a s → '\r' ∉ s.toList) {as : List α}
    {parts : List String} (all : List.Forall₂ good as parts) : ∀ cs ∈ parts.map String.toList, '\r' ∉ cs := by
  induction all with
  | nil => exact fun cs h => absurd h List.not_mem_nil
  | cons first _ ih => exact List.forall_mem_cons.mpr ⟨inline _ _ first, ih⟩

theorem toList_enclose (depth : Nat) (opening closing : String) (parts : List String) :
    (enclose compact depth opening closing parts).toList =
      opening.toList ++ separator.intercalate (parts.map String.toList) ++ closing.toList := by
  cases parts with
  | nil => simp [enclose]
  | cons part parts => simp [enclose, compact, String.toList_intercalate, separator]

section Writer

variable {n depth : Nat}

theorem writeItems_told {items : List Data} (enough : itemsWeight items ≤ n) (shallow : depth ≤ deepestWritten)
    (each : ∀ d ∈ items, ∀ k, weight d ≤ k →
      Told (deepestWritten < depth + 1 + levels d) (Long d) (Faithful (depth + 1) d) (writeAt compact k (depth + 1) d)) :
    Told (deepestWritten < depth + itemsLevels items) (ItemsLong items) (List.Forall₂ (Faithful (depth + 1)) items)
      (writeItems compact n (depth + 1) items) := by
  induction items generalizing n with
  | nil =>
    obtain ⟨n, rfl⟩ := Nat.exists_eq_succ_of_ne_zero (Nat.ne_of_gt enough)
    exact .done (Nat.not_lt.mpr shallow) id .nil
  | cons d items ih =>
    rw [itemsWeight] at enough
    obtain ⟨n, rfl⟩ := Nat.exists_eq_succ_of_ne_zero (Nat.ne_of_gt (Nat.lt_of_lt_of_le (Nat.succ_pos _) enough))
    have first := each d List.mem_cons_self n (by omega)
    have others := ih (n := n) (by omega) fun d h => each d (List.mem_cons_of_mem _ h)
    have deep : deepestWritten < depth + itemsLevels (d :: items) ↔
        deepestWritten < depth + 1 + levels d ∨ deepestWritten < depth + itemsLevels items := by
      rw [itemsLevels]
      omega
    rw [deep, ItemsLong, writeItems]
    exact first.bind fun s good => others.map fun parts _ all => .cons good all

theorem writeEntries_told {members : List (String × Data)} (enough : entriesWeight (members.map entry) ≤ n)
    (shallow : depth ≤ deepestWritten)
    (each : ∀ m ∈ members, ∀ k, weight m.2 ≤ k →
      Told (deepestWritten < depth + 1 + levels m.2) (Long m.2) (Faithful (depth + 1) m.2) (writeAt compact k (depth + 1) m.2)) :
    Told (deepestWritten < depth + entriesLevels (members.map entry)) (EntriesLong (members.map entry))
      (List.Forall₂ (EntryFaithful (depth + 1)) members) (writeEntries compact n (depth + 1) (members.map entry)) := by
  induction members generalizing n with
  | nil =>
    obtain ⟨n, rfl⟩ := Nat.exists_eq_succ_of_ne_zero (Nat.ne_of_gt enough)
    exact .done (Nat.not_lt.mpr shallow) id .nil
  | cons m members ih =>
    rw [List.map_cons, entry, entriesWeight] at enough
    obtain ⟨n, rfl⟩ := Nat.exists_eq_succ_of_ne_zero (Nat.ne_of_gt (Nat.lt_of_lt_of_le (Nat.succ_pos _) enough))
    have first := each m List.mem_cons_self n (by omega)
    have others := ih (n := n) (by omega) fun m h => each m (List.mem_cons_of_mem _ h)
    have deep : deepestWritten < depth + entriesLevels ((m :: members).map entry) ↔
        deepestWritten < depth + 1 + levels m.2 ∨ deepestWritten < depth + entriesLevels (members.map entry) := by
      rw [List.map_cons, entry, entriesLevels]
      omega
    rw [deep, List.map_cons, entry, EntriesLong, writeEntries]
    refine first.bind fun s good => others.map fun parts _ all => .cons ⟨⟨s.toList, ?_, good.1⟩, ?_⟩ all
    · simp [compact]
    · simpa [compact, good.2] using not_mem_writeText m.1

theorem weight_pos (d : Data) : 0 < weight d := by
  cases d <;> simp [weight]

theorem writeAt_deep (deep : deepestWritten < depth) (d : Data) : writeAt compact (n + 1) depth d = .error .tooDeep := by
  cases d <;> simp only [writeAt, deep, if_true]

/-- It is enough to look at data that does not stand too deep itself. -/
theorem told_of_shallow {d : Data} (enough : weight d ≤ n)
    (told : ∀ k, weight d ≤ k + 1 → depth ≤ deepestWritten →
      Told (deepestWritten < depth + levels d) (Long d) (Faithful depth d) (writeAt compact (k + 1) depth d)) :
    Told (deepestWritten < depth + levels d) (Long d) (Faithful depth d) (writeAt compact n depth d) := by
  obtain ⟨k, rfl⟩ : ∃ k, n = k + 1 := Nat.exists_eq_succ_of_ne_zero (Nat.ne_of_gt ((weight_pos d).trans_le enough))
  by_cases deep : deepestWritten < depth
  · rw [writeAt_deep deep]
    exact .deep (Nat.lt_add_right _ deep)
  · exact told k enough (Nat.not_lt.mp deep)

theorem faithful_list {items : List Data} {parts : List String} (shallow : depth ≤ deepestWritten)
    (all : List.Forall₂ (Faithful (depth + 1)) items parts) :
    Faithful depth (.list items) (enclose compact depth "[" "]" parts) := by
  rw [Faithful, toList_enclose]
  refine ⟨readsBack_list (Nat.lt_of_le_of_lt shallow (by decide)) ?_, ?_⟩
  · exact List.forall₂_map_right_iff.mpr (all.imp fun _ _ h => h.1)
  · simpa using not_mem_intercalate (inline_parts (fun _ _ h => h.2) all)

theorem faithful_map {members : List (String × Data)} {parts : List String} (shallow : depth ≤ deepestWritten)
    (distinct : (members.map Prod.fst).Nodup) (all : List.Forall₂ (EntryFaithful (depth + 1)) members parts) :
    Faithful depth (.map (members.map entry)) (enclose compact depth "\x7b" "\x7d" parts) := by
  rw [Faithful, toList_enclose]
  refine ⟨readsBack_map (Nat.lt_of_le_of_lt shallow (by decide)) distinct ?_, ?_⟩
  · exact List.forall₂_map_right_iff.mpr (all.imp fun _ _ h => h.1)
  · simpa using not_mem_intercalate (inline_parts (fun _ _ h => h.2) all)

/-- Data that the format has is written so that it is read back, unless it is too deep or holds a number too long. -/
theorem writeAt_told {d : Data} (storable : Storable d) (enough : weight d ≤ n) :
    Told (deepestWritten < depth + levels d) (Long d) (Faithful depth d) (writeAt compact n depth d) := by
  induction storable generalizing n depth with
  | null =>
    refine told_of_shallow enough fun k _ shallow => ?_
    rw [writeAt, if_neg (Nat.not_lt.mpr shallow)]
    exact .done (Nat.not_lt.mpr shallow) id ⟨readsBack_null depth, by decide⟩
  | bool b =>
    refine told_of_shallow enough fun k _ shallow => ?_
    rw [writeAt, if_neg (Nat.not_lt.mpr shallow)]
    exact .done (Nat.not_lt.mpr shallow) id ⟨readsBack_bool depth b, by cases b <;> decide⟩
  | int i =>
    refine told_of_shallow enough fun k _ shallow => ?_
    rw [writeAt, if_neg (Nat.not_lt.mpr shallow), writeInt]
    split
    · next long => exact .long long
    · next short =>
      exact .done (Nat.not_lt.mpr shallow) short ⟨readsBack_int depth (Bool.eq_false_iff.mpr short), not_mem_intText i⟩
  | text s =>
    refine told_of_shallow enough fun k _ shallow => ?_
    rw [writeAt, if_neg (Nat.not_lt.mpr shallow)]
    exact .done (Nat.not_lt.mpr shallow) id ⟨readsBack_text depth s, not_mem_writeText s⟩
  | @list items _ ih =>
    refine told_of_shallow enough fun k enough shallow => ?_
    have enough : itemsWeight items ≤ k := by
      rw [weight] at enough
      omega
    rw [writeAt, if_neg (Nat.not_lt.mpr shallow)]
    exact (writeItems_told enough shallow fun d h k more => ih d h more).map fun parts _ all => faithful_list shallow all
  | @map members distinct _ ih =>
    refine told_of_shallow enough fun k enough shallow => ?_
    have enough : entriesWeight (members.map entry) ≤ k := by
      rw [weight] at enough
      omega
    rw [writeAt, if_neg (Nat.not_lt.mpr shallow)]
    exact (writeEntries_told enough shallow fun m h k more => ih m h more).map fun parts _ all =>
      faithful_map shallow distinct all

end Writer

/-! ## Whole texts -/

theorem read_of_readsBack {d : Data} {cs : List Char} (reads : ReadsBack 0 d cs) : read cs = .ok d := by
  obtain ⟨c, tail, front, plain, -, unmarked⟩ := reads.front
  have started : Rest.skipSpace ⟨cs, 0⟩ = ⟨cs, 0⟩ := by
    rw [Rest.skipSpace, Rest.drop, front, List.takeWhile_cons_of_neg (by simp [plain])]
    rfl
  have ends : Ends [] := fun c h => by cases h
  obtain ⟨r, done, left⟩ := reads.read (n := 2 * cs.length + 1) (r := ⟨cs, 0⟩) ends (List.append_nil cs).symm (Nat.lt_succ_self _)
  have ended : r.skipSpace.chars = [] := by rw [Rest.skipSpace, Rest.drop, left]; rfl
  rw [read]
  · simp only [started, done, bind, Except.bind, ended, List.isEmpty_nil, if_true]
  · exact fun rest same => unmarked (List.cons.inj (front.symm.trans same)).1

theorem write_told {d : Data} (storable : Storable d) :
    Told (deepestWritten < levels d) (Long d) (Faithful 0 d) (write compact d) := by
  have told : Told (deepestWritten < 0 + levels d) (Long d) (Faithful 0 d) (write compact d) :=
    writeAt_told storable (Nat.le_refl _)
  rwa [Nat.zero_add] at told

theorem checkJson_of_read {d : Data} {s : String} (reads : read s.toList = .ok d) (target : String) :
    Run.checkJson target s = .ok () := by
  rw [Run.checkJson, reads]

/-- A data file that holds written entries. -/
theorem load_written {files : FileTree} {path : Path} {revision : Nat} {s : String} {entries : List (Data × Data)}
    (held : files.content path = .ok (Text.encodeUtf8 s, revision)) (json : DataFile.lowerSuffix path = ".json")
    (inline : '\r' ∉ s.toList) (reads : read s.toList = .ok (.map entries)) : DataFile.load files path = .ok entries := by
  have format : DataFormat.ofSuffix? (DataFile.lowerSuffix path) = some .json := by rw [json]; rfl
  rw [DataFile.load, DataFile.loadIn, held]
  simp only [format, FileTree.decodeText_encodeUtf8 inline, Except.mapError, bind, Except.bind, DataFile.parse, reads]
  rfl

def listing (what : Run.Listing) (names : List String) : Data := .map [(.text what.label, .list (names.map .text))]

theorem storable_listing (what : Run.Listing) (names : List String) : Storable (listing what names) := by
  have texts : Storable (.list (names.map .text)) := .list fun d h => by
    obtain ⟨s, -, rfl⟩ := List.mem_map.mp h
    exact .text s
  exact .map [(what.label, .list (names.map .text))] (List.nodup_singleton _) fun m h => List.mem_singleton.mp h ▸ texts

theorem levels_texts (names : List String) : levels (.list (names.map .text)) ≤ 1 := by
  induction names with
  | nil => exact Nat.zero_le 1
  | cons s names ih => simpa [levels, itemsLevels] using ih

theorem not_long_texts (names : List String) : ¬ Long (.list (names.map .text)) := by
  induction names with
  | nil => exact id
  | cons s names ih => simpa [Long, ItemsLong] using ih

theorem write_listing (what : Run.Listing) (names : List String) :
    write compact (listing what names) = .ok (Command.listingText what names) ∧
      Faithful 0 (listing what names) (Command.listingText what names) := by
  have shallow : ¬ deepestWritten < levels (listing what names) := by
    have texts := levels_texts names
    simp only [listing, levels, entriesLevels, deepestWritten] at texts ⊢
    omega
  have short : ¬ Long (listing what names) := by simpa [listing, Long, EntriesLong] using not_long_texts names
  obtain ⟨s, written, good⟩ := (write_told (storable_listing what names)).ok_of_not shallow short
  have text : Command.listingText what names = s := by
    show (write compact (listing what names)).toOption.getD "" = s
    rw [written]
    rfl
  rw [text]
  exact ⟨written, good⟩

theorem yields_listing (s : Command.Surroundings) (root : String) (what : Run.Listing) :
    (Command.task s (.list root what)).Yields fun made => ∃ names, made.1 = Command.listingText what names := by
  refine .bind fun root => .bind fun names log made same => ⟨names, ?_⟩
  cases same
  rfl

/-- Data of the kinds that the format has is written within the limits of depth and of digits and refused beyond them.
What is written passes the check under any target and is read as the same data, and a data file that holds it gives its
entries in their order. What a listing puts out is such a text, of one key with a list of names. -/
theorem written_data_is_read_back :
    (∀ d, Storable d → levels d ≤ deepestWritten → ¬ Long d → ∃ s, write compact d = .ok s ∧
      read s.toList = .ok d ∧ (∀ target, Run.checkJson target s = .ok ()) ∧
      ∀ (files : FileTree) (path : Path) (revision : Nat) (entries : List (Data × Data)),
        files.content path = .ok (Text.encodeUtf8 s, revision) → DataFile.lowerSuffix path = ".json" → d = .map entries →
        DataFile.load files path = .ok entries) ∧
    (∀ d, Storable d → deepestWritten < levels d ∨ Long d →
      write compact d = .error .tooDeep ∨ write compact d = .error .badValue) ∧
    ∀ (s : Command.Surroundings) (root : String) (what : Run.Listing) (output : String) (files : FileTree),
      (Command.task s (.list root what)).perform.1 = .ok (output, files) →
      ∃ names, write compact (listing what names) = .ok output ∧ read output.toList = .ok (listing what names) := by
  refine ⟨fun d storable shallow short => ?_, fun d storable limit => (write_told storable).error_of limit,
    fun s root what output files made => ?_⟩
  · obtain ⟨s, written, reads, inline⟩ := (write_told storable).ok_of_not (Nat.not_lt.mpr shallow) short
    have same := read_of_readsBack reads
    refine ⟨s, written, same, checkJson_of_read same, fun files path revision entries held json map => ?_⟩
    exact load_written held json inline (map ▸ same)
  · obtain ⟨names, rfl⟩ := yields_listing s root what [] _ made
    obtain ⟨written, reads, -⟩ := write_listing what names
    exact ⟨names, written, read_of_readsBack reads⟩

def sample : List (String × Data) :=
  [("a\"\r", .list [.null, .bool true, .int (-12), .text "\\\n\u007f"]), ("", .map [])]

theorem written_data_is_read_back_sample : ∃ s, write compact (.map (sample.map entry)) = .ok s ∧
    Run.checkJson "t" s = .ok () ∧
    DataFile.load (FileTree.put {} ["d.json"] (Text.encodeUtf8 s)) (.ofString "d.json") = .ok (sample.map entry) := by
  have storable : Storable (.map (sample.map entry)) := by
    refine .map sample (by decide) ?_
    rw [sample, List.forall_mem_cons, List.forall_mem_singleton]
    refine ⟨.list ?_, .map [] List.nodup_nil fun m h => absurd h List.not_mem_nil⟩
    simp only [List.forall_mem_cons]
    exact ⟨.null, .bool true, .int (-12), .text _, fun d h => absurd h List.not_mem_nil⟩
  have short : ¬ Long (.map (sample.map entry)) := by
    simp [sample, entry, Long, EntriesLong, ItemsLong]
    decide
  obtain ⟨s, written, -, passes, loads⟩ := written_data_is_read_back.1 _ storable (by decide) short
  exact ⟨s, written, passes "t", loads _ _ 1 _ rfl (by decide +kernel) rfl⟩

def nest : Nat → Data
  | 0 => .list []
  | n + 1 => .list [nest n]

theorem storable_nest (n : Nat) : Storable (nest n) := by
  induction n with
  | zero => exact .list fun d h => absurd h List.not_mem_nil
  | succ n ih => exact .list fun d h => List.mem_singleton.mp h ▸ ih

theorem levels_nest (n : Nat) : levels (nest n) = n := by
  induction n with
  | zero => rfl
  | succ n ih => simp [nest, levels, itemsLevels, ih]

/-- The reader gives up on brackets that open too deep, whatever follows. -/
theorem readValue_brackets (k : Nat) {n depth : Nat} {r : Rest} {rest : List Char} (deep : deepestRead ≤ depth + k)
    (text : r.chars = List.replicate (k + 1) '[' ++ rest) (enough : 2 * k < n) :
    readValue n depth r = .error (.mishap .tooDeep) := by
  induction k generalizing n depth r with
  | zero =>
    obtain ⟨n, rfl⟩ := Nat.exists_eq_succ_of_ne_zero (Nat.ne_zero_of_lt enough)
    have chars : r.chars = '[' :: rest := text
    simp only [readValue, chars, show deepestRead ≤ depth from deep, if_true]
  | succ k ih =>
    obtain ⟨n, rfl⟩ : ∃ m, n = m + 2 := ⟨n - 2, by omega⟩
    have chars : r.chars = '[' :: (List.replicate (k + 1) '[' ++ rest) := text
    have started : (r.drop 1).skipSpace.chars = '[' :: (List.replicate k '[' ++ rest) :=
      skipSpace_of_not_space (chars_drop_one chars) rfl
    simp only [readValue, chars]
    split
    · rfl
    · have inner : readValue n (depth + 1) (r.drop 1).skipSpace = .error (.mishap .tooDeep) := ih (by omega) started (by omega)
      simp only [started, readItems, inner, bind, Except.bind]
      rfl

theorem read_brackets (k : Nat) (deep : deepestRead ≤ k) (rest : List Char) :
    read (List.replicate (k + 1) '[' ++ rest) = .error (.mishap .tooDeep) := by
  have started : Rest.skipSpace ⟨List.replicate (k + 1) '[' ++ rest, 0⟩ = ⟨List.replicate (k + 1) '[' ++ rest, 0⟩ := rfl
  have given := readValue_brackets k (r := ⟨List.replicate (k + 1) '[' ++ rest, 0⟩) (show deepestRead ≤ 0 + k by omega) rfl
    (show 2 * k < 2 * (List.replicate (k + 1) '[' ++ rest).length + 1 by simp; omega)
  rw [read]
  · rw [started, given]
    rfl
  · exact fun rest same => absurd (List.cons.inj same).1 (by decide)

/-- Lists in lists are refused when they go too deep, and so is the text that they would have. -/
theorem deep_nest_is_refused : Storable (nest 2999) ∧ (∀ s, write compact (nest 2999) ≠ .ok s) ∧
    ∀ target, Run.checkJson target (String.ofList (List.replicate 3000 '[' ++ List.replicate 3000 ']')) ≠ .ok () := by
  refine ⟨storable_nest _, fun s written => ?_, fun target => ?_⟩
  · have deep : deepestWritten < levels (nest 2999) := by
      rw [levels_nest]
      decide
    rcases (write_told (storable_nest 2999)).error_of (.inl deep) with refused | refused <;>
      exact absurd (refused.symm.trans written) (by simp)
  · have refused := read_brackets 2999 (by decide) (List.replicate 3000 ']')
    rw [Run.checkJson, String.toList_ofList, refused]
    exact fun same => by cases same

end Stencil.Json
