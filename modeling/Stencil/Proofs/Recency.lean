import Stencil.Proofs.Connection
import Stencil.Proofs.Digits

/-!
# What the cache keeps

A world remembers which texts were asked for and had, and nothing but compiling touches that or the cache. So whatever is
done with a processor, the cache holds the texts that were asked for last, in that order, and a compilation is reported
where a text was not among them. What stands for a text in the keys does not matter for this.
-/

set_option autoImplicit false

namespace Stencil

/-! ## The newest of a row -/

section Newest

variable {κ υ : Type} [BEq κ] [LawfulBEq κ]

theorem eraseDups_filter (k : κ) (ks : List κ) :
    (ks.filter fun b => !b == k).eraseDups = ks.eraseDups.filter fun b => !b == k := by
  -- what differs from the first element is shorter
  induction size : ks.length using Nat.strongRecOn generalizing ks with
  | _ size ih =>
    subst size
    cases ks with
    | nil => rfl
    | cons a rest =>
      have shorter : (rest.filter fun b => !b == a).length < (a :: rest).length :=
        Nat.lt_succ_of_le (List.length_filter_le _ rest)
      rw [List.eraseDups_cons]
      by_cases same : a = k
      · subst same
        rw [List.filter_cons_of_neg (by simp), List.filter_cons_of_neg (by simp), ← ih _ shorter _ rfl, List.filter_filter]
        simp only [Bool.and_self]
      · rw [List.filter_cons_of_pos (by simpa using same), List.filter_cons_of_pos (by simpa using same),
          List.eraseDups_cons, ← ih _ shorter _ rfl, List.filter_filter, List.filter_filter]
        simp only [Bool.and_comm]

theorem nodup_eraseDups (ks : List κ) : ks.eraseDups.Nodup := by
  induction size : ks.length using Nat.strongRecOn generalizing ks with
  | _ size ih =>
    subst size
    cases ks with
    | nil => exact List.nodup_nil
    | cons a rest =>
      rw [List.eraseDups_cons, List.nodup_cons]
      refine ⟨fun again => ?_, ih _ (Nat.lt_succ_of_le (List.length_filter_le _ rest)) _ rfl⟩
      simpa using (List.mem_filter.mp (List.mem_eraseDups.mp again)).2

/-- One more than the first few determine the first few of those that differ from an element. -/
theorem take_filter_take (k : κ) (n : Nat) {ks : List κ} (nodup : ks.Nodup) :
    ((ks.take (n + 1)).filter fun b => !b == k).take n = (ks.filter fun b => !b == k).take n := by
  induction n generalizing ks with
  | zero => rfl
  | succ n ih =>
    cases ks with
    | nil => rfl
    | cons a rest =>
      obtain ⟨unseen, nodup⟩ := List.nodup_cons.mp nodup
      rw [List.take_succ_cons]
      by_cases same : a = k
      · have others : ∀ b ∈ rest, (!b == k) = true := fun b hb => by
          simpa using fun equal : b = k => unseen (same ▸ equal ▸ hb)
        rw [List.filter_cons_of_neg (by simpa using same), List.filter_cons_of_neg (by simpa using same),
          List.filter_eq_self.mpr others, List.filter_eq_self.mpr fun b hb => others b (List.mem_of_mem_take hb),
          List.take_take, Nat.min_self]
      · rw [List.filter_cons_of_pos (by simpa using same), List.filter_cons_of_pos (by simpa using same),
          List.take_succ_cons, List.take_succ_cons, ih nodup]

def newest (size : Nat) (asked : List κ) : List κ := asked.eraseDups.take size

theorem newest_cons (size : Nat) (k : κ) (asked : List κ) :
    newest size (k :: asked) = (k :: (newest size asked).filter fun b => !b == k).take size := by
  unfold newest
  rw [List.eraseDups_cons, eraseDups_filter]
  cases size with
  | zero => rfl
  | succ n => rw [List.take_succ_cons, List.take_succ_cons, take_filter_take k n (nodup_eraseDups asked)]

/-- An element that is among the newest only changes its place. -/
theorem newest_cons_of_mem {size : Nat} {k : κ} {asked : List κ} (known : k ∈ newest size asked) :
    newest size (k :: asked) = k :: (newest size asked).filter fun b => !b == k := by
  rw [newest_cons]
  refine List.take_of_length_le ?_
  have fewer : ((newest size asked).filter fun b => !b == k).length < (newest size asked).length :=
    List.length_filter_lt_length_iff_exists.mpr ⟨k, known, by simp⟩
  have few : (newest size asked).length ≤ size := List.length_take_le size _
  exact Nat.lt_of_lt_of_le fewer few

def missed {α : Type} (key : α → κ) (size : Nat) : List α → List α
  | [] => []
  | a :: earlier => if key a ∈ newest size (earlier.map key) then missed key size earlier else a :: missed key size earlier

namespace Cache

omit [BEq κ] [LawfulBEq κ] in
def keys (c : Cache κ υ) : List κ := c.entries.map Prod.fst

omit [LawfulBEq κ] in
theorem keys_without (c : Cache κ υ) (key : κ) : (c.without key).map Prod.fst = c.keys.filter fun b => !b == key := by
  rw [keys, List.filter_map]
  rfl

theorem keys_of_find? {c c' : Cache κ υ} {key : κ} {v : υ} (found : c.find? key = some (v, c')) :
    key ∈ c.keys ∧ c'.capacity = c.capacity ∧ c'.keys = key :: c.keys.filter fun b => !b == key := by
  unfold find? at found
  cases kept : c.peek? key with
  | none => simp [kept] at found
  | some value =>
    simp only [kept, Option.some.injEq, Prod.mk.injEq] at found
    obtain ⟨rfl, rfl⟩ := found
    refine ⟨?_, rfl, congrArg (key :: ·) (c.keys_without key)⟩
    obtain ⟨e, held, -⟩ := Option.map_eq_some_iff.mp kept
    have same : e.1 = key := by simpa using List.find?_some held
    exact same ▸ List.mem_map_of_mem (List.mem_of_find?_eq_some held)

theorem not_mem_keys_of_find? {c : Cache κ υ} {key : κ} (missing : c.find? key = none) : key ∉ c.keys := by
  intro held
  obtain ⟨e, he, rfl⟩ := List.mem_map.mp held
  unfold find? at missing
  cases kept : c.peek? e.1 with
  | none =>
    have never := List.find?_eq_none.mp (Option.map_eq_none_iff.mp kept) e he
    exact never (beq_self_eq_true e.1)
  | some value => simp [kept] at missing

omit [LawfulBEq κ] in
theorem keys_insert (c : Cache κ υ) (key : κ) (v : υ) :
    (c.insert key v).keys = (key :: c.keys.filter fun b => !b == key).take c.capacity := by
  show (List.take c.capacity ((key, v) :: c.without key)).map Prod.fst = _
  rw [List.map_take, List.map_cons, keys_without]

end Cache

/-! ## Keys as texts -/

omit [BEq κ] [LawfulBEq κ] in
theorem append_cons_inj {k : κ} {as bs cs ds : List κ} (last : k ∉ bs) (last' : k ∉ ds)
    (same : as ++ k :: bs = cs ++ k :: ds) : as = cs ∧ bs = ds := by
  rcases List.append_eq_append_iff.mp same with ⟨more, rfl, rest⟩ | ⟨more, rfl, rest⟩
  · cases more with
    | nil => exact ⟨(List.append_nil as).symm, (List.cons.inj rest).2⟩
    | cons b more =>
      obtain ⟨-, rfl⟩ := List.cons.inj rest
      exact absurd (by simp) last
  · cases more with
    | nil => exact ⟨List.append_nil cs, (List.cons.inj rest).2.symm⟩
    | cons b more =>
      obtain ⟨-, rfl⟩ := List.cons.inj rest
      exact absurd (by simp) last'

end Newest

def keyText (name : String) (digest : Int) : String := name ++ ":" ++ toString digest

theorem colon_not_mem_toString (n : Int) : ':' ∉ (toString n).toList := by
  have digits (n : Nat) : ':' ∉ n.repr.toList := by
    rw [Nat.toList_repr]
    exact fun held => absurd (Number.isDigit_of_mem_digitsOf held) (by decide)
  cases n with
  | ofNat n => exact digits n
  | negSucc n =>
    show ':' ∉ ("-" ++ (n + 1).repr).toList
    rw [String.toList_append, List.mem_append]
    rintro (sign | held)
    · revert sign
      decide
    · exact digits _ held

theorem keyText_inj {name name' : String} {digest digest' : Int} (same : keyText name digest = keyText name' digest') :
    name = name' ∧ digest = digest' := by
  have chars := congrArg String.toList same
  simp only [keyText, String.toList_append, List.append_assoc] at chars
  obtain ⟨names, digests⟩ := append_cons_inj (colon_not_mem_toString digest) (colon_not_mem_toString digest') chars
  exact ⟨String.toList_inj.mp names, Int.repr_inj.mp (String.toList_inj.mp digests)⟩

namespace Engine

/-! ## What is asked for -/

theorem isCompilation_compilation (name source : String) : (compilation name source).isCompilation = true := by
  unfold compilation LogLine.isCompilation
  simp [String.toList_append, List.append_assoc]

theorem exists_of_find? {t t' : TextCache Compiled} {name source : String} {c : Compiled}
    (found : t.find? name source = some (c, t')) : ∃ kept, t.kept.find? (t.key name source) = some (c, kept) ∧
      t' = { t with kept, asked := (name, source) :: t.asked } := by
  obtain ⟨⟨_, kept⟩, held, same⟩ := Option.map_eq_some_iff.mp found
  cases same
  exact ⟨kept, held, rfl⟩

theorem asked_of_compileText {name source : String} {c : Compiled} {w w' : World}
    (run : outcome (compileText name source) w = (.ok c, w')) : w'.texts.asked = (name, source) :: w.texts.asked := by
  rcases World.cases_of_compiled (compiled_of_compileText run) with ⟨texts, found, rfl⟩ | ⟨-, -, rfl⟩
  · obtain ⟨_, -, rfl⟩ := exists_of_find? found
    rfl
  · rfl

def keyed (digest : String → Int) (a : String × String) : String × Int := (a.1, digest a.2)

structure Recent (size : Nat) (digest : String → Int) (w : World) : Prop where
  digested : w.texts.digest = digest
  capacity : w.texts.kept.capacity = size
  keys : w.texts.kept.keys = newest size (w.texts.asked.map (keyed digest))
  log : w.log.filter LogLine.isCompilation =
    ((missed (keyed digest) size w.texts.asked).map fun a => compilation a.1 a.2).reverse

section Recent

variable {size : Nat} {digest : String → Int} {w w' : World}

theorem Recent.few (h : Recent size digest w) : w.texts.size ≤ size := by
  have few : (newest size (w.texts.asked.map (keyed digest))).length ≤ size := List.length_take_le _ _
  rwa [← h.keys, Cache.keys, List.length_map] at few

theorem Recent.of_fields (h : Recent size digest w) (texts : w'.texts = w.texts)
    (log : w'.log.filter LogLine.isCompilation = w.log.filter LogLine.isCompilation) : Recent size digest w' := by
  obtain ⟨same, capacity, keys, told⟩ := h
  rw [← texts] at same capacity keys told
  exact ⟨same, capacity, keys, log.trans told⟩

theorem Recent.key (h : Recent size digest w) (name source : String) : w.texts.key name source = keyed digest (name, source) := by
  rw [TextCache.key, h.digested]
  rfl

theorem Recent.compiled {name source : String} {c : Compiled} (h : Recent size digest w)
    (run : outcome (compileText name source) w = (.ok c, w')) : Recent size digest w' := by
  rcases World.cases_of_compiled (compiled_of_compileText run) with ⟨texts, found, rfl⟩ | ⟨missing, -, rfl⟩
  · obtain ⟨kept, held, rfl⟩ := exists_of_find? found
    rw [h.key] at held
    obtain ⟨known, capacity, keys⟩ := Cache.keys_of_find? held
    rw [h.keys] at known keys
    refine ⟨h.digested, capacity.trans h.capacity, keys.trans (newest_cons_of_mem known).symm, ?_⟩
    show w.log.filter LogLine.isCompilation = ((missed _ size ((name, source) :: w.texts.asked)).map _).reverse
    rw [missed, if_pos known]
    exact h.log
  · have missing := Option.map_eq_none_iff.mp missing
    rw [h.key] at missing
    have unknown := Cache.not_mem_keys_of_find? missing
    rw [h.keys] at unknown
    refine ⟨h.digested, h.capacity, ?_, ?_⟩
    · show (w.texts.kept.insert (w.texts.key name source) c).keys = newest size (_ :: w.texts.asked.map (keyed digest))
      rw [Cache.keys_insert, h.key, h.keys, h.capacity, newest_cons]
    · show (w.log ++ [compilation name source]).filter LogLine.isCompilation =
        ((missed _ size ((name, source) :: w.texts.asked)).map _).reverse
      rw [missed, if_neg unknown, List.filter_append, h.log, List.map_cons, List.reverse_cons,
        List.filter_cons_of_pos (isCompilation_compilation name source)]
      rfl

/-- The texts that are kept are those that were asked for last. -/
theorem Recent.kept_iff (h : Recent size digest w) (name source : String) :
    (w.texts.find? name source).isSome = true ↔ keyed digest (name, source) ∈ newest size (w.texts.asked.map (keyed digest)) := by
  rw [← h.keys, TextCache.find?, Option.isSome_map, h.key]
  cases found : w.texts.kept.find? (keyed digest (name, source)) with
  | some had => exact iff_of_true rfl (Cache.keys_of_find? found).1
  | none => exact iff_of_false Bool.false_ne_true (Cache.not_mem_keys_of_find? found)

def recency (size : Nat) (digest : String → Int) : Invariant :=
  .everywhere (Recent size digest) (fun _ => True) (fun _ => True) (fun _ => trivial) <| by
    intro w w' change h
    cases change with
    | compiled _ _ _ _ _ run => exact h.compiled run
    | log line other =>
      refine h.of_fields rfl ?_
      rw [List.filter_append, List.filter_cons_of_neg (by simp [other]), List.filter_nil, List.append_nil]
    | _ => exact h.of_fields rfl rfl

instance : (recency size digest).Complete := .of_all (fun _ => trivial) fun _ => trivial

def growth (asked : List (String × String)) : Invariant :=
  .everywhere (fun w => ∃ nested, w.texts.asked = nested ++ asked) (fun _ => True) (fun _ => True) (fun _ => trivial) <| by
    rintro w w' change ⟨nested, h⟩
    cases change with
    | compiled _ _ name source _ run => exact ⟨(name, source) :: nested, (asked_of_compileText run).trans (congrArg _ h)⟩
    | _ => exact ⟨nested, h⟩

instance (asked : List (String × String)) : (growth asked).Complete := .of_all (fun _ => trivial) fun _ => trivial

/-- Whatever follows the text that it begins with, an evaluation asks for that text first. -/
theorem asked_of_begins (name source : String) {k : Compiled → Eval String}
    (follows : ∀ c asked, ∃ (f : String → String) (e : Eval String), (growth asked).agreement.Follows f (k c) e)
    (w : World) :
    match outcome (compileText name source) w with
    | (.ok _, w') => ∃ nested, (outcome (compileText name source >>= k) w).2.texts.asked = nested ++ w'.texts.asked
    | (.error x, w') => w' = w ∧ outcome (compileText name source >>= k) w = (.error x, w) := by
  rw [outcome_bind]
  rcases run : outcome (compileText name source) w with ⟨x | c, w'⟩
  · obtain ⟨-, rfl⟩ := eq_of_compileText_error run
    exact ⟨rfl, rfl⟩
  · obtain ⟨f, e, after⟩ := follows c w'.texts.asked
    exact Invariant.after after ⟨[], rfl⟩

end Recent

end Engine

namespace Processor

open Engine

/-! ## What a processor reports -/

theorem not_isCompilation_addTags {tags : Table String Tag} {more : List Tag} {line : LogLine}
    (written : line ∈ (Registry.addTags tags more).2) : line.isCompilation = false := by
  induction more generalizing tags with
  | nil => cases written
  | cons t rest ih =>
    rcases List.mem_append.mp written with here | later
    · split at here
      · rw [List.mem_singleton.mp here]
        exact LogLine.isCompilation_of_head? (c := 'T') (by simp [Registry.overrideWarning]) (by decide)
      · cases here
    · exact ih later

/-- Registering a plugin reports no compilation. -/
theorem not_isCompilation_register {r r' : Registry} {plugin : Plugin} {log : List LogLine}
    (done : r.register? plugin = some (r', log)) {line : LogLine} (written : line ∈ log) : line.isCompilation = false := by
  unfold Registry.register? at done
  split at done
  · cases done
  · cases done
    rcases List.mem_append.mp written with warning | last
    · exact not_isCompilation_addTags warning
    · rw [List.mem_singleton.mp last]
      exact LogLine.isCompilation_of_head? (c := 'R') (by simp) (by decide)

theorem told_register {q r : Processor} {plugin : Plugin} (done : q.register plugin = .ok r) :
    r.world.texts = q.world.texts ∧ r.log.filter LogLine.isCompilation = q.log.filter LogLine.isCompilation := by
  unfold register at done
  cases accepted : q.world.registry.register? plugin with
  | none =>
    rw [accepted] at done
    cases done
  | some registered =>
    obtain ⟨registry, log⟩ := registered
    rw [accepted] at done
    cases done
    have other : log.filter LogLine.isCompilation = [] :=
      List.filter_eq_nil_iff.mpr fun line written => Bool.eq_false_iff.mp (not_isCompilation_register accepted written)
    refine ⟨rfl, ?_⟩
    show (q.world.log ++ log).filter _ = q.world.log.filter _
    rw [List.filter_append, other, List.append_nil]

theorem told_registerAll {q r : Processor} {references : List String} (done : q.registerAll references = (.ok (), r)) :
    r.log.filter LogLine.isCompilation = q.log.filter LogLine.isCompilation := by
  induction references generalizing q with
  | nil =>
    cases done
    rfl
  | cons reference rest ih =>
    unfold registerAll at done
    cases loaded : (loadPlugin reference).bind q.register with
    | error f =>
      rw [loaded] at done
      cases done
    | ok q' =>
      rw [loaded] at done
      cases found : loadPlugin reference with
      | error f =>
        rw [found] at loaded
        cases loaded
      | ok plugin =>
        rw [found] at loaded
        exact (ih done).trans (told_register loaded).2

theorem told_create {c : Config} {files : FileTree} {root : Option Path} {p : Processor}
    (created : create c files root = .ok p) : p.log.filter LogLine.isCompilation = [] := by
  obtain ⟨b, q, begun, registered, rfl⟩ := registerAll_of_create created
  obtain ⟨folder, world⟩ := world_bare begun
  have fresh : b.log = [] := by
    show b.world.log = []
    rw [world]
  have same := told_registerAll registered
  rw [fresh] at same
  exact same

/-! ## The cache of a processor -/

def digesting (p : Processor) (digest : String → Int) : Processor :=
  ⟨{ p.world with texts := { p.world.texts with digest } }⟩

theorem digesting_create {c : Config} {files : FileTree} {root : Option Path} {p : Processor}
    (created : create c files root = .ok p) : p.digesting numbering = p := by
  have same : { p.world.texts with digest := numbering } = p.world.texts := by
    rw [texts_create created]
    rfl
  unfold digesting
  rw [same]

section Recent

variable {size : Nat} {digest : String → Int} {q : Processor}

theorem recent_create {c : Config} {files : FileTree} {root : Option Path} {p : Processor}
    (created : create c files root = .ok p) (digest : String → Int) : Recent c.cacheSize digest (p.digesting digest).world := by
  have empty := texts_create created
  refine ⟨rfl, ?_, ?_, ?_⟩
  · show p.world.texts.kept.capacity = _
    rw [empty]
    rfl
  · show p.world.texts.kept.keys = newest c.cacheSize (p.world.texts.asked.map (keyed digest))
    rw [empty]
    exact List.take_nil.symm
  · show p.log.filter LogLine.isCompilation = ((missed (keyed digest) c.cacheSize p.world.texts.asked).map _).reverse
    rw [empty]
    exact told_create created

theorem recent_use (h : Recent size digest q.world) (u : Use) : Recent size digest (q.use u).2.world := by
  cases u with
  | text name vars source => exact holds_use (J := recency size digest) h rfl
  | file name vars => exact holds_use (J := recency size digest) h rfl
  | register plugin =>
    show Recent size digest (q.registered plugin).world
    unfold registered
    cases done : q.register plugin with
    | error f => exact h
    | ok r => exact h.of_fields (told_register done).1 (told_register done).2
  | startUp => exact h.of_fields rfl rfl

theorem recent_after (h : Recent size digest q.world) (uses : List Use) : Recent size digest (q.after uses).world := by
  induction uses generalizing q with
  | nil => exact h
  | cons u rest ih => exact ih (recent_use h u)

end Recent

/-- Whatever stands for a text in the keys: after whatever was done with a processor its cache holds the texts that were
asked for last, no more than its size and in that order, and the compilations that were reported are those of texts that it
did not hold when they were asked for. So it is in every pass, in whatever pass it is nested. A render and a pass first ask
for their own text, then for those of the passes in them, and change nothing if their own text does not compile. As texts,
the keys tell names and digests apart. -/
theorem cache_holds_newest_texts {c : Config} {files : FileTree} {root : Option Path} {p : Processor}
    (created : create c files root = .ok p) (digest : String → Int) :
    (∀ uses, let w := ((p.digesting digest).after uses).world
      w.texts.size ≤ c.cacheSize ∧ w.texts.kept.keys = newest c.cacheSize (w.texts.asked.map (keyed digest)) ∧
        w.log.filter LogLine.isCompilation =
          ((missed (keyed digest) c.cacheSize w.texts.asked).map fun a => compilation a.1 a.2).reverse) ∧
    (∀ (w : World) (n : Nat) (name : String) (vars : Table String Value) (source : String),
      (Recent c.cacheSize digest w → Recent c.cacheSize digest (outcome (renderSource (interp n) name vars source) w).2) ∧
      match outcome (compileText name source) w with
      | (.ok _, w') => w'.texts.asked = (name, source) :: w.texts.asked ∧
        ∃ nested, (outcome (renderSource (interp n) name vars source) w).2.texts.asked = nested ++ w'.texts.asked
      | (.error x, w') => w' = w ∧ outcome (renderSource (interp n) name vars source) w = (.error x, w)) ∧
    (∀ (q : Processor) (name : String) (vars : List (Data × Data)) (source : String),
      match outcome (compileText name source) { q.world with depth := 0 } with
      | (.ok _, _) => ∃ nested, (q.renderText name vars source).2.world.texts.asked = nested ++ (name, source) :: q.world.texts.asked
      | (.error _, _) => (q.renderText name vars source).2.world.texts = q.world.texts) ∧
    ∀ name name' digest digest', keyText name digest = keyText name' digest' → name = name' ∧ digest = digest' := by
  refine ⟨fun uses => ?_, fun w n name vars source => ⟨fun recent => ?_, ?_⟩, fun q name vars source => ?_, fun _ _ _ _ => keyText_inj⟩
  · have recent := recent_after (recent_create created digest) uses
    exact ⟨recent.few, recent.keys, recent.log⟩
  · exact Invariant.after (J := recency c.cacheSize digest)
      (Agreement.sim_renderSource (Agreement.aligned_interp n) name vars source).follows recent
  · have begins := asked_of_begins name source
      (k := fun c => deeper 3 (renderTemplate (interp n) (.text c) vars))
      (fun c asked => ⟨_, _, (Agreement.sim_deeper 3 (Agreement.sim_renderTemplate (A := (growth asked).agreement)
        (Agreement.aligned_interp n) (.text c) vars)).follows⟩) w
    rcases run : outcome (compileText name source) w with ⟨x | compiled, w'⟩ <;> rw [run] at begins
    · exact begins
    · exact ⟨asked_of_compileText run, begins⟩
  · have begins := asked_of_begins name source (k := fun c => renderWith (.text c) vars)
      (fun c _ => ⟨_, _, (Agreement.sim_renderWith (.text c) vars).follows⟩) { q.world with depth := 0 }
    unfold renderText
    rw [outcome_exec]
    rcases run : outcome (compileText name source) { q.world with depth := 0 } with ⟨x | compiled, w'⟩ <;> rw [run] at begins
    · exact congrArg (fun r : Except Engine.Fault String × World => r.2.texts) begins.2
    · obtain ⟨nested, asked⟩ := begins
      have first : w'.texts.asked = (name, source) :: q.world.texts.asked :=
        asked_of_compileText (w := { q.world with depth := 0 }) run
      exact ⟨nested, asked.trans (congrArg _ first)⟩

def smallUses : List Use :=
  [.text "a" [] "x", .text "b" [] "y", .text "a" [] "x", .text "" [] "\x7b% render %\x7dz\x7b% endrender %\x7d", .text "b" [] "y"]

theorem exists_small : ∃ p, create { cacheSize := 2 } {} none = .ok p ∧
    ((p.digesting fun s => s.length).after smallUses).world.texts.asked =
      [("b", "y"), ("", "z"), ("", "\x7b% render %\x7dz\x7b% endrender %\x7d"), ("a", "x"), ("b", "y"), ("a", "x")] := by
  exact exists_created (f := fun p => ((p.digesting fun s => s.length).after smallUses).world.texts.asked) (by decide +kernel)

/-- With room for two texts, one of them is found at its second use, and the other is compiled twice: a block and the text in
it came between. Lengths stand for the texts here. -/
theorem cache_holds_newest_texts_two : ∃ p, create { cacheSize := 2 } {} none = .ok p ∧
    let w := ((p.digesting fun s => s.length).after smallUses).world
    w.texts.size ≤ 2 ∧ w.texts.kept.keys = [("b", 1), ("", 1)] ∧
      w.log.filter LogLine.isCompilation = [compilation "a" "x", compilation "b" "y",
        compilation "" "\x7b% render %\x7dz\x7b% endrender %\x7d", compilation "" "z", compilation "b" "y"] := by
  obtain ⟨p, created, asked⟩ := exists_small
  obtain ⟨few, keys, told⟩ := (cache_holds_newest_texts created fun s => s.length).1 smallUses
  rw [asked] at keys told
  exact ⟨p, created, few, keys.trans (by decide), told.trans (by decide)⟩

end Processor

end Stencil
