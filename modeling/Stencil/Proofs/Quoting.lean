import Stencil.Proofs.Block.Raw
import Stencil.Proofs.Escaping
import Stencil.Proofs.Moving
import Stencil.Proofs.Recursion

/-!
# Quoted templates

A template in a raw section in a render block is handed on by the first pass as it stands, and run by the second. So it
gives what the template gives by itself, a few calls deeper.
-/

set_option autoImplicit false

namespace Stencil.Table

variable {κ υ : Type} [BEq κ] [LawfulBEq κ]

theorem insert_of_find? {t : Table κ υ} {key : κ} {v : υ} (h : t.find? key = some v) : t.insert key v = t := by
  obtain ⟨es⟩ := t
  change findEntries? key es = some v at h
  show (⟨insertEntries key v es⟩ : Table κ υ) = ⟨es⟩
  congr 1
  induction es with
  | nil => cases h
  | cons e es ih =>
    by_cases same : e.1 = key
    · rw [findEntries?_cons_self _ same] at h
      rw [insertEntries, if_pos (beq_iff_eq.mpr same), ← Option.some.inj h]
    · rw [findEntries?_cons_of_ne _ same] at h
      rw [insertEntries, if_neg (by simpa using same), ih h]

/-- To write what is there changes nothing. -/
theorem insertAll_of_found {t : Table κ υ} {es : List (κ × υ)} (h : ∀ e ∈ es, t.find? e.1 = some e.2) : t.insertAll es = t := by
  induction es with
  | nil => rfl
  | cons e es ih =>
    show (t.insert e.1 e.2).insertAll es = t
    rw [insert_of_find? (h e List.mem_cons_self)]
    exact ih fun e he => h e (List.mem_cons_of_mem _ he)

theorem find?_of_mem {t : Table κ υ} (unique : t.keys.Nodup) {e : κ × υ} (mem : e ∈ t.entries) : t.find? e.1 = some e.2 := by
  obtain ⟨es⟩ := t
  change (es.map Prod.fst).Nodup at unique
  show findEntries? e.1 es = some e.2
  induction es with
  | nil => cases mem
  | cons f es ih =>
    rw [List.map_cons, List.nodup_cons] at unique
    rcases List.mem_cons.mp mem with rfl | old
    · exact findEntries?_cons_self _ rfl
    · have other : f.1 ≠ e.1 := fun same => unique.1 (same ▸ List.mem_map_of_mem old)
      rw [findEntries?_cons_of_ne _ other]
      exact ih old unique.2

theorem insertEntries_append {key : κ} {a : List (κ × υ)} (h : key ∉ a.map Prod.fst) (v : υ) (b : List (κ × υ)) :
    insertEntries key v (a ++ b) = a ++ insertEntries key v b := by
  induction a with
  | nil => rfl
  | cons e a ih =>
    rw [List.map_cons, List.mem_cons, not_or] at h
    rw [List.cons_append, insertEntries, if_neg (by simpa using Ne.symm h.1), ih h.2]
    rfl

/-- Entries written over others whose keys they begin with. -/
theorem insertAll_over {a b es : List (κ × υ)} (begins : b.map Prod.fst <+: es.map Prod.fst)
    (unique : ((a ++ es).map Prod.fst).Nodup) : (⟨a ++ b⟩ : Table κ υ).insertAll es = ⟨a ++ es⟩ := by
  induction es generalizing a b with
  | nil =>
    have none : b = [] := by simpa using begins
    rw [none]
    rfl
  | cons e es ih =>
    have fresh : e.1 ∉ a.map Prod.fst := by
      rw [List.map_append, List.nodup_append] at unique
      exact fun mem => unique.2.2 e.1 mem e.1 (by simp) rfl
    have rest : ((a ++ [e] ++ es).map Prod.fst).Nodup := by
      rw [List.append_assoc]
      exact unique
    have written : ∃ b', (⟨a ++ b⟩ : Table κ υ).insert e.1 e.2 = ⟨a ++ [e] ++ b'⟩ ∧ b'.map Prod.fst <+: es.map Prod.fst := by
      show ∃ b', (⟨insertEntries e.1 e.2 (a ++ b)⟩ : Table κ υ) = _ ∧ _
      rw [insertEntries_append fresh]
      cases b with
      | nil => exact ⟨[], by rw [List.append_nil]; rfl, List.nil_prefix⟩
      | cons f b =>
        obtain ⟨same, others⟩ := List.cons_prefix_cons.mp begins
        refine ⟨b, ?_, others⟩
        rw [insertEntries, if_pos (beq_iff_eq.mpr same), same, List.append_assoc]
        rfl
    obtain ⟨b', first, others⟩ := written
    show ((⟨a ++ b⟩ : Table κ υ).insert e.1 e.2).insertAll es = _
    rw [first, ih others rest, List.append_assoc]
    rfl

theorem keys_prefix_insertAll (t : Table κ υ) (es : List (κ × υ)) : t.keys <+: (t.insertAll es).keys := by
  induction es generalizing t with
  | nil => exact List.prefix_refl _
  | cons e es ih =>
    refine List.IsPrefix.trans ?_ (ih (t.insert e.1 e.2))
    rw [keys_insert]
    split
    · exact List.prefix_refl _
    · exact List.prefix_append _ _

/-- To write a table over its beginnings again changes nothing. -/
theorem update_update {t : Table κ υ} (unique : t.keys.Nodup) (later : Table κ υ) : t.update (t.update later) = t.update later :=
  insertAll_over (a := []) (keys_prefix_insertAll t later.entries) (nodup_keys_insertAll unique later.entries)

end Stencil.Table

namespace Stencil.Engine

open Stencil.Template

/-! ## Collected names -/

section Collected

variable {I : Interp} {env : Env} {w : World} {collected : Ref}

def textEntry (e : String × Value) : Value × Value := (.text e.1, e.2)

theorem keyEqual_text (s t : String) : keyEqual (.text s) (.text t) = (s == t) := by
  rw [keyEqual]
  · rfl
  all_goals intros; contradiction

theorem putKey_text (id : String) (v : Value) (es : List (String × Value)) :
    putKey (.text id) v (es.map textEntry) = (Table.insertEntries id v es).map textEntry := by
  induction es with
  | nil => rfl
  | cons e es ih =>
    rw [List.map_cons, textEntry, putKey, keyEqual_text, Table.insertEntries]
    split
    · rfl
    · rw [ih]
      rfl

theorem outcome_putAll (t : Table String Value) (es : List (String × Value)) :
    outcome (putAll (t.entries.map textEntry) (es.map textEntry)) w =
      (.ok ((t.insertAll es).entries.map textEntry), w) := by
  unfold putAll
  induction es generalizing t with
  | nil => rfl
  | cons e es ih =>
    rw [List.map_cons, List.foldlM_cons]
    have put : outcome (putEntry (t.entries.map textEntry) (textEntry e).1 (textEntry e).2) w =
        (.ok ((t.insert e.1 e.2).entries.map textEntry), w) := by
      show (Except.ok (putKey (.text e.1) e.2 (t.entries.map textEntry)), w) = _
      rw [putKey_text]
      rfl
    exact (outcome_bind_of put).trans (ih _)

theorem textEntries_map (es : List (String × Value)) : textEntries (es.map textEntry) = es := by
  unfold textEntries
  rw [List.filterMap_map]
  exact List.filterMap_some

theorem filter_textEntry (id : String) (es : List (String × Value)) :
    (es.map textEntry).filter (fun e => !keyEqual e.1 (.text id)) = (es.filter fun e => !(e.1 == id)).map textEntry := by
  rw [List.filter_map]
  congr 1

def handedOn (names : Table String Value) : List (String × Value) :=
  (Table.ofList names.entries).entries.filter fun e => !(e.1 == bodyLocals)

/-- Into an empty map a body puts all names that it can see. -/
theorem outcome_collect_blank {names : Table String Value} (room : w.depth + 7 ≤ callLimit)
    (read : outcome (readName env bodyLocals) w = (.ok (.dict collected), w))
    (seen : outcome (visibleNames env) w = (.ok names, w)) (blank : w.dictEntries collected = []) :
    outcome (run I env .collect) w = (.ok {},
      { w with objects := w.objects.modify collected (.withEntries ((handedOn names).map textEntry)) }) := by
  have put := outcome_putAll (w := w) .empty names.entries
  rw [show (Table.empty : Table String Value).entries.map textEntry = w.dictEntries collected from blank.symm] at put
  have collects := outcome_collect (I := I) room read seen put
  rw [filter_textEntry] at collects
  exact collects

theorem ofList_entries {t : Table String Value} (unique : t.keys.Nodup) : Table.ofList t.entries = t :=
  Table.insertAll_over (a := []) (b := []) List.nil_prefix unique

/-- What a body that assigns nothing hands on is known outside. -/
theorem insertAll_handedOn {names : Table String Value} (unique : names.keys.Nodup) (v : Value) :
    names.insertAll (handedOn (names.insert bodyLocals v)) = names := by
  have unique' : (names.insert bodyLocals v).keys.Nodup := Table.nodup_keys_insertAll unique [(bodyLocals, v)]
  refine Table.insertAll_of_found fun e he => ?_
  rw [handedOn, ofList_entries unique', List.mem_filter] at he
  have other : bodyLocals ≠ e.1 := fun same => by simp [same] at he
  rw [← Table.find?_insert_of_ne names v other]
  exact Table.find?_of_mem unique' he.1

end Collected

/-! ## The first pass over a quoted text -/

def quotedUnit (cs : List Char) : Compiled := ⟨none, none, [renderNode (fixedTree cs)], [], false⟩

section First

variable {w : World} {vars : Table String Value} {cs : List Char} {k : Nat}

theorem scopes_quoted : (textEnv w (quotedUnit cs)).scopes = [⟨0, ⟨[("loop", .resolve)]⟩, []⟩] := by
  cases cs <;> rfl

theorem plain_quoted : Plain (textEnv w (quotedUnit cs)) none (fixedTree cs) where
  special := by
    have unread : ∀ id ∈ ["caller", "kwargs", "varargs"], isFree id [.collect] = false := by decide
    cases cs <;> exact unread
  sealed := by cases cs <;> rfl
  scopes := by
    rw [scopes_quoted]
    cases cs <;> rfl
  apart := by decide

theorem unique_globals : globals.keys.Nodup := by decide

theorem unique_update (vars : Table String Value) : (globals.update vars).keys.Nodup :=
  Table.nodup_keys_insertAll unique_globals vars.entries

def quotedStart (w : World) (cs : List Char) (vars : Table String Value) : World :=
  (w.withText (quotedUnit cs) vars).withFrame (textFrame w (quotedUnit cs) vars (some "loop"))

theorem context_quotedStart : (quotedStart w cs vars).contexts[(textEnv w (quotedUnit cs)).context]? =
    some (textContext w (quotedUnit cs) vars) := context_withText

theorem decided_quotedStart : Decided (textEnv w (quotedUnit cs)) (quotedStart w cs vars) w.settings.escape :=
  ⟨_, w.escapes.size, context_quotedStart, rfl, Array.getElem?_push_size⟩

theorem visible_quoted : (textEnv w (quotedUnit cs)).scopes.visible = [] := by
  rw [scopes_quoted]
  simp [Scopes.visible]

theorem visible_body {w' : World} : (bodyEnv (textEnv w (quotedUnit cs)) none w').scopes.visible =
    [(bodyLocals, (bodyEnv (textEnv w (quotedUnit cs)) none w').own bodyLocals)] := by
  have found : (bodyEnv (textEnv w (quotedUnit cs)) none w').scopes.find? bodyLocals =
      some ((bodyEnv (textEnv w (quotedUnit cs)) none w').own bodyLocals) := find?_bodyLocals
  have ids : ((bodyEnv (textEnv w (quotedUnit cs)) none w').scopes.flatMap fun s => s.stored.mergeSort fun a b => a ≤ b) =
      [bodyLocals] := by
    show List.flatMap _ (blockScope (textEnv w (quotedUnit cs)).scopes [] :: (textEnv w (quotedUnit cs)).scopes) = _
    rw [scopes_quoted]
    simp [blockScope]
  unfold Scopes.visible
  rw [ids]
  show List.filterMap _ [bodyLocals] = _
  rw [List.filterMap_cons, found]
  rfl

theorem outcome_visibleNames {env : Env} {c : Context} {found : List (String × Value)}
    (given : w.contexts[env.context]? = some c) (locals : outcome (visibleLocals env) w = (.ok found, w)) :
    outcome (visibleNames env) w = (.ok (c.all.insertAll found), w) := by
  have context : outcome (context env.context) w = (.ok c, w) := by
    show (Except.ok (w.contexts.getD env.context _), w) = _
    rw [Array.getD_eq_getD_getElem?, given]
    rfl
  unfold visibleNames
  rw [outcome_bind, context]
  dsimp only
  rw [outcome_bind, locals]
  rfl

/-- A quoted text sees what it is rendered with, over what is there always. -/
theorem outcome_tagVariables_quoted : outcome (tagVariables (textEnv w (quotedUnit cs))) (quotedStart w cs vars) =
    (.ok (globals.update vars), quotedStart w cs vars) := by
  have none_local : outcome (visibleLocals (textEnv w (quotedUnit cs))) (quotedStart w cs vars) =
      (.ok [], quotedStart w cs vars) := by
    unfold visibleLocals
    rw [visible_quoted]
    rfl
  have loop : outcome (lookup? (textEnv w (quotedUnit cs)) "loop") (quotedStart w cs vars) =
      (.ok ((globals.update vars).find? "loop"), quotedStart w cs vars) := by
    unfold lookup?
    rw [scopes_quoted]
    show outcome (readSlot _ (slotAt 0 "loop")) _ = _
    have own : (textEnv w (quotedUnit cs)).own "loop" = slotAt 0 "loop" := by
      unfold Env.own
      rw [scopes_quoted]
      rfl
    have read : (textFrame w (quotedUnit cs) vars (some "loop")).read (slotAt 0 "loop") =
        (globals.update vars).find? "loop" := own ▸ read_start_self _ _ _
    rw [outcome_readSlot_own (getElem?_withFrame _ _) (Nat.le_of_eq (base_startRead _ _ _ _)), read]
  unfold tagVariables
  refine (outcome_bind_of (outcome_visibleNames context_quotedStart none_local)).trans ((outcome_bind_of loop).trans ?_)
  cases found : (globals.update vars).find? "loop" with
  | none => rfl
  | some v =>
    have same : (globals.update vars).insert "loop" v = globals.update vars := Table.insert_of_find? found
    cases v with
    | missing m => rfl
    | _ => exact congrArg (fun t => (Except.ok t, quotedStart w cs vars)) same

/-- A body of fixed text in which nothing is assigned: it writes the text, and hands on the context. -/
theorem outcome_body_fixed {I : Interp} {env : Env} {slot : Slot} {f : Frame} {c : Context} {collected : Ref}
    (shown : env.dropping = none) (visible : env.scopes.visible = [(bodyLocals, slot)])
    (found : env.scopes.find? bodyLocals = some slot) (held : w.frames[env.frame]? = some f) (own : f.base ≤ slot.depth)
    (value : f.read slot = some (.dict collected)) (given : w.contexts[env.context]? = some c)
    (blank : w.dictEntries collected = []) (room : w.depth + 7 ≤ callLimit) :
    outcome (runAll I env (fixedTree cs ++ [.collect])) w = (.ok (.ofText (String.ofList cs)), { w with
      objects := w.objects.modify collected
        (.withEntries ((handedOn (c.all.insert bodyLocals (.dict collected))).map textEntry)) }) := by
  have locals : outcome (visibleLocals env) w = (.ok [(bodyLocals, .dict collected)], w) := by
    unfold visibleLocals
    rw [visible, List.mapM_cons, outcome_bind, outcome_bind, outcome_bind, outcome_readSlot_own held own, value]
    rfl
  have collects := outcome_collect_blank (I := I) room (outcome_readName found held own value) (outcome_visibleNames given locals) blank
  rw [← runAll_single] at collects
  cases cs with
  | nil => exact collects
  | cons x cs =>
    show outcome (runAll I env (.output [.fixed (String.ofList (x :: cs)) none] :: [.collect])) w = _
    rw [runAll]
    refine (outcome_bind_of (outcome_fixed shown _)).trans ((outcome_bind_of collects).trans ?_)
    rw [append_empty]
    rfl

/-- The first pass over a quoted text gives the text and the variables as they are. It leaves an object and a frame. -/
theorem outcome_firstPass_quoted (tag : Tag) (shallow : w.depth + 15 ≤ callLimit) :
    ∃ o f, outcome (firstPass (interp (k + 2)) (textEnv w (quotedUnit cs)) tag "" (fixedTree cs ++ [.collect]))
        (quotedStart w cs vars) =
      (.ok (bodyText w.settings.escape (String.ofList cs), globals.update vars), { quotedStart w cs vars with
        depth := w.depth + 3, objects := w.objects.push o, frames := (quotedStart w cs vars).frames.push f }) := by
  let c := textContext w (quotedUnit cs) vars
  let names := c.all.insert bodyLocals (.dict w.objects.size)
  let v : World := { quotedStart w cs vars with depth := w.depth + 8, objects := w.objects.push (.dict [] false) }
  let f := bodyFrame (textEnv w (quotedUnit cs)) none v c w.objects.size
  let o : Object := .dict ((handedOn names).map textEntry) false
  have blank : (v.withFrame f).dictEntries w.objects.size = [] := by
    unfold World.dictEntries World.read
    rw [show (v.withFrame f).objects[w.objects.size]? = some (.dict [] false) from Array.getElem?_push_size]
  have runs : outcome (runAll (interp k) (bodyEnv (textEnv w (quotedUnit cs)) none v) (fixedTree cs ++ [.collect]))
      (v.withFrame f) = _ :=
    outcome_body_fixed rfl visible_body find?_bodyLocals (getElem?_withFrame v f) (Nat.le_of_eq bodyFrame_base)
      (bodyFrame_bodyLocals (by decide)) context_quotedStart blank shallow
  have filled : (w.objects.push (.dict [] false)).modify w.objects.size (.withEntries ((handedOn names).map textEntry)) =
      w.objects.push o := modify_push _ _ _
  have entries : textEntries (({ v.withFrame f with objects := w.objects.push o } : World).dictEntries w.objects.size) =
      handedOn names := by
    unfold World.dictEntries World.read
    rw [show (w.objects.push o)[w.objects.size]? = some o from Array.getElem?_push_size]
    exact textEntries_map _
  rw [show (v.withFrame f).objects = w.objects.push (.dict [] false) from rfl, filled] at runs
  refine ⟨o, f, (outcome_firstPass_body tag plain_quoted outcome_tagVariables_quoted context_quotedStart decided_quotedStart
    (show w.depth + 8 ≤ callLimit by omega) runs).trans ?_⟩
  show (Except.ok (_, (globals.update vars).insertAll (textEntries (World.dictEntries _ w.objects.size))), _) = _
  rw [entries, show (globals.update vars).insertAll (handedOn names) = globals.update vars from
    insertAll_handedOn (unique_update vars) _]
  rfl

end First

/-! ## The second pass -/

section Second

variable {w : World} {vars : Table String Value} {cs : List Char} {k : Nat}

def quotedAgain (w : World) (cs : List Char) (vars : Table String Value) (o : Object) (f : Frame) (log : List LogLine) : World :=
  { quotedStart w cs vars with
    depth := w.depth + 5, objects := w.objects.push o, frames := (quotedStart w cs vars).frames.push f, log }

structure Undisturbed (w v v' : World) : Prop where
  context : v'.contexts[w.contexts.size]? = v.contexts[w.contexts.size]?
  escape : v'.escapes[w.escapes.size]? = v.escapes[w.escapes.size]?
  frame : v'.frames[w.frames.size]? = v.frames[w.frames.size]?

/-- A quoted text gives what its second pass gives, where that pass does not change what the first left. -/
theorem outcome_quoted {tag : Tag} (twice : tag.action = .renderTwice) (found : w.registry.getTag? "render" = some tag)
    (connected : w.registry.connected.contains tag.owner = true) (shallow : w.depth + 22 ≤ callLimit) :
    ∃ o f log, (∀ s v, outcome ((interp (k + 2)).render "" (globals.update vars) (String.ofList cs))
        (quotedAgain w cs vars o f log) = (.ok s, v) → Undisturbed w (quotedAgain w cs vars o f log) v) →
      (outcome (renderTemplate (interp (k + 4)) (.text (quotedUnit cs)) vars) w).1 =
        (outcome ((interp (k + 2)).render "" (globals.update vars) (String.ofList cs)) (quotedAgain w cs vars o f log)).1 := by
  have unnamed : isFree "self" (quotedUnit cs).body = false := by
    cases cs <;> rfl
  have names : (textEnv w (quotedUnit cs)).ownNames = (some "loop").toList.map (·, Origin.resolve) := by
    unfold Env.ownNames
    rw [scopes_quoted]
    rfl
  obtain ⟨o, f, first⟩ := @outcome_firstPass_quoted w vars cs k tag (by omega)
  have isText := textOf?_bodyText w.settings.escape (String.ofList cs)
  have low : (quotedStart w cs vars).depth + 3 ≤ callLimit := by
    show w.depth + 3 ≤ callLimit
    omega
  obtain ⟨fails, ends⟩ := outcome_runTag_second twice low first isText connected (by show w.depth + 3 + 2 ≤ _; omega)
  have unnamed' : (blockCall (textEnv w (quotedUnit cs)) tag "" (fixedTree cs ++ [.collect]) (quotedStart w cs vars)).nameText =
      "" := by
    unfold blockCall TagCall.nameText
    rw [Array.getD_eq_getD_getElem?, context_quotedStart]
    rfl
  rw [unnamed'] at fails ends
  generalize (blockCall (textEnv w (quotedUnit cs)) tag "" (fixedTree cs ++ [.collect]) (quotedStart w cs vars)).measured _ _ =
    log at fails ends
  refine ⟨o, f, log, fun undisturbed => ?_⟩
  have block : outcome (runAll (interp (k + 3)) (textEnv w (quotedUnit cs)) (quotedUnit cs).body) (quotedStart w cs vars) =
      outcome (runTag (interp (k + 2)) (textEnv w (quotedUnit cs)) tag "" (fixedTree cs ++ [.collect])) (quotedStart w cs vars) :=
    (congrArg (outcome · _) (runAll_single _ _ _)).trans (outcome_tagBlock found)
  rw [outcome_renderTemplate (some "loop") unnamed names, outcome_bind]
  rw [show (w.withText (quotedUnit cs) vars).withFrame (textFrame w (quotedUnit cs) vars (some "loop")) =
    quotedStart w cs vars from rfl, block]
  rcases second : outcome ((interp (k + 2)).render "" (globals.update vars) (String.ofList cs))
    (quotedAgain w cs vars o f log) with ⟨x | s, v⟩
  · rw [fails x v second]
  · obtain ⟨context, escape, frame⟩ := undisturbed s v second
    have decided : Decided (textEnv w (quotedUnit cs)) v w.settings.escape :=
      ⟨_, w.escapes.size, context.trans context_quotedStart, rfl, escape.trans Array.getElem?_push_size⟩
    have held : ({ v with depth := w.depth } : World).frames[(textEnv w (quotedUnit cs)).frame]? =
        some (textFrame w (quotedUnit cs) vars (some "loop")) :=
      frame.trans (getElem?_push_of_some _ (getElem?_withFrame (w.withText (quotedUnit cs) vars) _))
    rw [ends s v _ second decided]
    show (outcome (finishText (interp (k + 3)) (textEnv w (quotedUnit cs)) (.ofText s)) { v with depth := w.depth }).1 = .ok s
    rw [outcome_finishText held (parent_startRead _ _ _ _)]

theorem grown_quotedAgain (o : Object) (f : Frame) {texts texts' : TextCache Compiled}
    {log log₁ log' : List LogLine} (kept : texts'.kept = texts.kept) (digest : texts'.digest = texts.digest) :
    Grown { w with texts, log, depth := w.depth + 8 }
      { quotedAgain w cs vars o f log₁ with texts := texts', log := log', depth := w.depth + 8 } := by
  have pushed {α : Type} (xs : Array α) (x : α) (r : Nat) (old : r < xs.size) : (xs.push x)[r]? = xs[r]? := by
    rw [Array.getElem?_push, if_neg (Nat.ne_of_lt old)]
  have longer {α : Type} (xs : Array α) (x : α) : xs.size ≤ (xs.push x).size := by
    rw [Array.size_push]
    exact Nat.le_succ _
  exact
    { objects := pushed w.objects o
      frames := fun r old => (pushed _ f r (Nat.lt_of_lt_of_le old (longer w.frames _))).trans (pushed w.frames _ r old)
      contexts := pushed w.contexts _
      escapes := pushed w.escapes _
      extent := ⟨longer _ _, (longer w.frames _).trans (longer _ _), longer _ _, longer _ _⟩
      settings := rfl
      registry := rfl
      files := rfl
      templates := rfl
      loaded := rfl
      modules := rfl
      mark := rfl
      events := rfl
      texts := kept
      digest := digest }

/-- The second pass knows nothing of what the first pass left. -/
theorem undisturbed_of_related {v : World} {c : Cuts} {v₁ v' : World} (related : (Move.beyond w v c).Related v₁ v')
    (context : w.contexts.size < v.contexts.size) (escape : w.escapes.size < v.escapes.size)
    (frame : w.frames.size < v.frames.size) : Undisturbed w v v' where
  context := related.contexts.spared (Nat.le_refl _) context
  escape := related.escapes.spared (Nat.le_refl _) escape
  frame := related.frames.spared (Nat.le_refl _) frame

/-- A text that a block renders is compiled and runs three calls deeper. -/
theorem outcome_render_faithful {v : World} (faithful : v.Faithful) (room : v.HasRoom) {source : String}
    {r : Except Fault Compiled} (read : compiledText v.settings v.registry.listTags none none source = r)
    (vars : Table String Value) :
    ∃ texts log, outcome (compileText "" source) v = (r, { v with texts, log }) ∧
      outcome ((interp (k + 2)).render "" vars source) v =
        (match r with
        | .ok c => outcome (renderTemplate (interp (k + 1)) (.text c) vars >>= fun s => setDepth v.depth >>= fun _ => pure s)
          { v with texts, log, depth := v.depth + 3 }
        | .error x => (.error x, { v with texts, log })) := by
  obtain ⟨texts, log, compiles, -⟩ := outcome_compileText_faithful faithful (show v.CanHave "" source from .inl room)
  rw [read] at compiles
  refine ⟨texts, log, compiles, ?_⟩
  show outcome (compileText "" source >>= fun c => deeper 3 (renderTemplate (interp (k + 1)) (.text c) vars)) v = _
  rw [outcome_bind, compiles]
  cases r with
  | error x => rfl
  | ok c => exact outcome_deeper (w := { v with texts, log }) room.shallow

theorem hasRoom_quotedAgain {o : Object} {f : Frame} {log : List LogLine} (shallow : w.depth + 22 ≤ callLimit) :
    (quotedAgain w cs vars o f log).HasRoom := by
  show w.depth + 5 + 17 ≤ callLimit
  omega

/-- A quoted text that can be read gives what it gives by itself in the world of its second pass. -/
theorem outcome_quoted_compiled {tag : Tag} (twice : tag.action = .renderTwice)
    (found : w.registry.getTag? "render" = some tag) (connected : w.registry.connected.contains tag.owner = true)
    (shallow : w.depth + 22 ≤ callLimit) (faithful : w.Faithful) {c : Compiled}
    (compiled : compiledText w.settings w.registry.listTags none none (String.ofList cs) = .ok c) :
    ∃ o f log₁ texts log, outcome (compileText "" (String.ofList cs)) (quotedAgain w cs vars o f log₁) =
        (.ok c, { quotedAgain w cs vars o f log₁ with texts, log }) ∧
      ((∀ s v, outcome (renderTemplate (interp (k + 1)) (.text c) vars)
          { quotedAgain w cs vars o f log₁ with texts, log, depth := w.depth + 8 } = (.ok s, v) →
            Undisturbed w (quotedAgain w cs vars o f log₁) v) →
        (outcome (renderTemplate (interp (k + 4)) (.text (quotedUnit cs)) vars) w).1 =
          (outcome (renderTemplate (interp (k + 1)) (.text c) vars)
            { quotedAgain w cs vars o f log₁ with texts, log, depth := w.depth + 8 }).1) := by
  obtain ⟨o, f, log₁, quoted⟩ := @outcome_quoted w vars cs k tag twice found connected shallow
  have again : (quotedAgain w cs vars o f log₁).Faithful := faithful.of_fields rfl rfl rfl
  obtain ⟨texts, log, compiles, rendered⟩ := outcome_render_faithful (k := k) again (hasRoom_quotedAgain shallow) compiled
    (globals.update vars)
  have same : renderTemplate (interp (k + 1)) (.text c) (globals.update vars) =
      renderTemplate (interp (k + 1)) (.text c) vars := by
    unfold renderTemplate
    rw [Table.update_update unique_globals]
  dsimp only at rendered
  rw [same] at rendered
  refine ⟨o, f, log₁, texts, log, compiles, fun undisturbed => ?_⟩
  rcases ran : outcome (renderTemplate (interp (k + 1)) (.text c) vars)
    { quotedAgain w cs vars o f log₁ with texts, log, depth := w.depth + 8 } with ⟨x | s, v⟩
  · have ended := rendered.trans (outcome_bind_error ran)
    rw [ended] at quoted
    exact quoted nofun
  · -- only the depth is set behind the run
    have ended := rendered.trans (outcome_bind_of ran)
    rw [ended] at quoted
    refine quoted fun s' v' same => ?_
    cases same
    obtain ⟨context, escape, frame⟩ := undisturbed s v ran
    exact ⟨context, escape, frame⟩

/-- Where no texts are kept, a quoted text is compiled like the text and gives what the text gives eight calls deeper. -/
theorem quoted_agrees {tag : Tag} (twice : tag.action = .renderTwice) (found : w.registry.getTag? "render" = some tag)
    (connected : w.registry.connected.contains tag.owner = true) (shallow : w.depth + 22 ≤ callLimit) (closed : w.Closed)
    (faithful : w.Faithful) (forgets : w.KeepsNone) (fixed : ∀ σ : Renaming, σ.Fixes w.extent → σ.on vars = vars)
    {texts : TextCache Compiled} {log : List LogLine} (empty : texts.kept = ⟨0, []⟩) (digest : texts.digest = w.texts.digest)
    {n : Nat} (enough : k + 1 ≤ n) :
    (∀ x, compiledText w.settings w.registry.listTags none none (String.ofList cs) = .error x →
        (outcome (renderTemplate (interp (k + 4)) (.text (quotedUnit cs)) vars) w).1 = .error x) ∧
      ∀ c, compiledText w.settings w.registry.listTags none none (String.ofList cs) = .ok c →
        (outcome (renderTemplate (interp (k + 4)) (.text (quotedUnit cs)) vars) w).1 =
            (outcome (renderTemplate (interp n) (.text c) vars) { w with texts, log, depth := w.depth + 8 }).1 ∨
          (outcome (renderTemplate (interp (k + 4)) (.text (quotedUnit cs)) vars) w).1 = .error .outOfFuel := by
  constructor
  · intro x fails
    obtain ⟨o, f, log₁, quoted⟩ := @outcome_quoted w vars cs k tag twice found connected shallow
    have again : (quotedAgain w cs vars o f log₁).Faithful := faithful.of_fields rfl rfl rfl
    obtain ⟨texts₂, log₂, -, rendered⟩ := outcome_render_faithful (k := k) again (hasRoom_quotedAgain shallow) fails
      (globals.update vars)
    rw [rendered] at quoted
    exact quoted nofun
  · intro c compiled
    obtain ⟨o, f, log₁, texts₂, log₂, compiles, quoted⟩ := @outcome_quoted_compiled w vars cs k tag twice found
      connected shallow faithful c compiled
    let start : World := { w with texts, log, depth := w.depth + 8 }
    let further : World := { quotedAgain w cs vars o f log₁ with texts := texts₂, log := log₂, depth := w.depth + 8 }
    -- the same run with less fuel, in a world with further cells
    have sim := Agreement.sim_renderTemplate (A := (Move.beyond start further .fuel).agreement)
      (Agreement.aligned_le rfl enough) (.text c) vars
    have known : (Move.beyond start further .fuel).agreement.names.on vars = vars := fixed _ (Renaming.fixes_shift _ _)
    rw [known] at sim
    have still : texts₂.kept = ⟨0, []⟩ ∧ texts₂.digest = w.texts.digest :=
      World.KeepsNone.compiled (w := quotedAgain w cs vars o f log₁) forgets compiles
    have ends := (grown_quotedAgain o f (still.1.trans empty.symm) (still.2.trans digest.symm)).matches
      (closed.of_fields rfl rfl rfl rfl rfl) rfl sim
    revert ends quoted
    rcases outcome (renderTemplate (interp (k + 1)) (.text c) vars) further with ⟨y | s, v⟩ <;>
      rcases outcome (renderTemplate (interp n) (.text c) vars) start with ⟨x | s', v'⟩ <;> intro quoted ends
    · rcases ends with ⟨rfl, -⟩ | cut
      · exact .inl (quoted nofun)
      · exact .inr ((quoted nofun).trans (congrArg Except.error cut))
    · exact .inr ((quoted nofun).trans (congrArg Except.error ends))
    · exact ends.elim
    · obtain ⟨rfl, related⟩ := ends
      refine .inl (quoted fun _ _ same => ?_)
      cases same
      have longer {α : Type} (xs : Array α) (x : α) : xs.size < (xs.push x).size := by
        rw [Array.size_push]
        exact Nat.lt_succ_self _
      have kept : Undisturbed start further v := undisturbed_of_related (w := start) (v := further) related
        (longer _ _) (longer _ _) ((longer w.frames _).trans (longer _ _))
      exact ⟨kept.context, kept.escape, kept.frame⟩

end Second

/-- A text is compiled like the text with its line ends unified. -/
theorem compiledText_unifyLines (settings : Settings) (tags : List String) (name file : Option String) (cs : List Char) :
    compiledText settings tags name file (String.ofList (Text.unifyLines cs)) =
      compiledText settings tags name file (String.ofList cs) := by
  have prepared : settings.layout.prepare (Text.unifyLines cs) = settings.layout.prepare cs := by
    unfold Layout.prepare
    rw [unifyLines_unifyLines]
  unfold compiledText parse lex
  rw [String.toList_ofList, String.toList_ofList, prepared]

end Stencil.Engine

namespace Stencil.Processor

open Engine Template

/-! ## Processors whose worlds are closed -/

/-- A world without cells is closed. -/
theorem closed_of_empty {w : World} (objects : w.objects = #[]) (frames : w.frames = #[]) (contexts : w.contexts = #[])
    (escapes : w.escapes = #[]) (modules : w.modules = {}) : w.Closed := by
  intro σ _
  refine
    { settings := rfl
      registry := rfl
      files := rfl
      object := fun r => ?_
      frame := fun r => ?_
      context := fun r => ?_
      escape := fun r => ?_
      templates := rfl
      loaded := rfl
      modules := ?_
      mark := rfl
      depth := rfl
      events := rfl }
  · rw [objects]
    rfl
  · rw [frames]
    rfl
  · rw [contexts]
    rfl
  · rw [escapes]
    rfl
  · rw [modules]
    rfl

theorem closed_create {c : Config} {files : FileTree} {root : Option Path} {p : Processor}
    (created : create c files root = .ok p) : p.world.Closed := by
  obtain ⟨_, _, _, _, world⟩ := world_create created
  rw [world]
  exact closed_of_empty rfl rfl rfl rfl rfl

theorem closed_exec {p : Processor} {e : Eval String} (wrap : Engine.Fault → Failure) (closed : p.world.Closed)
    (rooted : Rooted { p.world with depth := 0 } e) : (p.exec wrap e).2.world.Closed := by
  rw [outcome_exec]
  exact rooted.closed (closed.of_fields rfl rfl rfl rfl rfl)

/-- Renders leave nothing behind that leads nowhere. -/
theorem closed_after {q : Processor} (closed : q.world.Closed) {uses : List Use} (renders : ∀ u ∈ uses, u.isRender = true) :
    (q.after uses).world.Closed := by
  induction uses generalizing q with
  | nil => exact closed
  | cons u rest ih =>
    have isRender := renders u List.mem_cons_self
    refine ih ?_ fun u hu => renders u (List.mem_cons_of_mem _ hu)
    cases u with
    | text name vars source =>
      exact closed_exec _ closed fun A _ _ _ _ => Agreement.sim_sourceText name vars source
    | file name vars =>
      show (q.renderFile name vars).2.world.Closed
      unfold renderFile
      cases q.world.settings.folder with
      | none => exact closed
      | some folder => exact closed_exec _ closed fun A _ _ _ _ => Agreement.sim_fileText name vars
    | register plugin => cases isRender
    | startUp => cases isRender

/-! ## Quoted texts -/

def renderTextAt (p : Processor) (depth : Nat) (name : String) (vars : List (Data × Data)) (source : String) :
    Except Failure String :=
  (outcome (sourceText name vars source) { p.world with depth }).1.mapError
    (wrapFault name "Unexpected error during processing")

theorem renderText_eq_renderTextAt (p : Processor) (name : String) (vars : List (Data × Data)) (source : String) :
    (p.renderText name vars source).1 = p.renderTextAt 0 name vars source := by
  unfold renderText exec renderTextAt
  show _ = ((sourceText name vars source).run.run { p.world with depth := 0 }).1.mapError _
  rcases (sourceText name vars source).run.run { p.world with depth := 0 } with ⟨_ | _, _⟩ <;> rfl

section Quoted

variable {q : Processor}

/-- A text that is rendered deeper gives the same, or is cut off. -/
theorem renderTextAt_cases (closed : q.world.Closed) (depth : Nat) (name : String)
    (vars : List (Data × Data)) (source : String) :
    q.renderTextAt depth name vars source = q.renderTextAt 0 name vars source ∨
      q.renderTextAt depth name vars source = .error (.template (.mishap .tooDeep)) := by
  have grown : Grown { q.world with depth := 0 } { q.world with depth := depth } :=
    ⟨fun _ _ => rfl, fun _ _ => rfl, fun _ _ => rfl, fun _ _ => rfl, ⟨le_rfl, le_rfl, le_rfl, le_rfl⟩,
      rfl, rfl, rfl, rfl, rfl, rfl, rfl, rfl, rfl, rfl⟩
  have ends := grown.matches (c := .depth depth) (closed.of_fields rfl rfl rfl rfl rfl) (Nat.zero_add depth).symm
    (Agreement.sim_sourceText name vars source)
  unfold renderTextAt
  revert ends
  rcases outcome (sourceText name vars source) { q.world with depth := 0 } with ⟨x | s, v⟩ <;>
    rcases outcome (sourceText name vars source) { q.world with depth := depth } with ⟨y | s', v'⟩ <;> intro ends
  · rcases ends with ⟨rfl, -⟩ | rfl
    · exact .inl rfl
    · exact .inr rfl
  · exact ends.elim
  · rw [show y = .mishap .tooDeep from ends]
    exact .inr rfl
  · rw [show s' = s from ends.1]
    exact .inl rfl

/-- A text is compiled, the variables are brought to life, and the text runs. -/
theorem outcome_sourceText {w : World} (faithful : w.Faithful) (room : w.HasRoom) {vars : List (Data × Data)}
    {named : List (String × Data)} {objects : Array Object} {values : Table String Value} (names : namedData? vars = some named)
    (builds : ∀ v : World, v.objects = w.objects → outcome (thawNamed named) v = (.ok values, { v with objects }))
    (name source : String) :
    ∃ texts log, outcome (compileText name source) w =
        (compiledText w.settings w.registry.listTags none none source, { w with texts, log }) ∧
      { w with texts, log, objects }.Faithful ∧ outcome (sourceText name vars source) w =
      match compiledText w.settings w.registry.listTags none none source with
      | .ok c => outcome (renderTemplate (interp plenty) (.text c) values) { w with texts, log, objects }
      | .error x => (.error x, { w with texts, log }) := by
  obtain ⟨texts, log, compiles, faithful'⟩ := outcome_compileText_faithful faithful
    (show w.CanHave name source from .inl room)
  refine ⟨texts, log, compiles, faithful'.of_fields rfl rfl rfl, ?_⟩
  unfold sourceText
  rw [outcome_bind, compiles]
  cases compiledText w.settings w.registry.listTags none none source with
  | error x => rfl
  | ok c =>
    dsimp only
    unfold renderWith
    rw [names]
    exact outcome_bind_of (builds { w with texts, log } rfl)

/-- Where no texts are kept, what the text gives eight calls deeper is what it gives in a raw section in a render block. -/
theorem renderTextAt_quoted {tag : Tag} (twice : tag.action = .renderTwice)
    (found : q.world.registry.getTag? "render" = some tag)
    (connected : q.world.registry.connected.contains tag.owner = true)
    (kept : q.world.settings.layout.lstripBlocks = false) (closed : q.world.Closed) (faithful : q.world.Faithful)
    (forgets : q.world.KeepsNone) {vars : List (Data × Data)} {named : List (String × Data)}
    (names : namedData? vars = some named) {t : String} (unended : Unended t.toList) (name : String) :
    q.renderTextAt 0 name vars (String.ofList (quotedText t.toList)) = q.renderTextAt 8 name vars t ∨
      q.renderTextAt 0 name vars (String.ofList (quotedText t.toList)) = .error (.template .outOfFuel) := by
  have closed₀ : { q.world with depth := 0 }.Closed := closed.of_fields rfl rfl rfl rfl rfl
  have faithful₀ : { q.world with depth := 0 }.Faithful := faithful.of_fields rfl rfl rfl
  obtain ⟨values, objects, -, builds⟩ := builds_thawNamed q.world.objects named
  have thaws : Rooted { q.world with depth := 0 } (thawNamed named) := fun A _ _ _ _ => Agreement.sim_thawNamed named
  have thawed := builds { q.world with depth := 0 } rfl
  have closed₁ : { q.world with depth := 0, objects }.Closed := by
    have := thaws.closed closed₀
    rwa [thawed] at this
  have fixed : ∀ σ : Renaming, σ.Fixes { q.world with depth := 0, objects }.extent → σ.on values = values :=
    fun σ fixes => thaws.on_result closed₀ thawed fixes
  obtain ⟨texts₀, log₀, compiles₀, faithful₁, ran₀⟩ := outcome_sourceText faithful₀ (show 0 + 17 ≤ callLimit by decide)
    names builds name (String.ofList (quotedText t.toList))
  obtain ⟨texts, log, compiles, -, ran⟩ := outcome_sourceText (w := { q.world with depth := 8 })
    (faithful.of_fields rfl rfl rfl) (show 8 + 17 ≤ callLimit by decide) names builds name t
  have first : texts₀.kept = ⟨0, []⟩ ∧ texts₀.digest = q.world.texts.digest :=
    World.KeepsNone.compiled (w := { q.world with depth := 0 }) forgets compiles₀
  have second : texts.kept = ⟨0, []⟩ ∧ texts.digest = q.world.texts.digest :=
    World.KeepsNone.compiled (w := { q.world with depth := 8 }) forgets compiles
  have compiled := compiledText_quoted q.world.settings kept (mem_listTags found) unended
  obtain ⟨fails, ends⟩ := @quoted_agrees { q.world with depth := 0, texts := texts₀, log := log₀, objects } values
    (Text.unifyLines t.toList) (plenty - 4) tag twice found connected (show 0 + 22 ≤ callLimit by decide)
    (closed₁.of_fields rfl rfl rfl rfl rfl) faithful₁ first.1 fixed texts log second.1 (second.2.trans first.2.symm) plenty
    (by decide)
  rw [compiledText_unifyLines, String.ofList_toList] at fails ends
  have ran₁ : outcome (sourceText name vars (String.ofList (quotedText t.toList))) { q.world with depth := 0 } =
      outcome (renderTemplate (interp plenty) (.text (quotedUnit (Text.unifyLines t.toList))) values)
        { q.world with depth := 0, texts := texts₀, log := log₀, objects } := by
    rw [ran₀, show compiledText ({ q.world with depth := 0 } : World).settings _ none none _ = _ from compiled]
    rfl
  unfold renderTextAt
  rw [ran₁, ran]
  cases compiles : compiledText ({ q.world with depth := 8 } : World).settings
      ({ q.world with depth := 8 } : World).registry.listTags none none t with
  | error x => exact .inl (congrArg _ (fails x compiles))
  | ok c =>
    rcases ends c compiles with same | cut
    · exact .inl (congrArg _ same)
    · exact .inr (congrArg _ cut)

theorem renderText_afresh (faithful : q.world.Faithful) (name : String) (vars : List (Data × Data)) (source : String) :
    (q.renderText name vars source).1 = (q.keepingNone.renderText name vars source).1 ∨
      (q.keepingNone.renderText name vars source).1 = .error (.template (.mishap .tooDeep)) :=
  (exec_afresh (wrapFault name "Unexpected error during processing") (afresh_keepingNone faithful)
    (Agreement.sim_sourceText name vars source)).imp_left And.left

/-- Where every text is compiled when it is rendered, a text in a raw section in a render block gives what the text gives by
itself, eight calls deeper: the same output, or the same fault at the same place. So it gives what the text gives, unless it
is cut off for being too deep, and unless that happens it gives what the text gives where texts are kept as well. -/
theorem quoted_gives_text {c : Config} {files : FileTree} {root : Option Path} {p : Processor} {before : List Use}
    (created : create c files root = .ok p) (installed : Installs c) (kept : c.lstripBlocks = false)
    (renders : ∀ u ∈ before, u.isRender = true) {vars : List (Data × Data)} {named : List (String × Data)}
    (names : namedData? vars = some named) {t : String} (unended : Unended t.toList) (name : String) :
    let q := p.after before
    let deeper := q.keepingNone.renderTextAt 8 name vars t
    let quoted (q : Processor) := (q.renderText name vars (String.ofList (quotedText t.toList))).1
    (quoted q.keepingNone = deeper ∨ quoted q.keepingNone = .error (.template .outOfFuel)) ∧
      (deeper = (q.keepingNone.renderText name vars t).1 ∨ deeper = .error (.template (.mishap .tooDeep))) ∧
      (quoted q = (q.renderText name vars t).1 ∨ quoted q = .error (.template .outOfFuel) ∨
        deeper = .error (.template (.mishap .tooDeep))) := by
  intro q deeper quoted
  have ready := ready_of_create created installed
  have runs : p.Runs q.world := runs_after ⟨rfl, rfl, ready.faithful⟩ renders
  have closed : q.world.Closed := closed_after (closed_create created) renders
  have closed' : q.keepingNone.world.Closed := closed.of_fields rfl rfl rfl rfl rfl
  have layout : q.world.settings.layout.lstripBlocks = false := by
    rw [runs.settings, ready.settings.2.2]
    exact kept
  have fits : quoted q.keepingNone = deeper ∨ quoted q.keepingNone = .error (.template .outOfFuel) := by
    rw [show quoted q.keepingNone = _ from renderText_eq_renderTextAt _ _ _ _]
    exact renderTextAt_quoted (q := q.keepingNone) rfl (runs.registry ▸ ready.found) (runs.registry ▸ ready.connected) layout
      closed' (.of_empty rfl) rfl names unended name
  have same : deeper = (q.keepingNone.renderText name vars t).1 ∨ deeper = .error (.template (.mishap .tooDeep)) := by
    rw [renderText_eq_renderTextAt]
    exact renderTextAt_cases closed' 8 name vars t
  refine ⟨fits, same, ?_⟩
  by_cases cut : deeper = .error (.template (.mishap .tooDeep))
  · exact .inr (.inr cut)
  · -- the text alone is not too deep either, with or without what is kept
    have alone := same.resolve_right cut
    have text := (renderText_afresh runs.faithful name vars t).resolve_right fun deep => cut (alone.trans deep)
    rcases fits with fits | fuel
    · have block := (renderText_afresh runs.faithful name vars (String.ofList (quotedText t.toList))).resolve_right
        fun deep => cut (fits.symm.trans deep)
      exact .inl (block.trans (fits.trans (alone.trans text.symm)))
    · have block := (renderText_afresh runs.faithful name vars (String.ofList (quotedText t.toList))).resolve_right
        fun deep => by cases fuel.symm.trans deep
      exact .inr (.inl (block.trans fuel))

end Quoted

def severalLines : String := "\x7b\x7b x \x7d\x7d\x0d\n\x7b% render %\x7d\x7b\x7b '\x7b\x7b x \x7d\x7d' \x7d\x7d\x7b% endrender %\x7d\n"

theorem renders_severalLines : ((create { autoescape := true } {} none).toOption.map fun p =>
    let quoted (p : Processor) :=
      (p.renderText "a" [(.text "x", .text "<")] (String.ofList (quotedText severalLines.toList))).1.toOption
    (quoted p, quoted p.keepingNone)) = some (some "&lt;\n&lt;\n", some "&lt;\n&lt;\n") := by decide +kernel

theorem unended_severalLines : Unended severalLines.toList := by
  rintro tag ⟨opening, -, closing, -, before, after, -, -, rfl⟩ inside
  have letter : 'w' ∈ severalLines.toList := inside.subset (by simp)
  revert letter
  decide

/-- The text by itself and the text in a block have the same result. -/
theorem quoted_gives_text_severalLines : ∃ p : Processor, create { autoescape := true } {} none = .ok p ∧
    Installs { autoescape := true } ∧ Unended severalLines.toList ∧
    (p.renderText "a" [(.text "x", .text "<")] (String.ofList (quotedText severalLines.toList))).1 = .ok "&lt;\n&lt;\n" ∧
    (p.renderText "a" [(.text "x", .text "<")] severalLines).1 = .ok "&lt;\n&lt;\n" := by
  obtain ⟨p, created⟩ := exists_escaping
  have rendered := eq_of_created created renders_severalLines
  obtain ⟨shown, afresh⟩ := Prod.mk.inj rendered
  obtain ⟨fits, -, same⟩ := @quoted_gives_text { autoescape := true } {} none p [] created installs_escaping rfl nofun
    [(.text "x", .text "<")] [("x", .text "<")] rfl severalLines unended_severalLines "a"
  have quoted := eq_ok_of_toOption shown
  refine ⟨p, created, installs_escaping, unended_severalLines, quoted, ?_⟩
  rcases same with same | fuel | cut
  · exact same.symm.trans quoted
  · cases quoted.symm.trans fuel
  · -- where no texts are kept the text is not too deep in the block
    have alone := eq_ok_of_toOption afresh
    rcases fits with fits | fuel
    · cases (alone.symm.trans fits).trans cut
    · cases alone.symm.trans fuel

def callingItself : String :=
  "\x7b% macro m(n) %\x7d\x7b% if n %\x7d\x7b\x7b m(n - 1) \x7d\x7d\x7b% endif %\x7d\x7b% endmacro %\x7d\x7b\x7b m(245) \x7d\x7dok"

def isTooDeep : Except Failure String → Bool
  | .error (.template (.mishap .tooDeep)) => true
  | _ => false

/-- A text that counts down, by a test of what it is compiled to. -/
theorem compiledText_of_isCounter {p : Processor} {source : String} {blocks : Bool} {n : Nat}
    (created : create {} {} none = .ok p) (reads : ((create {} {} none).toOption.any fun p =>
      (compiledText p.world.settings p.world.registry.listTags none none source).toOption.any (isCounter blocks n)) = true) :
    compiledText p.world.settings p.world.registry.listTags none none source = .ok (counterUnit blocks n) := by
  rw [created] at reads
  change (compiledText p.world.settings p.world.registry.listTags none none source).toOption.any (isCounter blocks n) = true at reads
  revert reads
  cases compiledText p.world.settings p.world.registry.listTags none none source with
  | error x => nofun
  | ok c => exact fun reads => congrArg Except.ok (eq_of_isCounter reads)

theorem unended_callingItself : Unended callingItself.toList := by
  rintro tag ⟨opening, -, closing, -, before, after, -, -, rfl⟩ inside
  have letter : 'w' ∈ callingItself.toList := inside.subset (by simp)
  revert letter
  decide

theorem installs_default : Installs {} := installs_escaping

section Counting

variable {w : World}

theorem builds_nothing (w v : World) (same : v.objects = w.objects) :
    outcome (thawNamed []) v = (.ok .empty, { v with objects := w.objects }) := by
  rw [← same]
  rfl

theorem room_of_level (level : w.depth = 0) : w.HasRoom := by
  rw [World.HasRoom, level]
  decide

/-- The text just fits where nothing lies above it. -/
theorem outcome_callingItself (faithful : w.Faithful) (unescaped : w.settings.escape = false) (level : w.depth = 0)
    (read : compiledText w.settings w.registry.listTags none none callingItself = .ok (counterUnit false 245)) :
    (outcome (sourceText "" [] callingItself) w).1 = .ok "ok" := by
  obtain ⟨texts, log, -, -, ran⟩ := outcome_sourceText faithful (room_of_level level) (show namedData? [] = some [] from rfl)
    (builds_nothing w) "" callingItself
  rw [read] at ran
  have counts := outcome_counterUnit (w := { w with texts, log }) (k := plenty - 739) unescaped 245 .empty
  rw [if_pos (by show w.depth + 4 * (245 + 1) ≤ callLimit; rw [level]; decide)] at counts
  rw [ran]
  exact counts

/-- In a block it starts eight calls deeper. -/
theorem outcome_quoted_callingItself {tag : Tag} (twice : tag.action = .renderTwice)
    (found : w.registry.getTag? "render" = some tag) (connected : w.registry.connected.contains tag.owner = true)
    (faithful : w.Faithful) (unescaped : w.settings.escape = false) (kept : w.settings.layout.lstripBlocks = false)
    (level : w.depth = 0)
    (read : compiledText w.settings w.registry.listTags none none callingItself = .ok (counterUnit false 245)) :
    (outcome (sourceText "" [] (String.ofList (quotedText callingItself.toList))) w).1 = .error (.mishap .tooDeep) := by
  obtain ⟨texts, log, -, faithful', ran⟩ := outcome_sourceText faithful (room_of_level level)
    (show namedData? [] = some [] from rfl) (builds_nothing w) "" (String.ofList (quotedText callingItself.toList))
  rw [compiledText_quoted w.settings kept (mem_listTags found) unended_callingItself] at ran
  have read' : compiledText w.settings w.registry.listTags none none (String.ofList (Text.unifyLines callingItself.toList)) =
      .ok (counterUnit false 245) := by
    rw [compiledText_unifyLines, String.ofList_toList, read]
  obtain ⟨o, f, log₁, texts₂, log₂, -, quoted⟩ := @outcome_quoted_compiled { w with texts, log } .empty
    (Text.unifyLines callingItself.toList) (plenty - 4) tag twice found connected
    (by show w.depth + 22 ≤ callLimit; rw [level]; decide) faithful' (counterUnit false 245) read'
  have counts := outcome_counterUnit (k := plenty - 742)
    (w := { quotedAgain { w with texts, log } (Text.unifyLines callingItself.toList) .empty o f log₁ with
      texts := texts₂, log := log₂, depth := w.depth + 8 }) unescaped 245 .empty
  rw [if_neg (by show ¬ w.depth + 8 + 4 * (245 + 1) ≤ callLimit; rw [level]; decide)] at counts
  rw [ran]
  refine (quoted fun s v ended => ?_).trans counts
  cases (congrArg Prod.fst ended).symm.trans counts

end Counting

/-- What can just be rendered by itself is too deep in a block. -/
theorem quoted_too_deep :
    ((create {} {} none).toOption.map fun p => (p.renderText "" [] callingItself).1.toOption) = some (some "ok") ∧
      ((create {} {} none).toOption.map fun p =>
        isTooDeep (p.renderText "" [] (String.ofList (quotedText callingItself.toList))).1) = some true := by
  obtain ⟨p, created⟩ := exists_default
  have ready := ready_of_create created installs_default
  have read : compiledText p.world.settings p.world.registry.listTags none none callingItself = .ok (counterUnit false 245) :=
    compiledText_of_isCounter created (by decide +kernel)
  have faithful : { p.world with depth := 0 }.Faithful := ready.faithful.of_fields rfl rfl rfl
  have kept : p.world.settings.layout.lstripBlocks = false := by
    rw [ready.settings.2.2]
    rfl
  have alone := outcome_callingItself faithful ready.settings.1 rfl read
  have quoted := outcome_quoted_callingItself (w := { p.world with depth := 0 }) rfl ready.found ready.connected faithful
    ready.settings.1 kept rfl read
  rw [created]
  constructor
  · show some (p.renderText "" [] callingItself).1.toOption = _
    rw [renderText_eq_renderTextAt, renderTextAt, alone]
    rfl
  · show some (isTooDeep (p.renderText "" [] _).1) = _
    rw [renderText_eq_renderTextAt, renderTextAt, quoted]
    rfl

end Stencil.Processor
