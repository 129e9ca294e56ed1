/-
# Proofs.TriggerEdits.Text -- the kept text says what the edits are

The text of edits is a document that can be read, whatever the paths, the models and the
values, and reading it gives the edits back, each with the value that its number is read as
(`ofText?_toText`).  So the text says just what the edits are if and only if every value is
among those whose number reads back to them (`ofText?_toText_iff`).
-/
import SensorMonitor.Proofs.Json.Records
import SensorMonitor.Proofs.TriggerEdits
import SensorMonitor.TriggerEdits.Codec

namespace SensorMonitor

set_option autoImplicit false

open Json (Fields Legible)

/-! ## One edit -/

namespace TriggerEdit

/-- The edit with the value that its number is read as. -/
def reread? (e : TriggerEdit) : Option TriggerEdit :=
  (Json.float? (.float e.value)).map fun x => { e with value := x }

/-- The number of the value reads back to it. -/
def Rereads (e : TriggerEdit) : Prop := Json.float? (.float e.value) = some e.value

/-- The severity can be written. -/
def Writable (e : TriggerEdit) : Prop := e.severity ≤ largestSeverity

theorem reread?_eq_self_iff (e : TriggerEdit) : e.reread? = some e ↔ e.Rereads := by
  unfold reread? Rereads
  cases Json.float? (.float e.value) with
  | none => simp
  | some x =>
      simp only [Option.map_some, Option.some.injEq]
      exact ⟨congrArg value, fun same => by rw [same]⟩

theorem legible_encode (e : TriggerEdit) : Legible e.encode := by
  refine Json.legible_ofMembers fun m member => ?_
  simp only [List.mem_cons, List.not_mem_nil, or_false] at member
  rcases member with rfl | rfl | rfl | rfl
  · exact .string e.model
  · exact .number (Json.legible_nat e.severity)
  · exact .string e.direction
  · exact Json.legible_float e.value

/-- **An edit that is written is read back**, with the value that its number is read as. -/
theorem decode?_encode {e : TriggerEdit} (writable : e.Writable) :
    decode? e.encode = e.reread? := by
  have severity : Json.natUpTo? largestSeverity (.nat e.severity) = some e.severity :=
    Json.natUpTo?_nat writable (by decide)
  have fields : Fields.of? ["Type", "Severity", "Direction", "Value"] e.encode =
      some ⟨false, [("Type", .text e.model), ("Severity", .nat e.severity),
        ("Direction", .text e.direction), ("Value", .float e.value)]⟩ :=
    Fields.of?_ofMembers _ _
  unfold decode?
  rw [fields]
  show ((Json.natUpTo? largestSeverity (.nat e.severity)).bind fun severity =>
    (Json.float? (.float e.value)).bind fun value => _) = _
  rw [severity]
  unfold reread?
  cases Json.float? (.float e.value) <;> rfl

/-- Only what can be written is read. -/
theorem writable_of_decode? {j : Json} {e : TriggerEdit} (read : decode? j = some e) :
    e.Writable := by
  unfold decode? at read
  obtain ⟨fields, -, read⟩ := Option.bind_eq_some_iff.1 read
  obtain ⟨model, -, read⟩ := Option.bind_eq_some_iff.1 read
  obtain ⟨severity, found, read⟩ := Option.bind_eq_some_iff.1 read
  obtain ⟨direction, -, read⟩ := Option.bind_eq_some_iff.1 read
  obtain ⟨value, -, read⟩ := Option.bind_eq_some_iff.1 read
  cases read
  obtain ⟨j', -, number⟩ := Option.bind_eq_some_iff.1 found
  exact Json.le_of_natUpTo? number

theorem writable_ofThreshold (model : String) (t : Threshold) : (ofThreshold model t).Writable := by
  show t.slot.level.severity ≤ largestSeverity
  cases t.slot.level <;> decide

end TriggerEdit

/-! ## All edits -/

namespace TriggerEdits

/-- Every severity can be written. -/
def Writable (edits : TriggerEdits) : Prop := ∀ path, ∀ e ∈ edits.under path, e.Writable

/-- The number of every value reads back to it. -/
def Rereads (edits : TriggerEdits) : Prop := ∀ path, ∀ e ∈ edits.under path, e.Rereads

/-- The edits of a list of paths and edits; later ones stand in the place of earlier ones. -/
def ofEntries (entries : List (String × List TriggerEdit)) : TriggerEdits :=
  ⟨entries.foldl (fun all (path, edits) => all.insert path edits) ∅⟩

/-- An entry with the values that its numbers are read as. -/
def rereadEntry? (entry : String × List TriggerEdit) : Option (String × List TriggerEdit) :=
  (entry.2.mapM TriggerEdit.reread?).map (entry.1, ·)

theorem under_of_mem_toList {edits : TriggerEdits} {path : String} {list : List TriggerEdit}
    (member : (path, list) ∈ edits.toList) : edits.under path = list := by
  unfold under
  rw [Std.TreeMap.mem_toList_iff_getElem?_eq_some.1 member]
  rfl

theorem legible_encode (edits : TriggerEdits) : Legible edits.encode := by
  refine Json.legible_ofMembers fun m member => ?_
  obtain rfl := List.mem_singleton.1 member
  refine Json.legible_ofMembers fun m member => ?_
  obtain ⟨entry, -, rfl⟩ := List.mem_map.1 member
  refine .array fun item member => ?_
  obtain ⟨e, -, rfl⟩ := List.mem_map.1 member
  exact e.legible_encode

/-- **The text of edits is read as these edits**, each with the value that its number is read as. -/
theorem ofText?_toText {edits : TriggerEdits} (writable : edits.Writable) :
    ofText? edits.toText = (edits.toList.mapM rereadEntry?).map ofEntries := by
  have entries : ∀ entry ∈ edits.toList,
      (do
        let items ← Json.items? (.array (entry.2.map TriggerEdit.encode))
        let read ← items.mapM TriggerEdit.decode?
        some (entry.1, read)) = rereadEntry? entry := by
    rintro ⟨path, list⟩ member
    have items : (list.map TriggerEdit.encode).mapM TriggerEdit.decode? =
        list.mapM TriggerEdit.reread? := by
      rw [List.mapM_map]
      refine mapM_congr fun e here => TriggerEdit.decode?_encode (writable path e ?_)
      rwa [under_of_mem_toList member]
    show ((list.map TriggerEdit.encode).mapM TriggerEdit.decode?).bind _ = _
    rw [items]
    unfold rereadEntry?
    cases list.mapM TriggerEdit.reread? <;> rfl
  have document : decode? edits.encode = decodeEntries? (.ofMembers
      (edits.toList.map fun entry => (entry.1, .array (entry.2.map TriggerEdit.encode)))) := rfl
  unfold ofText? toText
  rw [Json.parse?_pretty edits.legible_encode, Option.bind_some, document]
  unfold decodeEntries?
  rw [Json.members?_ofMembers]
  show Option.bind (List.mapM _ (List.map _ edits.toList)) _ = _
  rw [List.mapM_map]
  refine (congrArg (Option.bind · _) (mapM_congr entries)).trans ?_
  cases edits.toList.mapM rereadEntry? <;> rfl

/-! ## Edits that can be written -/

/-- Whatever stands under a path was among the entries. -/
theorem mem_of_getElem?_ofEntries {entries : List (String × List TriggerEdit)} {path : String}
    {list : List TriggerEdit} (there : (ofEntries entries).entries[path]? = some list) :
    (path, list) ∈ entries := by
  induction entries using List.reverseRecOn with
  | nil =>
      have nothing : (ofEntries []).entries[path]? = none := Std.TreeMap.getElem?_emptyc
      cases nothing.symm.trans there
  | append_singleton entries entry ih =>
      unfold ofEntries at there ih
      rw [List.foldl_concat, Std.TreeMap.getElem?_insert] at there
      split at there
      · next here =>
          obtain ⟨path', list'⟩ := entry
          obtain rfl : path' = path := Std.LawfulEqCmp.eq_of_compare here
          obtain rfl : list' = list := Option.some.inj there
          exact List.mem_append_right _ (List.mem_singleton_self _)
      · exact List.mem_append_left _ (ih there)

/-- **Whatever is read can be written.** -/
theorem writable_of_ofText? {text : String} {edits : TriggerEdits}
    (read : ofText? text = some edits) : edits.Writable := by
  obtain ⟨j, -, read⟩ := Option.bind_eq_some_iff.1 read
  obtain ⟨fields, -, read⟩ := Option.bind_eq_some_iff.1 read
  intro path e member
  unfold Fields.defaulted at read
  split at read
  · obtain ⟨members, -, read⟩ := Option.bind_eq_some_iff.1 read
    obtain ⟨entries, decoded, read⟩ := Option.bind_eq_some_iff.1 read
    obtain rfl : ofEntries entries = edits := Option.some.inj read
    unfold under at member
    cases there : (ofEntries entries).entries[path]? with
    | none =>
        rw [there] at member
        cases member
    | some list =>
        rw [there] at member
        -- each list of the entries is read item by item
        obtain ⟨value, -, entry⟩ := exists_of_forall₂ (forall₂_of_mapM_eq_some decoded)
          (mem_of_getElem?_ofEntries there)
        obtain ⟨items, -, entry⟩ := Option.bind_eq_some_iff.1 entry
        obtain ⟨read, each, same⟩ := Option.bind_eq_some_iff.1 entry
        obtain rfl : read = list := (Prod.mk.inj (Option.some.inj same)).2
        obtain ⟨item, -, here⟩ := exists_of_forall₂ (forall₂_of_mapM_eq_some each) member
        exact TriggerEdit.writable_of_decode? here
  · cases read
    cases member

/-- A new edit stands among edits that are all of a kind if it is of that kind. -/
theorem forall_upsert {P : TriggerEdit → Prop} {edits : TriggerEdits}
    (all : ∀ path, ∀ e ∈ edits.under path, P e) (path : String) {e : TriggerEdit} (new : P e) :
    ∀ other, ∀ e' ∈ (edits.upsert path e).under other, P e' := by
  intro other e' member
  rw [under_upsert] at member
  split at member
  · unfold put at member
    rcases List.mem_append.1 member with old | last
    · exact all path e' (List.mem_filter.1 old).1
    · obtain rfl := List.mem_singleton.1 last
      exact new
  · exact all other e' member

theorem Writable.upsert {edits : TriggerEdits} (writable : edits.Writable) (path : String)
    {e : TriggerEdit} (new : e.Writable) : (edits.upsert path e).Writable :=
  forall_upsert writable path new

theorem Rereads.upsert {edits : TriggerEdits} (rereads : edits.Rereads) (path : String)
    {e : TriggerEdit} (new : e.Rereads) : (edits.upsert path e).Rereads :=
  forall_upsert rereads path new

theorem rereads_empty : empty.Rereads := fun _ _ member => by cases member

/-! ## When the text says just what the edits are -/

/-- Entries with paths of their own are found under them. -/
theorem getElem?_ofEntries {entries : List (String × List TriggerEdit)}
    (distinct : entries.Pairwise fun a b => ¬ compare a.1 b.1 = .eq) {path : String}
    {list : List TriggerEdit} (member : (path, list) ∈ entries) :
    (ofEntries entries).entries[path]? = some list := by
  have same : Std.TreeMap.Equiv (Std.TreeMap.ofList entries) (ofEntries entries).entries :=
    Std.TreeMap.ofList_equiv_foldl
  rw [← same.getElem?_eq]
  exact Std.TreeMap.getElem?_ofList_of_mem (Std.ReflCmp.compare_self) distinct member

/-- The entries of edits are these edits. -/
theorem toList_ofEntries_toList (edits : TriggerEdits) :
    (ofEntries edits.toList).toList = edits.toList := by
  have distinct := Std.TreeMap.distinct_keys_toList (t := edits.entries)
  refine Std.TreeMap.equiv_iff_toList_eq.1 (.of_forall_constGet?_eq fun path => ?_)
  cases there : edits.entries[path]? with
  | some list =>
      exact getElem?_ofEntries distinct (Std.TreeMap.mem_toList_iff_getElem?_eq_some.2 there)
  | none =>
      have same : Std.TreeMap.Equiv (Std.TreeMap.ofList edits.toList)
        (ofEntries edits.toList).entries := Std.TreeMap.ofList_equiv_foldl
      rw [← same.getElem?_eq]
      refine Std.TreeMap.getElem?_ofList_of_contains_eq_false ?_
      rw [List.contains_eq_mem, decide_eq_false_iff_not, List.mem_map]
      rintro ⟨⟨path, list⟩, member, rfl⟩
      cases there.symm.trans (Std.TreeMap.mem_toList_iff_getElem?_eq_some.1 member)

/-- Reading changes no path. -/
theorem distinct_of_reread {list entries : List (String × List TriggerEdit)}
    (read : List.Forall₂ (fun entry entry' => rereadEntry? entry = some entry') list entries)
    (distinct : list.Pairwise fun a b => ¬ compare a.1 b.1 = .eq) :
    entries.Pairwise fun a b => ¬ compare a.1 b.1 = .eq := by
  have paths : entries.map Prod.fst = list.map Prod.fst := by
    clear distinct
    induction read with
    | nil => rfl
    | cons here _ ih =>
        obtain ⟨items, -, rfl⟩ := Option.map_eq_some_iff.1 here
        rw [List.map_cons, List.map_cons, ih]
  have apart := (List.pairwise_map (f := Prod.fst) (R := fun p q => ¬ compare p q = .eq)).2 distinct
  rw [← paths] at apart
  exact List.pairwise_map.1 apart

/-- An entry that is read stands among what is read. -/
theorem exists_of_reread {list entries : List (String × List TriggerEdit)}
    (read : List.Forall₂ (fun entry entry' => rereadEntry? entry = some entry') list entries)
    {path : String} {items : List TriggerEdit} (member : (path, items) ∈ list) :
    ∃ items', (path, items') ∈ entries ∧ items.mapM TriggerEdit.reread? = some items' := by
  obtain ⟨entry, there, here⟩ := exists_of_forall₂ read.flip member
  obtain ⟨items', same, rfl⟩ := Option.map_eq_some_iff.1 here
  exact ⟨items', there, same⟩

/-- **The text says just what the edits are** if and only if the number of every value reads back
to it. -/
theorem ofText?_toText_iff {edits : TriggerEdits} (writable : edits.Writable) :
    (∃ read, ofText? edits.toText = some read ∧ read.toList = edits.toList) ↔ edits.Rereads := by
  rw [ofText?_toText writable]
  constructor
  · rintro ⟨read, written, same⟩ path e member
    obtain ⟨entries, reread, rfl⟩ := Option.map_eq_some_iff.1 written
    have pairs := forall₂_of_mapM_eq_some reread
    unfold under at member
    cases there : edits.entries[path]? with
    | none =>
        rw [there] at member
        cases member
    | some items =>
        rw [there] at member
        -- what is read under the path is what stands there
        obtain ⟨items', found, items_⟩ :=
          exists_of_reread pairs (Std.TreeMap.mem_toList_iff_getElem?_eq_some.2 there)
        have distinct := distinct_of_reread pairs Std.TreeMap.distinct_keys_toList
        have listed := Std.TreeMap.mem_toList_iff_getElem?_eq_some.2
          (getElem?_ofEntries distinct found)
        have here : (path, items') ∈ edits.toList := same ▸ listed
        obtain rfl : items = items' := Option.some.inj
          (there.symm.trans (Std.TreeMap.mem_toList_iff_getElem?_eq_some.1 here))
        have all := List.forall₂_same.1 (forall₂_of_mapM_eq_some items_)
        exact e.reread?_eq_self_iff.1 (all e member)
  · intro rereads
    have all : ∀ entry ∈ edits.toList, rereadEntry? entry = some entry := by
      rintro ⟨path, list⟩ member
      have items : list.mapM TriggerEdit.reread? = some list := mapM_eq_some_self fun e here =>
        e.reread?_eq_self_iff.2 (rereads path e (under_of_mem_toList member ▸ here))
      show (list.mapM TriggerEdit.reread?).map _ = _
      rw [items]
      rfl
    rw [mapM_eq_some_self all]
    exact ⟨_, rfl, edits.toList_ofEntries_toList⟩

end TriggerEdits

end SensorMonitor
