/-
# Proofs.EditStore.Reopening -- when a saved store can be opened again

Opening refuses a file that is too large, and saving writes one all the same.  So after a save that
succeeded the store can be opened again, with the same edits, if and only if its text is not too
large and the number of every value reads back to it (`reopens_iff`).  The text has room for every
configuration path (`length_le_toText`), and so a single call with a long path is enough to lock the
store (`locked_out_by_long_path`).
-/
import SensorMonitor.Proofs.EditStore.Saving

namespace SensorMonitor

set_option autoImplicit false

/-! ## The size of the text -/

namespace Json.Writer

theorem length_le_string (s : String) : s.toList.length ≤ (string (some s)).length := by
  have units : ∀ text : List Char, text.length ≤ (text.flatMap unit).length := by
    intro text
    induction text with
    | nil => exact Nat.le_refl _
    | cons c rest ih =>
        have one : 1 ≤ (unit c).length := by
          unfold unit
          split_ifs
          all_goals simp
        rw [List.flatMap_cons, List.length_append, List.length_cons]
        omega
  unfold string
  have inner := units s.toList
  simp only [List.cons_append, List.length_cons, List.length_append]
  omega

/-- The text of an object has room for each key and each value. -/
theorem length_le_pretty_object (depth : Nat) {members : List (Option String × Json)}
    {key : Option String} {value : Json} (member : (key, value) ∈ members) :
    (string key).length ≤ (pretty depth (.object members)).length ∧
      (pretty (depth + 1) value).length ≤ (pretty depth (.object members)).length := by
  have inner : (string key).length ≤ (prettyMembers depth members).length ∧
      (pretty (depth + 1) value).length ≤ (prettyMembers depth members).length := by
    induction members with
    | nil => cases member
    | cons first rest ih =>
        obtain ⟨key', value'⟩ := first
        rw [prettyMembers]
        simp only [List.cons_append, List.length_cons, List.length_append]
        rcases List.mem_cons.1 member with same | member
        · cases same
          omega
        · have fits := ih member
          omega
  -- a brace stands in the place of the first comma
  have same : (pretty depth (.object members)).length = (prettyMembers depth members).length := by
    cases members with
    | nil => cases member
    | cons first rest =>
        obtain ⟨key', value'⟩ := first
        rw [pretty, prettyMembers]
        rfl
  rwa [same]

theorem length_le_pretty_ofMembers (depth : Nat) {members : List (String × Json)} {key : String}
    {value : Json} (member : (key, value) ∈ members) :
    key.toList.length ≤ (pretty depth (.ofMembers members)).length ∧
      (pretty (depth + 1) value).length ≤ (pretty depth (.ofMembers members)).length := by
  have there : (some key, value) ∈ members.map fun member => (some member.1, member.2) :=
    List.mem_map.2 ⟨_, member, rfl⟩
  obtain ⟨key_, value_⟩ := length_le_pretty_object depth there
  exact ⟨(length_le_string key).trans key_, value_⟩

end Json.Writer

theorem length_le_utf8ByteSize (text : List Char) :
    text.length ≤ (String.ofList text).utf8ByteSize := by
  induction text with
  | nil => exact Nat.zero_le _
  | cons c rest ih =>
      have one : (String.ofList [c]).utf8ByteSize = c.utf8Size := by
        simp
      have positive := c.utf8Size_pos
      rw [← List.singleton_append, String.ofList_append, String.utf8ByteSize_append, one,
        List.length_append, List.length_singleton]
      omega

/-- **The text has room for every configuration path.** -/
theorem TriggerEdits.length_le_toText {edits : TriggerEdits} {path : String}
    (some_ : edits.under path ≠ []) : path.toList.length ≤ edits.toText.utf8ByteSize := by
  unfold under at some_
  cases there : edits.entries[path]? with
  | none =>
      rw [there] at some_
      exact absurd rfl some_
  | some list =>
      have listed : (path, list) ∈ edits.toList :=
        Std.TreeMap.mem_toList_iff_getElem?_eq_some.2 there
      let entries := edits.toList.map fun entry =>
        (entry.1, Json.array (entry.2.map TriggerEdit.encode))
      have member : (path, Json.array (list.map TriggerEdit.encode)) ∈ entries :=
        List.mem_map.2 ⟨_, listed, rfl⟩
      have document : ("sensors", Json.ofMembers entries) ∈ [("sensors", Json.ofMembers entries)] :=
        List.mem_singleton_self _
      calc path.toList.length ≤ (Json.Writer.pretty 1 (.ofMembers entries)).length :=
            (Json.Writer.length_le_pretty_ofMembers 1 member).1
        _ ≤ (Json.Writer.pretty 0 edits.encode).length :=
            (Json.Writer.length_le_pretty_ofMembers 0 document).2
        _ ≤ edits.toText.utf8ByteSize := length_le_utf8ByteSize _

namespace EditStore

/-! ## Opening what was saved -/

/-- A file is opened unless it is too large, and if its text can be read. -/
theorem openAt_of_read {files : Files} {path text : String}
    (read : files.read (.ofText path) = .ok text.toUTF8) : openAt files path =
      if sizeLimit < text.utf8ByteSize then .error (.oversized path text.utf8ByteSize sizeLimit)
      else match TriggerEdits.ofText? text with
        | some edits => .ok ⟨path, edits⟩
        | none => .error .badDocument := by
  have found := Files.find_of_read read
  have stands : files.exists? (.ofText path) = true := by
    unfold Files.exists?
    rw [found]
    rfl
  have checked : files.checkSize path sizeLimit =
      if sizeLimit < text.utf8ByteSize then .error (.oversized path text.utf8ByteSize sizeLimit)
      else .ok () := by
    unfold Files.checkSize Files.size
    rw [found]
    rfl
  unfold openAt load Files.readTextUpTo
  rw [if_pos stands, checked, Files.readText_of_read read]
  by_cases large : sizeLimit < text.utf8ByteSize
  · rw [if_pos large, if_pos large]
    rfl
  · rw [if_neg large, if_neg large]
    cases read_ : TriggerEdits.ofText? text with
    | none =>
        simp only [bind, Except.bind, read_]
        rfl
    | some edits =>
        simp only [bind, Except.bind, read_]
        rfl

/-- A file is opened with certain edits if and only if it is not too large and its text is read as
them. -/
theorem openAt_edits_iff {files : Files} {path text : String}
    (read : files.read (.ofText path) = .ok text.toUTF8) (edits : TriggerEdits) :
    (∃ store, openAt files path = .ok store ∧ store.path = path ∧
        store.edits.toList = edits.toList) ↔
      text.utf8ByteSize ≤ sizeLimit ∧
        ∃ read, TriggerEdits.ofText? text = some read ∧ read.toList = edits.toList := by
  rw [openAt_of_read read]
  by_cases large : sizeLimit < text.utf8ByteSize
  · rw [if_pos large]
    constructor
    · rintro ⟨store, refused, -⟩
      cases refused
    · rintro ⟨fits, -⟩
      omega
  · rw [if_neg large]
    constructor
    · rintro ⟨store, opened, -, same⟩
      refine ⟨Nat.le_of_not_lt large, ?_⟩
      cases decoded : TriggerEdits.ofText? text with
      | none =>
          rw [decoded] at opened
          cases opened
      | some edits' =>
          rw [decoded] at opened
          cases opened
          exact ⟨edits', rfl, same⟩
    · rintro ⟨-, edits', decoded, same⟩
      rw [decoded]
      exact ⟨_, rfl, rfl, same⟩

/-- **What was saved can be opened again, with the same edits, if and only if** its text is not too
large and the number of every value reads back to it.  A text that is too large is refused. -/
theorem reopens_iff {files : Files} {path : String} {store : EditStore}
    (opened : openAt files path = .ok store) (calls : List Call) (c : Call) :
    let before := store.performAll files calls
    let after := c.perform before.1 before.2
    let size := after.1.edits.toText.utf8ByteSize
    after.2.2 = .ok () →
      ((∃ reopened, openAt after.2.1 path = .ok reopened ∧ reopened.path = path ∧
          reopened.edits.toList = after.1.edits.toList) ↔
        size ≤ sizeLimit ∧ after.1.edits.Rereads) ∧
      (sizeLimit < size → openAt after.2.1 path = .error (.oversized path size sizeLimit)) := by
  intro before after size saved
  obtain ⟨rfl, writable⟩ := openAt_eq_ok opened
  have writable' : after.1.edits.Writable := by
    rw [show after.1 = _ from perform_performAll_fst store files calls c]
    exact writable_upsertAll writable _
  have outcome : Outcome (.ofText store.path) after.1.edits.toText.toUTF8 before.2 after.2 :=
    outcome_performAll store files calls c
  generalize after.2 = result at outcome saved
  obtain ⟨files', answer⟩ := result
  obtain rfl : answer = .ok () := saved
  constructor
  · rw [openAt_edits_iff outcome.read, TriggerEdits.ofText?_toText_iff writable']
  · intro large
    rw [openAt_of_read outcome.read]
    exact if_pos large

theorem reopens_iff_sample :
    openAt .empty "thresholds.json" = .ok ⟨"thresholds.json", .empty⟩ ∧
      let before := performAll ⟨"thresholds.json", .empty⟩ .empty [lostCall]
      let after := savedCall.perform before.1 before.2
      after.2.2 = .ok () ∧
        ∃ reopened, openAt after.2.1 "thresholds.json" = .ok reopened ∧
          reopened.path = "thresholds.json" ∧ reopened.edits.toList = after.1.edits.toList := by
  have opened : openAt .empty "thresholds.json" = .ok ⟨"thresholds.json", .empty⟩ :=
    openAt_name (by decide +kernel) rfl
  refine ⟨opened, ?_⟩
  intro before after
  have saved : after.2.2 = .ok () := save_succeeds_in_empty _
  have fits : after.1.edits.toText.utf8ByteSize ≤ sizeLimit := by decide +kernel
  have rereads : after.1.edits.Rereads :=
    (TriggerEdits.rereads_empty.upsert _ (by unfold TriggerEdit.Rereads; decide +kernel)).upsert _
      (by unfold TriggerEdit.Rereads; decide +kernel)
  exact ⟨saved, (reopens_iff opened [lostCall] savedCall saved).1.2 ⟨fits, rereads⟩⟩

/-- A call with a configuration path that is longer than a file of edits may be. -/
def longCall : Call :=
  ⟨String.ofList (List.replicate (sizeLimit + 1) 'a'), "TMP75", .ofTrigger ⟨.warning, .high⟩ 70,
    none⟩

/-- **One call with a long path locks the store**: it is saved, and can not be opened again. -/
theorem locked_out_by_long_path :
    openAt .empty "thresholds.json" = .ok ⟨"thresholds.json", .empty⟩ ∧
      longCall.threshold.trigger.isFinite ∧
      let after := longCall.perform ⟨"thresholds.json", .empty⟩ .empty
      after.2.2 = .ok () ∧ ∃ size, openAt after.2.1 "thresholds.json" =
        .error (.oversized "thresholds.json" size sizeLimit) := by
  refine ⟨openAt_name (by decide +kernel) rfl, by decide +kernel, ?_⟩
  intro after
  have saved : after.2.2 = .ok () := save_succeeds_in_empty _
  have outcome : Outcome (.ofText "thresholds.json") after.1.edits.toText.toUTF8 .empty after.2 :=
    outcome_performAll ⟨"thresholds.json", .empty⟩ .empty [] longCall
  have large : sizeLimit < after.1.edits.toText.utf8ByteSize := by
    have kept : after.1.edits.under longCall.configuration ≠ [] := by
      have added : after.1.edits.under longCall.configuration =
          TriggerEdits.put [] longCall.edit.2 := by
        refine (TriggerEdits.under_upsert ..).trans (if_pos rfl)
      rw [added]
      simp [TriggerEdits.put]
    have room := TriggerEdits.length_le_toText kept
    rw [longCall, String.toList_ofList, List.length_replicate] at room
    exact room
  generalize after.2 = result at outcome saved
  obtain ⟨files', answer⟩ := result
  obtain rfl : answer = .ok () := saved
  rw [openAt_of_read outcome.read, if_pos large]
  exact ⟨rfl, _, rfl⟩

end EditStore

end SensorMonitor
