/-
# Proofs.EditStore.Saving -- the kept edits are saved whole or not at all

A save either fails and has only made directories and written beside the file, or it has moved a
file with the whole text to its place (`Outcome`, `outcome_save`).  An edit stays in memory
whatever becomes of its save, so after every sequence of calls the next save that succeeds
leaves the text of all edits made so far, which is read as just these edits as long as their
numbers read back (`saves_whole_or_not_at_all`).
-/
import SensorMonitor.EditStore
import SensorMonitor.Proofs.Files.Beside
import SensorMonitor.Proofs.TriggerEdits.Text

namespace SensorMonitor

set_option autoImplicit false

open Files (Beside Spares readText_of_read)

/-! ## Faults -/

namespace SaveFault

variable {α : Type} {fault : Option SaveFault} {step : SaveStep}

/-- A step that succeeds was not struck. -/
theorem strike_eq_ok {result : Except SystemError α} {a : α}
    (ok : strike fault step result = .ok a) :
    result = .ok a ∧ ∀ f, fault = some f → f.step ≠ step := by
  unfold strike at ok
  cases fault with
  | none => exact ⟨ok, fun f none_ => by cases none_⟩
  | some f =>
      dsimp only at ok
      split at ok
      · cases ok
      · next apart =>
          refine ⟨ok, fun f' same => ?_⟩
          obtain rfl := Option.some.inj same
          exact apart

/-- All bytes get through a write that is not struck. -/
theorem bytesWritten_eq (whole : ∀ f, fault = some f → f.step ≠ .write) (bytes : ByteArray) :
    bytesWritten fault bytes = bytes := by
  unfold bytesWritten
  cases fault with
  | none => rfl
  | some f => exact if_neg (whole f rfl)

end SaveFault

namespace EditStore

/-! ## One save -/

/-- What a save comes to.  Until the file is replaced, things happen only beside it. -/
inductive Outcome (path : Files.Path) (bytes : ByteArray) (before : Files) :
    Files × Except Failure Unit → Prop where
  | failed {after : Files} (failure : Failure) (beside : Beside (temporaryOf path) before after) :
      Outcome path bytes before (after, .error failure)
  | done {filled after : Files} (read : filled.read (temporaryOf path) = .ok bytes)
      (moved : filled.rename (temporaryOf path) path = .ok after) :
      Outcome path bytes before (after, .ok ())

theorem outcome_fill (files : Files) (path : Files.Path) (bytes : ByteArray)
    (fault : Option SaveFault) : Outcome path bytes files (fill files path bytes fault) := by
  unfold fill
  dsimp only
  cases create : SaveFault.strike fault .createTemporary
      (files.write (temporaryOf path) .empty) with
  | error cause => exact .failed _ ((Files.Grows.refl files).beside _)
  | ok created =>
      obtain ⟨written, -⟩ := SaveFault.strike_eq_ok create
      -- the temporary file was just made, so there is no failure in filling it but a fault
      obtain ⟨filled, again⟩ :=
        Files.exists_write (Files.read_of_write written) (SaveFault.bytesWritten fault bytes)
      have beside : Beside (temporaryOf path) files filled :=
        (Files.beside_write written).trans (Files.beside_write again)
      have result : (created.write (temporaryOf path)
          (SaveFault.bytesWritten fault bytes)).toOption.getD created = filled := by
        rw [again]
        rfl
      dsimp only
      rw [result]
      cases sync : SaveFault.strike fault .write (SaveFault.strike fault .sync (.ok ())) with
      | error cause => exact .failed _ beside
      | ok _ =>
          obtain ⟨-, whole⟩ := SaveFault.strike_eq_ok sync
          rw [SaveFault.bytesWritten_eq whole] at again
          dsimp only
          cases replace : SaveFault.strike fault .replace
              (filled.rename (temporaryOf path) path) with
          | error cause => exact .failed _ beside
          | ok renamed =>
              exact .done (Files.read_of_write again) (SaveFault.strike_eq_ok replace).1

theorem outcome_save (files : Files) (path : String) (edits : TriggerEdits)
    (fault : Option SaveFault) :
    Outcome (.ofText path) edits.toText.toUTF8 files (save files path edits fault) := by
  unfold save
  cases SaveFault.strike fault .makeDirectories (.ok ()) with
  | error cause => exact .failed _ ((Files.Grows.refl files).beside _)
  | ok _ =>
      have grows := files.grows_makeDirectories (Files.Path.ofText path).parent
      dsimp only
      generalize files.makeDirectories (Files.Path.ofText path).parent = result at grows ⊢
      obtain ⟨made, (cause | _)⟩ := result
      · exact .failed _ (grows.beside _)
      · dsimp only
        have rest := outcome_fill made (.ofText path) edits.toText.toUTF8 fault
        generalize fill made (.ofText path) edits.toText.toUTF8 fault = result at rest ⊢
        cases rest with
        | failed failure beside => exact .failed failure ((grows.beside _).trans beside)
        | done read moved => exact .done read moved

variable {path : Files.Path} {bytes : ByteArray} {before after : Files}

/-- A save that fails spares the file. -/
theorem Outcome.spares {failure : Failure}
    (outcome : Outcome path bytes before (after, .error failure)) : Spares path before after := by
  cases outcome with
  | failed _ beside => exact beside.spares (by decide)

/-- A save that succeeds leaves all the bytes in the file. -/
theorem Outcome.read (outcome : Outcome path bytes before (after, .ok ())) :
    after.read path = .ok bytes := by
  cases outcome with
  | done read moved => exact Files.read_of_rename moved read

/-- A save that no fault strikes succeeds where both files can be written. -/
theorem save_succeeds {files made written created : Files} {path : String} {bytes : ByteArray}
    (parents : files.makeDirectories (Files.Path.ofText path).parent = (made, .ok ()))
    (possible : made.write (temporaryOf (.ofText path)) .empty = .ok created)
    (possible' : made.write (.ofText path) bytes = .ok written) (edits : TriggerEdits) :
    (save files path edits none).2 = .ok () := by
  obtain ⟨filled, again⟩ :=
    Files.exists_write (Files.read_of_write possible) edits.toText.toUTF8
  obtain ⟨_, later⟩ := Files.exists_write_after possible possible'
  obtain ⟨_, later'⟩ := Files.exists_write_after again later
  obtain ⟨moved, renamed⟩ := Files.exists_rename (Files.read_of_write again) later'
  unfold save
  simp only [SaveFault.strike, parents]
  unfold fill
  simp only [SaveFault.strike, SaveFault.bytesWritten, possible, again, Except.toOption,
    Option.getD_some, renamed]

/-- In the top directory a save that no fault strikes succeeds unless directories have the names of
the file and of the temporary one. -/
theorem save_name_succeeds {files : Files} {name temporary : String}
    (named : Files.Path.IsName name) (free : files.node? [name] ≠ some .directory)
    (beside : temporaryOf ⟨[name]⟩ = ⟨[temporary]⟩) (named' : Files.Path.IsName temporary)
    (free' : files.node? [temporary] ≠ some .directory) (edits : TriggerEdits) :
    (save files name edits none).2 = .ok () := by
  have path : Files.Path.ofText name = ⟨[name]⟩ := Files.Path.ofText_name named
  have parents : files.makeDirectories (Files.Path.parent ⟨[name]⟩) = (files, .ok ()) := by
    unfold Files.makeDirectories
    rw [Files.Path.upward_parent_name named]
    rfl
  refine save_succeeds (by rw [path]; exact parents)
    (by rw [path, beside]; exact Files.write_name named' free' .empty)
    (by rw [path]; exact Files.write_name named free .empty) edits

/-- In an empty tree edits can be saved. -/
theorem save_succeeds_in_empty (edits : TriggerEdits) :
    (save .empty "thresholds.json" edits none).2 = .ok () := by
  have free (name : String) : Files.node? .empty [name] ≠ some .directory := nofun
  exact save_name_succeeds (by decide +kernel) (free _)
    (show temporaryOf _ = ⟨["thresholds.json.tmp"]⟩ by decide +kernel) (by decide +kernel) (free _)
    edits

/-! ## Calls one after another -/

/-- A call to keep an edited threshold, and the fault that its save meets. -/
structure Call where
  configuration : String
  model : String
  threshold : Threshold
  fault : Option SaveFault

namespace Call

/-- The edit that a call makes, under its configuration path. -/
def edit (c : Call) : String × TriggerEdit :=
  (c.configuration, .ofThreshold c.model c.threshold)

/-- What comes of a call: the store, the files and the answer. -/
def perform (c : Call) (store : EditStore) (files : Files) :
    EditStore × Files × Except Failure Unit :=
  store.persist files c.configuration c.model c.threshold c.fault

end Call

/-- The store and the files after calls one after another, whatever their answers. -/
def performAll (store : EditStore) (files : Files) (calls : List Call) : EditStore × Files :=
  calls.foldl (fun state c =>
    let result := c.perform state.1 state.2
    (result.1, result.2.1)) (store, files)

theorem perform_fst (c : Call) (store : EditStore) (files : Files) :
    (c.perform store files).1 = ⟨store.path, store.edits.upsert c.edit.1 c.edit.2⟩ := rfl

/-- An edit stays in the store, whatever becomes of its save. -/
theorem performAll_fst (store : EditStore) (files : Files) (calls : List Call) :
    (store.performAll files calls).1 =
      ⟨store.path, store.edits.upsertAll (calls.map Call.edit)⟩ := by
  induction calls generalizing store files with
  | nil => rfl
  | cons c rest ih => exact ih ..

/-- What the last of several calls leaves in the store. -/
theorem perform_performAll_fst (store : EditStore) (files : Files) (calls : List Call) (c : Call) :
    (c.perform (store.performAll files calls).1 (store.performAll files calls).2).1 =
      ⟨store.path, store.edits.upsertAll ((calls ++ [c]).map Call.edit)⟩ := by
  rw [perform_fst, performAll_fst, List.map_append, List.map_singleton,
    TriggerEdits.upsertAll_concat]

/-- What the save of the last of several calls comes to. -/
theorem outcome_performAll (store : EditStore) (files : Files) (calls : List Call) (c : Call) :
    let before := store.performAll files calls
    let after := c.perform before.1 before.2
    Outcome (.ofText store.path) after.1.edits.toText.toUTF8 before.2 after.2 := by
  intro before after
  have path : before.1.path = store.path := by rw [performAll_fst store files calls]
  rw [← path]
  exact outcome_save ..

theorem writable_upsertAll {edits : TriggerEdits} (writable : edits.Writable) (calls : List Call) :
    (edits.upsertAll (calls.map Call.edit)).Writable := by
  induction calls generalizing edits with
  | nil => exact writable
  | cons c rest ih =>
      exact ih (writable.upsert _ (TriggerEdit.writable_ofThreshold c.model c.threshold))

/-- A store that is opened keeps its edits at its path, and they can be written. -/
theorem openAt_eq_ok {files : Files} {path : String} {store : EditStore}
    (opened : openAt files path = .ok store) : store.path = path ∧ store.edits.Writable := by
  unfold openAt at opened
  cases loaded : load files path with
  | error failure =>
      rw [loaded] at opened
      cases opened
  | ok edits =>
      rw [loaded] at opened
      cases opened
      refine ⟨rfl, ?_⟩
      unfold load at loaded
      split at loaded
      · obtain ⟨text, -, loaded⟩ := bind_eq_ok loaded
        cases read : TriggerEdits.ofText? text with
        | none =>
            rw [read] at loaded
            cases loaded
        | some edits' =>
            rw [read] at loaded
            cases loaded
            exact TriggerEdits.writable_of_ofText? read
      · cases loaded
        intro path e member
        cases member

/-- Where nothing has the name of the file, a store is opened without edits. -/
theorem openAt_name {files : Files} {name : String} (named : Files.Path.IsName name)
    (nothing : files.node? [name] = none) : openAt files name = .ok ⟨name, .empty⟩ := by
  have missing : files.exists? (.ofText name) = false := by
    unfold Files.exists? Files.find
    rw [Files.Path.ofText_name named, Files.locate_name named]
    dsimp only
    rw [nothing]
    rfl
  unfold openAt load
  rw [missing]
  rfl

/-- **A save is whole or does nothing to the file.**  After any calls, whatever became of them, the
store has the edits it was opened with and those of all calls, of each path, severity and
direction the last.  When the next save fails, the file stays as it was.  When it succeeds, the
file holds the text of all these edits, which is read as just these edits if and only if the
number of every value reads back to it. -/
theorem saves_whole_or_not_at_all {files : Files} {path : String} {store : EditStore}
    (opened : openAt files path = .ok store) (calls : List Call) (c : Call) :
    let before := store.performAll files calls
    let after := c.perform before.1 before.2
    after.1.edits = store.edits.upsertAll ((calls ++ [c]).map Call.edit) ∧
    (∀ configuration severity direction,
      (after.1.edits.under configuration).filter (·.isFor severity direction) =
        match TriggerEdits.lastAdded configuration severity direction
          ((calls ++ [c]).map Call.edit) with
        | some e => [e]
        | none => (store.edits.under configuration).filter (·.isFor severity direction)) ∧
    match after.2.2 with
    | .error _ => Spares (.ofText path) before.2 after.2.1
    | .ok () => after.2.1.readText (.ofText path) = .ok after.1.edits.toText ∧
        ((∃ read, TriggerEdits.ofText? after.1.edits.toText = some read ∧
          read.toList = after.1.edits.toList) ↔ after.1.edits.Rereads) := by
  intro before after
  obtain ⟨rfl, writable⟩ := openAt_eq_ok opened
  have made : after.1.edits = store.edits.upsertAll ((calls ++ [c]).map Call.edit) := by
    rw [perform_performAll_fst store files calls c]
  have outcome := outcome_performAll store files calls c
  refine ⟨made, fun configuration severity direction => ?_, ?_⟩
  · rw [made]
    exact TriggerEdits.filter_under_upsertAll ..
  · have writable' : after.1.edits.Writable := made ▸ writable_upsertAll writable _
    change Outcome _ _ before.2 after.2 at outcome
    generalize after.2 = result at outcome
    obtain ⟨files', (failure | _)⟩ := result
    · exact outcome.spares
    · exact ⟨readText_of_read outcome.read, TriggerEdits.ofText?_toText_iff writable'⟩

/-- A call whose save finds the disk full. -/
def lostCall : Call :=
  ⟨"/inv/a", "TMP75", .ofTrigger ⟨.warning, .high⟩ 80, some ⟨.makeDirectories, .number 28, 0⟩⟩

/-- A call whose save meets no fault. -/
def savedCall : Call := ⟨"/inv/b", "TMP75", .ofTrigger ⟨.warning, .high⟩ 70, none⟩

theorem saves_whole_or_not_at_all_sample :
    openAt .empty "thresholds.json" = .ok ⟨"thresholds.json", .empty⟩ ∧
      let before := performAll ⟨"thresholds.json", .empty⟩ .empty [lostCall]
      let after := savedCall.perform before.1 before.2
      after.2.2 = .ok () ∧
        after.2.1.readText (.ofText "thresholds.json") = .ok after.1.edits.toText ∧
        ∃ read, TriggerEdits.ofText? after.1.edits.toText = some read ∧
          read.toList = [("/inv/a", [⟨"TMP75", 0, "greater than", 80⟩]),
            ("/inv/b", [⟨"TMP75", 0, "greater than", 70⟩])] := by
  have named : Files.Path.IsName "thresholds.json" := by decide +kernel
  have opened : openAt .empty "thresholds.json" = .ok ⟨"thresholds.json", .empty⟩ :=
    openAt_name named rfl
  refine ⟨opened, ?_⟩
  intro before after
  have saved : after.2.2 = .ok () := save_succeeds_in_empty _
  have rereads : after.1.edits.Rereads :=
    (TriggerEdits.rereads_empty.upsert _ (by unfold TriggerEdit.Rereads; decide +kernel)).upsert _
      (by unfold TriggerEdit.Rereads; decide +kernel)
  have listed : after.1.edits.toList = [("/inv/a", [⟨"TMP75", 0, "greater than", 80⟩]),
      ("/inv/b", [⟨"TMP75", 0, "greater than", 70⟩])] := by
    decide +kernel
  obtain ⟨-, -, result⟩ := saves_whole_or_not_at_all opened [lostCall] savedCall
  change match after.2.2 with | .error _ => _ | .ok () => _ at result
  rw [saved] at result
  obtain ⟨written, same⟩ := result
  obtain ⟨read, text, edits⟩ := same.2 rereads
  exact ⟨saved, written, read, text, edits.trans listed⟩

end EditStore

end SensorMonitor
