/-
# EditStore -- edits that outlive a restart

Edits are kept in one file.  Saving never writes into it: the whole text goes to a
temporary file beside it, and only when it is there complete does it take the place of
the file.  Each step of saving can fail, and a step that fails ends it.  An edit whose
saving failed stays in memory and goes into the next text.
-/
import SensorMonitor.Files
import SensorMonitor.TriggerEdits.Codec

namespace SensorMonitor

set_option autoImplicit false

/-- The steps of saving. -/
inductive SaveStep where
  | makeDirectories
  | createTemporary
  | write
  | sync
  | replace
  deriving DecidableEq, Repr

/-- A failure of one step.  When it strikes in the middle of writing, some bytes have
already been written. -/
structure SaveFault where
  step : SaveStep
  cause : SystemError
  written : Nat
  deriving DecidableEq

namespace SaveFault

/-- What comes of a step that would have this result. -/
def strike {α : Type} (fault : Option SaveFault) (step : SaveStep)
    (result : Except SystemError α) : Except SystemError α :=
  match fault with
  | some f => if f.step = step then .error f.cause else result
  | none => result

/-- The bytes that get through when writing fails. -/
def bytesWritten (fault : Option SaveFault) (bytes : ByteArray) : ByteArray :=
  match fault with
  | some f => if f.step = .write then bytes.extract 0 f.written else bytes
  | none => bytes

end SaveFault

/-- The file that edits are kept in, and the edits. -/
structure EditStore where
  path : String
  edits : TriggerEdits

namespace EditStore

/-- The largest file of edits, in bytes. -/
def sizeLimit : Nat := 1024 * 1024

/-- The temporary file that is written first. -/
def temporaryOf (path : Files.Path) : Files.Path := path.withExtension "json.tmp"

/-- Fills the temporary file and puts it in the place of the file. -/
def fill (files : Files) (path : Files.Path) (bytes : ByteArray) (fault : Option SaveFault) :
    Files × Except Failure Unit :=
  let temporary := temporaryOf path
  match SaveFault.strike fault .createTemporary (files.write temporary ByteArray.empty) with
  | .error cause => (files, .error (.unwritable temporary.text cause))
  | .ok created =>
      let written := created.write temporary (SaveFault.bytesWritten fault bytes)
      let filled := written.toOption.getD created
      match SaveFault.strike fault .write (SaveFault.strike fault .sync (.ok ())) with
      | .error cause => (filled, .error (.unwritable temporary.text cause))
      | .ok () =>
          match SaveFault.strike fault .replace (filled.rename temporary path) with
          | .error cause => (filled, .error (.unwritable path.text cause))
          | .ok renamed => (renamed, .ok ())

/-- Saves edits at a path. -/
def save (files : Files) (path : String) (edits : TriggerEdits) (fault : Option SaveFault) :
    Files × Except Failure Unit :=
  let path := Files.Path.ofText path
  match SaveFault.strike fault .makeDirectories (.ok ()) with
  | .error cause => (files, .error (.system cause))
  | .ok () =>
      match files.makeDirectories path.parent with
      | (files, .error cause) => (files, .error (.system cause))
      | (files, .ok ()) => fill files path edits.toText.toUTF8 fault

/-- Loads the edits at a path; where nothing stands there are none. -/
def load (files : Files) (path : String) : Except Failure TriggerEdits :=
  if files.exists? (.ofText path) then do
    let text ← files.readTextUpTo path sizeLimit
    match TriggerEdits.ofText? text with
    | some edits => .ok edits
    | none => .error .badDocument
  else .ok .empty

/-- The store of the edits at a path. -/
def openAt (files : Files) (path : String) : Except Failure EditStore :=
  (load files path).map fun edits => ⟨path, edits⟩

/-- Keeps an edited threshold. -/
def persist (store : EditStore) (files : Files) (configuration model : String) (t : Threshold)
    (fault : Option SaveFault) : EditStore × Files × Except Failure Unit :=
  let edits := store.edits.upsert configuration (TriggerEdit.ofThreshold model t)
  let (files, result) := save files store.path edits fault
  (⟨store.path, edits⟩, files, result)

/-- Applies the kept edits to the thresholds under a configuration path. -/
def apply (store : EditStore) (configuration : String) (ts : List Threshold) :
    List Threshold × Nat :=
  store.edits.apply configuration ts

end EditStore

end SensorMonitor
