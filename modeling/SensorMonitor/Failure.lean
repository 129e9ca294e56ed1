/-
# Failure -- why something was refused

One constructor a cause, with what the message names, and the wording of all of
them in `Failure.message`.  Flaws of settings, thresholds and names are causes of
their own; `described` stands for a flaw that someone else has put into words.
-/
import SensorMonitor.Number.Text
import SensorMonitor.SystemError
import SensorMonitor.Text.Quoted

namespace SensorMonitor

set_option autoImplicit false

/-! ## Flaws -/

/-- What is wrong with a threshold. -/
inductive ThresholdFlaw where
  | triggerNotFinite
  | hysteresisNotUsable
  | repeated
  | notDefined
  | unknownSeverity (severity : Nat)
  | unknownDirection (direction : String)
  | described (text : String)
  deriving DecidableEq

/-- The words for a flaw of a threshold. -/
def ThresholdFlaw.text : ThresholdFlaw → String
  | .triggerNotFinite => "trigger value must be finite"
  | .hysteresisNotUsable => "hysteresis must be a non-negative number"
  | .repeated => "defined more than once"
  | .notDefined => "not defined on this sensor"
  | .unknownSeverity severity => s!"unknown severity {severity}"
  | .unknownDirection direction => s!"unknown direction '{direction}'"
  | .described text => text

/-- What is wrong with a name. -/
inductive NameFlaw where
  | empty
  | tooLong (name : String) (limit : Nat)
  | controlCharacter (name : String)
  | described (text : String)
  deriving DecidableEq

/-- The words for a flaw of a name. -/
def NameFlaw.text : NameFlaw → String
  | .empty => "name cannot be empty"
  | .tooLong name limit => s!"'{name}' exceeds maximum length of {limit} characters"
  | .controlCharacter name => s!"'{Text.asciiEscaped name}' contains control characters"
  | .described text => text

/-- What is wrong with the path of an attribute file. -/
inductive PathFlaw where
  | tooLong (length limit : Nat)
  | empty
  | notAbsolute
  | outside (roots : List String)
  | forbiddenSequence (sequence : String)
  | forbiddenCharacter (c : Char)
  deriving DecidableEq

/-- The words for a flaw of a path. -/
def PathFlaw.text : PathFlaw → String
  | .tooLong length limit => s!"Path too long: {length} > {limit} chars"
  | .empty => "Path cannot be empty"
  | .notAbsolute => "Path must be absolute"
  | .outside roots => s!"Path must be under one of: {Text.quotedList roots}"
  | .forbiddenSequence sequence => s!"Path contains forbidden sequence: {Text.quoted sequence}"
  | .forbiddenCharacter c => s!"Path contains invalid character: {Text.quotedChar c}"

/-- What is wrong with a setting, beside its name. -/
inductive SettingFlaw where
  | boundsNotFinite
  | boundsNotAscending (min max : Float)
  | tooManyThresholds (count limit : Nat)
  | unitsUnknown (sensor : String)
  | pathMissing
  | path (flaw : PathFlaw)
  | scaleNotUsable
  | offsetNotFinite
  | nameTaken (name path : String)
  | described (field text : String)
  deriving DecidableEq

namespace SettingFlaw

/-- The setting at fault. -/
def field : SettingFlaw → String
  | .boundsNotFinite => "MinReading/MaxReading"
  | .boundsNotAscending _ _ => "MinReading/MaxReading"
  | .tooManyThresholds _ _ => "Thresholds"
  | .unitsUnknown _ => "Units"
  | .pathMissing => "Path"
  | .path _ => "Path"
  | .scaleNotUsable => "Scale"
  | .offsetNotFinite => "Offset"
  | .nameTaken _ _ => "Name"
  | .described field _ => field

/-- The words for a flaw of a setting. -/
def text : SettingFlaw → String
  | .boundsNotFinite => "bounds must be finite"
  | .boundsNotAscending min max => s!"min {Number.plain min} must be below max {Number.plain max}"
  | .tooManyThresholds count limit => s!"{count} thresholds defined, max {limit}"
  | .unitsUnknown sensor => s!"cannot determine units for {sensor}"
  | .pathMissing => "hwmon sensor needs a Path"
  | .path flaw => flaw.text
  | .scaleNotUsable => "must be finite and non-zero"
  | .offsetNotFinite => "must be finite"
  | .nameTaken sensor holder => s!"{sensor} is already used by {holder}"
  | .described _ text => text

end SettingFlaw

/-! ## Failures -/

/-- Why an operation was refused. -/
inductive Failure where
  | system (cause : SystemError)
  | unreadable (path : String) (cause : SystemError)
  | unwritable (path : String) (cause : SystemError)
  | oversized (path : String) (size limit : Nat)
  | noReading (sensor reason : String)
  | malformedReading (path content : String)
  | configuration (reason : String)
  | badDocument
  | setting (flaw : SettingFlaw)
  | threshold (property : String) (flaw : ThresholdFlaw)
  | units (unit : String)
  | name (flaw : NameFlaw)
  | denied (reason : String)
  | unpublished (path reason : String)
  | described (text : String)
  deriving DecidableEq

namespace Failure

/-- The words of a failure. -/
def message : Failure → String
  | .system cause => s!"I/O error: {cause.message}"
  | .unreadable path cause => s!"Failed to read file {path}: {cause.message}"
  | .unwritable path cause => s!"Failed to write file {path}: {cause.message}"
  | .oversized path size limit => s!"File too large: {path} ({size} bytes, max {limit} bytes)"
  | .noReading sensor reason => s!"Failed to read sensor {sensor}: {reason}"
  | .malformedReading path content => s!"Malformed reading from {path}: {Text.quoted content}"
  | .configuration reason => s!"Configuration error: {reason}"
  | .badDocument => "Failed to parse JSON"
  | .setting flaw => s!"Invalid configuration value for {flaw.field}: {flaw.text}"
  | .threshold property flaw => s!"Invalid threshold {property}: {flaw.text}"
  | .units unit => s!"Units not in allow list: {unit}"
  | .name flaw => s!"Invalid sensor name: {flaw.text}"
  | .denied reason => s!"Permission denied: {reason}"
  | .unpublished path reason => s!"Publish failed for {path}: {reason}"
  | .described text => text

/-- The failure lies in the description of a sensor. -/
def isConfiguration : Failure → Bool
  | .configuration _ => true
  | .badDocument => true
  | .setting _ => true
  | .threshold _ _ => true
  | .units _ => true
  | .name _ => true
  | _ => false

end Failure

/-- A sequence that succeeds does so step by step. -/
theorem bind_eq_ok {ε α β : Type} {x : Except ε α} {f : α → Except ε β} {b : β}
    (ok : x >>= f = .ok b) : ∃ a, x = .ok a ∧ f a = .ok b := by
  cases x with
  | error failure => cases ok
  | ok a => exact ⟨a, rfl, ok⟩

/-- A sequence that fails does so at its first step or later. -/
theorem bind_eq_error {ε α β : Type} {x : Except ε α} {f : α → Except ε β} {failure : ε}
    (failed : x >>= f = .error failure) :
    x = .error failure ∨ ∃ a, x = .ok a ∧ f a = .error failure := by
  cases x with
  | error failure' =>
      cases failed
      exact Or.inl rfl
  | ok a => exact Or.inr ⟨a, rfl, failed⟩

/-- What passes a test succeeded. -/
theorem exists_ok_of_any {ε α : Type} {x : Except ε α} {p : α → Bool}
    (found : x.toOption.any p = true) : ∃ a, x = .ok a ∧ p a = true := by
  cases x with
  | error failure => cases found
  | ok a => exact ⟨a, rfl, found⟩

end SensorMonitor
