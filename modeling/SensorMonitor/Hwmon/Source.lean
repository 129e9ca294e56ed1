/-
# Hwmon.Source -- readings from attribute files

An attribute file holds one number, with blanks around it.  The reading is the
number, shifted and then scaled.
-/
import SensorMonitor.Files
import SensorMonitor.Hwmon.AttributePath
import SensorMonitor.Number.Decimal
import SensorMonitor.Record
import SensorMonitor.Text.Blank

namespace SensorMonitor.Hwmon

set_option autoImplicit false

open SensorMonitor.Number

/-- One reading, as read and in the sensor's units. -/
structure Reading where
  raw : Float
  value : Float
  deriving DecidableEq

/-- An attribute file and how its numbers are turned into values. -/
structure Source where
  path : String
  offset : Float
  scale : Float
  deriving DecidableEq

namespace Source

/-- The source that a record describes. -/
def ofRecord (r : SensorRecord) : Except Failure Source :=
  match r.path with
  | none => .error (.setting .pathMissing)
  | some path =>
      match AttributePath.flaw? path with
      | some flaw => .error (.setting (.path flaw))
      | none =>
          if !r.scale.isFinite || r.scale == 0 then .error (.setting .scaleNotUsable)
          else if !r.offset.isFinite then .error (.setting .offsetNotFinite)
          else .ok ⟨path, r.offset, r.scale⟩

/-- The finite number that a text is, blanks around it apart. -/
def number? (text : String) : Option Float :=
  ((Decimal.read? (Text.trimBlanks text.toList)).map (·.toFloat)).filter (·.isFinite)

/-- The value of a raw reading. -/
def valueOf (s : Source) (raw : Float) : Float := (raw + s.offset) * s.scale

/-- Reads the attribute file. -/
def read (s : Source) (files : Files) : Except Failure Reading :=
  match files.readText (.ofText s.path) with
  | .error cause => .error (.unreadable s.path cause)
  | .ok text =>
      match number? text with
      | some raw => .ok ⟨raw, s.valueOf raw⟩
      | none => .error (.malformedReading s.path (Text.trim text))

end Source

end SensorMonitor.Hwmon
