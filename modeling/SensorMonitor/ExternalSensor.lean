/-
# ExternalSensor -- a sensor that is written from outside

Nothing reads an external sensor: others write its value, which is the usual way
here and no override.  With a timeout the value perishes.  It is viable while less
than the timeout has passed since the last write; the first check that finds it
otherwise takes the value away.  Times are in nanoseconds.
-/
import SensorMonitor.Sensor.Op

namespace SensorMonitor

set_option autoImplicit false

/-- A sensor that is written from outside. -/
structure ExternalSensor where
  sensor : Sensor
  timeout : Option Nat
  lastWrite : Option Nat
  stale : Bool
  deriving DecidableEq

namespace ExternalSensor

/-- An external sensor is settable and shows it, and stamps the time of its writes. -/
def ofDefinition (d : Definition) (timeout : Option Nat) : Except Failure ExternalSensor :=
  (Sensor.ofDefinition { d with settable := true, mutable := true }).map fun sensor =>
    ⟨{ sensor with hook := some .stamp }, timeout, none, false⟩

/-- The time since the last write, zero for a write in the future. -/
def age? (e : ExternalSensor) (now : Nat) : Option Nat :=
  e.lastWrite.map fun written => now - written

/-- The value has not perished. -/
def isViable (e : ExternalSensor) (now : Nat) : Bool :=
  match e.timeout with
  | none => true
  | some timeout =>
      match e.age? now with
      | none => false
      | some age => age < timeout

/-- The time that is left to the value, if it perishes at all. -/
def remaining? (e : ExternalSensor) (now : Nat) : Option Nat :=
  e.timeout.map fun timeout =>
    match e.age? now with
    | none => 0
    | some age => timeout - age

/-- The sensor takes part in an operation; a stamp among the effects sets the time of
the last write. -/
def absorb (e : ExternalSensor) (now : Nat) (outcome : Sensor.Outcome) : ExternalSensor :=
  let stamped := outcome.effects.any fun
    | .tell .stamp _ => true
    | _ => false
  { e with sensor := outcome.sensor, lastWrite := if stamped then some now else e.lastWrite }

/-- Performs an operation on the sensor at a time. -/
def perform (c : Conditions) (now : Nat) (op : Sensor.Op) (e : ExternalSensor) :
    ExternalSensor × List Sensor.Effect × Sensor.Reply :=
  let outcome := e.sensor.perform c op
  (e.absorb now outcome, outcome.effects, outcome.reply)

/-- A write in the usual way: no override stays, and the value is fresh again. -/
def write (c : Conditions) (now : Nat) (x : Float) (e : ExternalSensor) :
    ExternalSensor × List Sensor.Effect × Sensor.Reply :=
  let (written, effects, reply) := e.perform c now (.write x)
  match reply with
  | .refused _ => (written, effects, reply)
  | _ =>
      let released := (written.sensor.perform c .release).sensor
      ({ written with sensor := released, stale := false }, effects, reply)

/-- Takes the value away if it has perished and was not yet taken away; tells whether
it was. -/
def checkTimeout (c : Conditions) (now : Nat) (e : ExternalSensor) :
    ExternalSensor × List Sensor.Effect × Bool :=
  if e.isViable now || e.stale then (e, [], false)
  else
    let (fed, effects, _) := ({ e with stale := true }).perform c now (.feed Number.nan)
    (fed, effects, true)

end ExternalSensor

end SensorMonitor
