/-
# FreshnessWatch -- the loop that looks after a perishable value

The watch looks at its sensor at once and then every period, on the same clock of
milliseconds as the poll tasks.  At each look the value is taken away if it has
perished.  The watch stops when it is cancelled or its sensor is gone.  A period of
nothing gives it no time to look at all: such a watch stops at its first turn.
-/
import SensorMonitor.ExternalSensor
import SensorMonitor.Poll.Task
import SensorMonitor.Site

namespace SensorMonitor

set_option autoImplicit false

/-- A watch and the external sensor that it looks after.  Its phase is never that of a
read. -/
structure FreshnessWatch where
  sensor : Option ExternalSensor
  period : Nat
  phase : Poll.Phase
  cancelled : Bool
  deriving DecidableEq

namespace FreshnessWatch

/-- The milliseconds between two looks where nothing else is said. -/
def usualPeriod : Nat := 1000

/-- A watch that has not looked yet. -/
def ofSensor (e : ExternalSensor) (period : Nat) : FreshnessWatch :=
  ⟨some e, period, .ready, false⟩

/-- The watch has stopped. -/
def isStopped (w : FreshnessWatch) : Bool := w.phase = .stopped

/-- Performs an operation on the sensor at a time, if it is there. -/
def perform (w : FreshnessWatch) (instant : Nat) (site : Site) (op : Sensor.Op) :
    FreshnessWatch × Site × Option Sensor.Reply :=
  match w.sensor with
  | none => (w, site, none)
  | some e =>
      let (e, effects, reply) := e.perform site.conditions instant op
      ({ w with sensor := some e }, site.absorbAll effects, some reply)

/-- Writes the value of the sensor at a time, if it is there. -/
def write (w : FreshnessWatch) (instant : Nat) (site : Site) (x : Float) :
    FreshnessWatch × Site × Option Sensor.Reply :=
  match w.sensor with
  | none => (w, site, none)
  | some e =>
      let (e, effects, reply) := e.write site.conditions instant x
      ({ w with sensor := some e }, site.absorbAll effects, some reply)

/-- The time at which there is something for the watch to do. -/
def next? (now : Nat) (w : FreshnessWatch) : Option Nat :=
  match w.phase with
  | .ready => some now
  | .sleeping due => some (if w.cancelled then now else due)
  | _ => none

/-- A look at the sensor; `instant` is the time by which its value perishes. -/
def look (now instant : Nat) (site : Site) (w : FreshnessWatch) : FreshnessWatch × Site :=
  match w.sensor with
  | none => ({ w with phase := .stopped }, site)
  | some e =>
      if w.cancelled || w.period = 0 then ({ w with phase := .stopped }, site)
      else
        let (e, effects, _) := e.checkTimeout site.conditions instant
        ({ w with sensor := some e, phase := .sleeping (now + w.period) }, site.absorbAll effects)

/-- Lets time pass up to a limit, at most `fuel` looks. -/
def runFor (limit instant : Nat) :
    (fuel now : Nat) → Site → FreshnessWatch → FreshnessWatch × Site
  | 0, _, site, w => (w, site)
  | fuel + 1, now, site, w =>
      match w.next? now with
      | none => (w, site)
      | some due =>
          if due ≤ limit then
            let now := Nat.max now due
            let (w, site) := w.look now instant site
            runFor limit instant fuel now site w
          else (w, site)

/-- Lets time pass from `now` to `limit`. -/
def run (now limit instant : Nat) (site : Site) (w : FreshnessWatch) : FreshnessWatch × Site :=
  runFor limit instant (limit - now + 3) now site w

/-- Asks the watch to stop. -/
def cancel (w : FreshnessWatch) : FreshnessWatch := { w with cancelled := true }

/-- Asks the watch to stop and waits until it has. -/
def shutdown (w : FreshnessWatch) : FreshnessWatch :=
  { w with cancelled := true, phase := .stopped }

/-- Ends the sensor; the watch finds out at its next look. -/
def dropSensor (site : Site) (w : FreshnessWatch) : FreshnessWatch × Site :=
  match w.sensor with
  | none => (w, site)
  | some e => ({ w with sensor := none }, site.retire e.sensor)

end FreshnessWatch

end SensorMonitor
