/-
# Poll.Poller -- a sensor that is read on a clock

The clock counts milliseconds.  A read takes no time: it is answered in the same turn.
The sensor may go away while the task sleeps, and the task may be cancelled at any
moment; both show at its next turn.
-/
import SensorMonitor.Poll.Task
import SensorMonitor.Site

namespace SensorMonitor.Poll

set_option autoImplicit false

/-- A task, the sensor that it reads and the source that it reads from. -/
structure Poller (σ : Type) where
  sensor : Option Sensor
  source : σ
  schedule : Schedule
  phase : Phase
  cancelled : Bool

/-- How a source is read: the result, and the source afterwards. -/
abbrev ReadFrom (σ : Type) := Site → σ → Except Failure Hwmon.Reading × σ

namespace Poller

variable {σ : Type}

/-- A task that has not had a turn yet. -/
def ofSensor (s : Sensor) (source : σ) (schedule : Schedule) : Poller σ :=
  ⟨some s, source, schedule, .ready, false⟩

/-- The task has stopped. -/
def isStopped (p : Poller σ) : Bool := p.phase = .stopped

/-- What the task sees. -/
def view (p : Poller σ) (site : Site) : View :=
  { cancelled := p.cancelled
    present := p.sensor.isSome
    readable := match p.sensor with
      | some s => s.isReadable site.conditions.power
      | none => false }

/-- An act on the sensor, if it is there. -/
def act (p : Poller σ) (site : Site) (a : Sensor.Act) : Poller σ × Site :=
  match p.sensor with
  | none => (p, site)
  | some s =>
      let (s, site) := site.act a s
      ({ p with sensor := some s }, site)

/-- Performs an operation on the sensor, if it is there. -/
def perform (p : Poller σ) (site : Site) (op : Sensor.Op) :
    Poller σ × Site × Option Sensor.Reply :=
  match p.sensor with
  | none => (p, site, none)
  | some s =>
      let outcome := s.perform site.conditions op
      ({ p with sensor := some outcome.sensor }, site.absorbAll outcome.effects, some outcome.reply)

/-- Wakes the task. -/
def wake (now : Nat) (site : Site) (w : Wake) (p : Poller σ) : Poller σ × Site :=
  let (phase, deed) := p.phase.resume p.schedule now (p.view site) w
  let p := { p with phase := phase }
  match deed with
  | none => (p, site)
  | some deed => p.act site (deed.act site.conditions.power)

/-- A turn of the task; a read that it starts is answered at once. -/
def turn (read : ReadFrom σ) (now : Nat) (site : Site) (p : Poller σ) : Poller σ × Site :=
  let (p, site) := p.wake now site .turn
  if p.phase = .reading then
    let (result, source) := read site p.source
    ({ p with source := source }).wake now site (.answer result)
  else (p, site)

/-- Gives the task what it waits for: the signal if it was cancelled in its sleep, else a
turn. -/
def step (read : ReadFrom σ) (now : Nat) (site : Site) (p : Poller σ) : Poller σ × Site :=
  match p.phase with
  | .sleeping _ => if p.cancelled then p.wake now site .signal else p.turn read now site
  | _ => p.turn read now site

/-- The time at which there is something for the task to do. -/
def next? (now : Nat) (p : Poller σ) : Option Nat :=
  match p.phase with
  | .ready => some now
  | .reading => none
  | .sleeping due => some (if p.cancelled then now else due)
  | .stopped => none

/-- Lets time pass up to a limit, at most `fuel` steps of the task. -/
def runFor (read : ReadFrom σ) (limit : Nat) :
    (fuel now : Nat) → Site → Poller σ → Poller σ × Site
  | 0, _, site, p => (p, site)
  | fuel + 1, now, site, p =>
      match p.next? now with
      | none => (p, site)
      | some due =>
          if due ≤ limit then
            let now := Nat.max now due
            let (p, site) := p.step read now site
            runFor read limit fuel now site p
          else (p, site)

/-- The turns that may follow one another before any time passes, where an interval of
nothing allows them. -/
def standstill : Nat := 100000

/-- Lets time pass from `now` to `limit`.  With an interval of a millisecond or more, every
turn but the first and the last comes later than the one before. -/
def run (read : ReadFrom σ) (now limit : Nat) (site : Site) (p : Poller σ) : Poller σ × Site :=
  runFor read limit (limit - now + 3 + standstill) now site p

/-- Asks the task to stop. -/
def cancel (p : Poller σ) : Poller σ := { p with cancelled := true }

/-- Asks the task to stop and waits until it has. -/
def shutdown (read : ReadFrom σ) (now : Nat) (site : Site) (p : Poller σ) : Poller σ × Site :=
  p.cancel.step read now site

/-- Ends the sensor; the task finds out at its next turn. -/
def dropSensor (site : Site) (p : Poller σ) : Poller σ × Site :=
  match p.sensor with
  | none => (p, site)
  | some s => ({ p with sensor := none }, site.retire s)

end Poller

end SensorMonitor.Poll
