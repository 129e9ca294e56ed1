/-
# Poll.Task -- the loop that reads one sensor

A task reads its sensor again and again.  In each pass it looks at what there is before
it does anything: a task that was cancelled stops, and so does one whose sensor is gone;
a sensor without power is told that it has no reading; otherwise a read is started.  The
answer of a read is looked at in the same way, so that a read that ends too late touches
nothing.  After a good reading the task sleeps for the interval, after anything else for
the longer time of the schedule.

`Phase.resume` is the whole of it: what the task is waiting for, what wakes it and what
it sees then decide the next phase and what is done.
-/
import SensorMonitor.Hwmon.Source
import SensorMonitor.Sensor

namespace SensorMonitor.Poll

set_option autoImplicit false

/-- The times between reads, in nanoseconds. -/
structure Schedule where
  interval : Nat
  retry : Nat
  deriving DecidableEq, Repr

namespace Schedule

/-- The time after a read that failed, where nothing else is said. -/
def usualRetry : Nat := 5000000000

/-- A schedule with the usual time after failed reads. -/
def every (interval : Nat) : Schedule := ⟨interval, usualRetry⟩

/-- The schedule where nothing is said. -/
def usual : Schedule := every SensorRecord.usualInterval

/-- The ticks of a millisecond after which a time has passed. -/
def ticks (ns : Nat) : Nat := (ns + 999999) / 1000000

end Schedule

/-- What a task is waiting for: its first turn, the answer of a read, a time.  A task that
has stopped waits for nothing. -/
inductive Phase where
  | ready
  | reading
  | sleeping (due : Nat)
  | stopped
  deriving DecidableEq, Repr

/-- What wakes a task: a turn of its own, the answer of a read, the signal to stop. -/
inductive Wake where
  | turn
  | answer (result : Except Failure Hwmon.Reading)
  | signal

/-- What a task sees when it is woken. -/
structure View where
  cancelled : Bool
  present : Bool
  readable : Bool
  deriving DecidableEq, Repr

/-- What a task does. -/
inductive Deed where
  | startRead
  | reportNothing
  | take (reading : Hwmon.Reading)
  | countError
  deriving DecidableEq

/-- The task may go on. -/
def View.goesOn (v : View) : Bool := !v.cancelled && v.present

namespace Phase

/-- A pass from its start. -/
def pass (schedule : Schedule) (now : Nat) (v : View) : Phase × Option Deed :=
  if !v.goesOn then (.stopped, none)
  else if v.readable then (.reading, some .startRead)
  else (.sleeping (now + Schedule.ticks schedule.retry), some .reportNothing)

/-- The rest of a pass, behind the read. -/
def finish (schedule : Schedule) (now : Nat) (v : View) (result : Except Failure Hwmon.Reading) :
    Phase × Option Deed :=
  if !v.goesOn then (.stopped, none)
  else
    match result with
    | .ok answer => (.sleeping (now + Schedule.ticks schedule.interval), some (.take answer))
    | .error _ => (.sleeping (now + Schedule.ticks schedule.retry), some .countError)

/-- What a task does when it is woken.  What it does not wait for leaves it as it is. -/
def resume (schedule : Schedule) (now : Nat) (v : View) (phase : Phase) (wake : Wake) :
    Phase × Option Deed :=
  match phase, wake with
  | .ready, .turn => pass schedule now v
  | .sleeping due, .turn => if due ≤ now then pass schedule now v else (phase, none)
  | .sleeping _, .signal => (.stopped, none)
  | .reading, .answer result => finish schedule now v result
  | _, _ => (phase, none)

end Phase

/-- What a deed does to the sensor. -/
def Deed.act (power : PowerStatus) : Deed → Sensor.Act
  | .startRead => .skip
  | .reportNothing => .feed power Number.nan
  | .take reading => (Sensor.Act.setRaw reading.raw).andThen (.feed power reading.value)
  | .countError => .countError power

end SensorMonitor.Poll
