/-
# Fleet -- named sensors that share a site

The members of a fleet are sensors of either sort under names of the owner's choice.  A
member that is made under a name in use takes the place of the old one, which ends only
after the new one was made.  A fleet has a clock of its own, in nanoseconds, for the
values that perish.
-/
import SensorMonitor.Site

namespace SensorMonitor

set_option autoImplicit false

/-- A sensor of either sort. -/
inductive AnySensor where
  | plain (s : Sensor)
  | external (e : ExternalSensor)
  deriving DecidableEq

namespace AnySensor

/-- The published sensor. -/
def sensor : AnySensor → Sensor
  | .plain s => s
  | .external e => e.sensor

/-- Performs an operation at a time. -/
def perform (c : Conditions) (now : Nat) (op : Sensor.Op) :
    AnySensor → AnySensor × List Sensor.Effect × Sensor.Reply
  | .plain s =>
      let outcome := s.perform c op
      (.plain outcome.sensor, outcome.effects, outcome.reply)
  | .external e =>
      let (e, effects, reply) := e.perform c now op
      (.external e, effects, reply)

/-- Writes the value: in the usual way of an external sensor, or as an override. -/
def write (c : Conditions) (now : Nat) (x : Float) :
    AnySensor → AnySensor × List Sensor.Effect × Sensor.Reply
  | .plain s => (AnySensor.plain s).perform c now (.write x)
  | .external e =>
      let (e, effects, reply) := e.write c now x
      (.external e, effects, reply)

/-- Takes a perished value away; only an external sensor's value perishes. -/
def checkTimeout (c : Conditions) (now : Nat) :
    AnySensor → AnySensor × List Sensor.Effect × Sensor.Reply
  | .plain s => (.plain s, [], .changed false)
  | .external e =>
      let (e, effects, expired) := e.checkTimeout c now
      (.external e, effects, .changed expired)

end AnySensor

/-- Named sensors, what they share, and the time. -/
structure Fleet where
  site : Site
  members : Std.TreeMap String AnySensor
  now : Nat

namespace Fleet

/-- No members yet. -/
def ofSite (site : Site) : Fleet := ⟨site, ∅, 0⟩

/-- The member with a name. -/
def get? (f : Fleet) (name : String) : Option AnySensor := f.members[name]?

/-- Ends a member. -/
def drop (f : Fleet) (name : String) : Fleet :=
  match f.get? name with
  | some member =>
      { f with site := f.site.retire member.sensor, members := f.members.erase name }
  | none => f

/-- Takes in a sensor that was published at the site. -/
def enlist (f : Fleet) (name : String) (made : AnySensor × Site) : Fleet :=
  let dropped := { f with site := made.2 }.drop name
  { dropped with members := dropped.members.insert name made.1 }

/-- Makes a member of a definition. -/
def create (f : Fleet) (name : String) (d : Definition) : Except Failure Fleet := do
  let (s, site) ← f.site.create d
  return f.enlist name (.plain s, site)

/-- Makes a member that is written from outside. -/
def createExternal (f : Fleet) (name : String) (d : Definition) (timeout : Option Nat) :
    Except Failure Fleet := do
  let (e, site) ← f.site.createExternal d timeout
  return f.enlist name (.external e, site)

/-- Does something with a member and carries out the effects. -/
def doWith (f : Fleet) (name : String)
    (what : Conditions → Nat → AnySensor → AnySensor × List Sensor.Effect × Sensor.Reply) :
    Option (Fleet × List Sensor.Effect × Sensor.Reply) :=
  (f.get? name).map fun member =>
    let (member, effects, reply) := what f.site.conditions f.now member
    ({ f with site := f.site.absorbAll effects, members := f.members.insert name member },
      effects, reply)

/-- Performs an operation on a member. -/
def perform (f : Fleet) (name : String) (op : Sensor.Op) :
    Option (Fleet × List Sensor.Effect × Sensor.Reply) :=
  f.doWith name fun c now => AnySensor.perform c now op

end Fleet

end SensorMonitor
