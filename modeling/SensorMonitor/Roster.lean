/-
# Roster -- the live sensors of a configuration

The roster keeps a live sensor for every record of the configuration that one can be
made of.  Applying a configuration retires the sensors whose records are gone, keeps
those whose records are the same, and makes all others anew, each from its record alone:
a record that is at fault costs only its own sensor.  Names, as they stand in object
paths, are keys of the directory too, so no two live sensors share one.
-/
import SensorMonitor.FreshnessWatch
import SensorMonitor.Poll.Poller
import SensorMonitor.Record.Codec

namespace SensorMonitor

set_option autoImplicit false

open Poll (Poller)

/-- A live sensor with the loop that looks after it: one that is read, one that is
written from outside, and one whose written value perishes. -/
inductive LiveSensor where
  | polled (poller : Poller Hwmon.Source)
  | external (e : ExternalSensor)
  | perishable (watch : FreshnessWatch)

/-- A live sensor and the record that it was made from. -/
structure RosterEntry where
  record : SensorRecord
  live : LiveSensor

/-- What applying a configuration came to. -/
structure ApplyStats where
  created : Nat
  replaced : Nat
  removed : Nat
  unchanged : Nat
  failed : Nat
  deriving DecidableEq, Repr

/-- The live sensors under their configuration paths, what they share, and the time in
milliseconds. -/
structure Roster where
  site : Site
  live : Std.TreeMap String RosterEntry
  now : Nat

namespace LiveSensor

/-- The published sensor. -/
def sensor? : LiveSensor → Option Sensor
  | .polled poller => poller.sensor
  | .external e => some e.sensor
  | .perishable watch => watch.sensor.map (·.sensor)

/-- Reads the attribute file of a source. -/
def readSource : Poll.ReadFrom Hwmon.Source := fun site source => (source.read site.files, source)

/-- Stops the loop and ends the sensor. -/
def retire (site : Site) (live : LiveSensor) : Site :=
  match live.sensor? with
  | some s => site.retire s
  | none => site

/-- The time at which the loop has something to do. -/
def next? (now : Nat) : LiveSensor → Option Nat
  | .polled poller => poller.next? now
  | .external _ => none
  | .perishable watch => watch.next? now

/-- A time of the clock in nanoseconds. -/
def instantOf (now : Nat) : Nat := now * 1000000

/-- Lets the loop do what is due. -/
def step (now : Nat) (site : Site) (live : LiveSensor) : LiveSensor × Site :=
  match live with
  | .polled poller =>
      let (poller, site) := poller.step readSource now site
      (.polled poller, site)
  | .external e => (.external e, site)
  | .perishable watch =>
      let (watch, site) := watch.look now (instantOf now) site
      (.perishable watch, site)

/-- Performs an operation on the sensor. -/
def perform (now : Nat) (site : Site) (op : Sensor.Op) (live : LiveSensor) :
    LiveSensor × Site × Option Sensor.Reply :=
  match live with
  | .polled poller =>
      let (poller, site, reply) := poller.perform site op
      (.polled poller, site, reply)
  | .external e =>
      let (e, effects, reply) := e.perform site.conditions (instantOf now) op
      (.external e, site.absorbAll effects, some reply)
  | .perishable watch =>
      let (watch, site, reply) := watch.perform (instantOf now) site op
      (.perishable watch, site, reply)

end LiveSensor

namespace Roster

/-- No sensors yet. -/
def ofSite (site : Site) : Roster := ⟨site, ∅, 0⟩

/-- The number of live sensors. -/
def size (r : Roster) : Nat := r.live.size

/-! ## Making and ending -/

/-- The path of another live sensor whose name takes the same form. -/
def holderOf? (r : Roster) (path name : String) : Option String :=
  (r.live.toList.find? fun (other, entry) =>
    other ≠ path && ObjectPath.escape entry.record.name = ObjectPath.escape name).map Prod.fst

/-- The definition of a record, with the kept edits of its thresholds. -/
def definitionOf (site : Site) (path : String) (record : SensorRecord) :
    Except Failure Definition :=
  (record.toDefinition path).map fun d =>
    match site.store with
    | some store => { d with thresholds := (store.apply path d.thresholds).1 }
    | none => d

/-- Makes an external sensor, with a watch if its value perishes. -/
def makeExternal (site : Site) (record : SensorRecord) (d : Definition) :
    Except Failure (LiveSensor × Site) := do
  let (e, site) ← site.createExternal d record.perishesAfter
  return match record.perishesAfter with
    | some _ => (.perishable (.ofSensor e FreshnessWatch.usualPeriod), site)
    | none => (.external e, site)

/-- Makes a sensor that is read; its source is checked before it is published. -/
def makePolled (site : Site) (record : SensorRecord) (d : Definition) :
    Except Failure (LiveSensor × Site) := do
  let source ← Hwmon.Source.ofRecord record
  let (s, site) ← site.create d
  let (s, site) := site.act (.attach s.identity.name) s
  return (.polled (.ofSensor s source (.every record.interval)), site)

/-- Makes the live sensor of a record. -/
def make (r : Roster) (path : String) (record : SensorRecord) :
    Except Failure (LiveSensor × Site) :=
  match r.holderOf? path record.name with
  | some holder => .error (.setting (.nameTaken record.name holder))
  | none => do
      let d ← definitionOf r.site path record
      if record.isExternal then makeExternal r.site record d else makePolled r.site record d

/-- Ends the live sensor under a path. -/
def retire (r : Roster) (path : String) : Roster :=
  match r.live[path]? with
  | some entry => { r with site := entry.live.retire r.site, live := r.live.erase path }
  | none => r

/-! ## Applying a configuration -/

/-- Makes the sensor of a record and counts it by `made`, or counts a failure. -/
def install (r : Roster) (stats made : ApplyStats) (path : String) (record : SensorRecord) :
    Roster × ApplyStats :=
  match r.make path record with
  | .ok (live, site) => ({ r with site := site, live := r.live.insert path ⟨record, live⟩ }, made)
  | .error _ => (r, { stats with failed := stats.failed + 1 })

/-- Brings one path in line with its record. -/
def applyRecord (r : Roster) (stats : ApplyStats) (path : String) (record : SensorRecord) :
    Roster × ApplyStats :=
  match r.live[path]? with
  | none => r.install stats { stats with created := stats.created + 1 } path record
  | some entry =>
      if entry.record == record then (r, { stats with unchanged := stats.unchanged + 1 })
      else (r.retire path).install stats { stats with replaced := stats.replaced + 1 } path record

/-- The live paths that a configuration does not have. -/
def goneFrom (r : Roster) (c : Configuration) : List String :=
  r.live.keys.filter fun path => !c.contains path

/-- Brings the live sensors in line with a configuration, path by path. -/
def apply (r : Roster) (c : Configuration) : Roster × ApplyStats :=
  let gone := r.goneFrom c
  let kept := gone.foldl retire r
  c.toList.foldl (fun (r, stats) (path, record) => r.applyRecord stats path record)
    (kept, ⟨0, 0, gone.length, 0, 0⟩)

/-- Applies the configuration in a file; one that cannot be loaded changes nothing. -/
def reload (r : Roster) (path : String) : Roster :=
  match Configuration.load r.site.files path with
  | .ok c => (r.apply c).1
  | .error _ => r

/-- Ends every live sensor. -/
def shutdown (r : Roster) : Roster := r.live.keys.foldl retire r

/-! ## Living -/

/-- Performs an operation on the live sensor under a path. -/
def perform (r : Roster) (path : String) (op : Sensor.Op) : Roster × Option Sensor.Reply :=
  match r.live[path]? with
  | none => (r, none)
  | some entry =>
      let (live, site, reply) := entry.live.perform r.now r.site op
      ({ r with site := site, live := r.live.insert path { entry with live := live } }, reply)

/-- The next time at which something is due. -/
def next? (r : Roster) : Option Nat :=
  (r.live.values.filterMap fun entry => entry.live.next? r.now).min?

/-- Lets the loop of one sensor do what is due now. -/
def stepAt (r : Roster) (path : String) : Roster :=
  match r.live[path]? with
  | none => r
  | some entry =>
      match entry.live.next? r.now with
      | none => r
      | some due =>
          if due ≤ r.now then
            let (live, site) := entry.live.step r.now r.site
            { r with site := site, live := r.live.insert path { entry with live := live } }
          else r

/-- Lets all loops do what is due now, in the order of paths. -/
def stepAll (r : Roster) : Roster := r.live.keys.foldl stepAt r

/-- Lets time pass up to a limit, at most `fuel` moments at which something is due. -/
def runFor (limit : Nat) : (fuel : Nat) → Roster → Roster
  | 0, r => r
  | fuel + 1, r =>
      match r.next? with
      | none => r
      | some due => if due ≤ limit then runFor limit fuel ({ r with now := due }).stepAll else r

/-- Lets a number of milliseconds pass. -/
def run (r : Roster) (ms : Nat) : Roster :=
  let limit := r.now + ms
  { runFor limit (ms + 3) r with now := limit }

end Roster

end SensorMonitor
