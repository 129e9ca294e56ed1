/-
# Bus -- the log of all events

The log keeps every event in order.  A path is registered when the last
registration or removal of it in the log is a registration; a path that is
registered is not registered again.
-/
import SensorMonitor.Event
import SensorMonitor.Failure

namespace SensorMonitor

set_option autoImplicit false

/-- All events so far, oldest first. -/
structure Bus where
  log : Array Event
  deriving DecidableEq

namespace Bus

def empty : Bus := ⟨#[]⟩

/-- Adds an event to the log. -/
def announce (bus : Bus) (event : Event) : Bus := ⟨bus.log.push event⟩

/-- Whether a path is registered after one more event. -/
def registeredAfter (path : String) (registered : Bool) : Event → Bool
  | .registered other _ => if other = path then true else registered
  | .removed other => if other = path then false else registered
  | .changed _ _ => registered

/-- The path is registered. -/
def isRegistered (bus : Bus) (path : String) : Bool :=
  bus.log.foldl (registeredAfter path) false

/-- Registers a path with its properties. -/
def register (bus : Bus) (path : String) (properties : Properties) : Except Failure Bus :=
  if bus.isRegistered path then .error (.unpublished path "object path already registered")
  else .ok (bus.announce (.registered path properties))

/-- The property with this name that an event changes at this path. -/
def changeAt? (path name : String) : Event → Option Property
  | .changed other property =>
      if other = path ∧ property.name = name then some property else none
  | _ => none

/-- The changes of a property, oldest first. -/
def changes (bus : Bus) (path name : String) : List Property :=
  bus.log.toList.filterMap (changeAt? path name)

/-- The published values at a path. -/
def values (bus : Bus) (path : String) : List Float :=
  (bus.changes path "Value").filterMap fun
    | .value x => some x
    | _ => none

/-- The changes of an alarm at a path. -/
def alarms (bus : Bus) (path name : String) : List Bool :=
  (bus.changes path name).filterMap fun
    | .alarm _ raised => some raised
    | _ => none

end Bus

end SensorMonitor
