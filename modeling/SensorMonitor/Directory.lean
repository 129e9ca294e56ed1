/-
# Directory -- the values of peers

Sensors that others depend on show their value here under a key.  The generation of
an entry moves exactly when its value does, NaN being equal to NaN.  A watch
remembers the generation it saw last and reports a value when it sees another one; a
key that went away is forgotten.
-/
import Std.Data.TreeMap

namespace SensorMonitor

set_option autoImplicit false

/-- A value and how often it has changed. -/
structure PeerEntry where
  value : Float
  generation : Nat
  deriving DecidableEq

/-- The two values are equal, or neither is a number. -/
def sameValue (a b : Float) : Bool := a == b || (a.isNaN && b.isNaN)

/-- An entry after a value was shown under its key. -/
def PeerEntry.update (entry : Option PeerEntry) (x : Float) : PeerEntry :=
  match entry with
  | none => ⟨x, 0⟩
  | some entry => if sameValue entry.value x then entry else ⟨x, entry.generation + 1⟩

/-- The values of peers under their keys. -/
structure Directory where
  entries : Std.TreeMap String PeerEntry

namespace Directory

def empty : Directory := ⟨∅⟩

/-- The entry of a key. -/
def lookup (d : Directory) (key : String) : Option PeerEntry := d.entries[key]?

/-- The value under a key. -/
def get? (d : Directory) (key : String) : Option Float := (d.lookup key).map (·.value)

/-- Shows a value under a key. -/
def update (d : Directory) (key : String) (x : Float) : Directory :=
  ⟨d.entries.insert key (PeerEntry.update (d.lookup key) x)⟩

/-- Drops a key. -/
def remove (d : Directory) (key : String) : Directory := ⟨d.entries.erase key⟩

/-- The keys in ascending order. -/
def keys (d : Directory) : List String := d.entries.keys

/-- Keys and values, by ascending key. -/
def toList (d : Directory) : List (String × Float) :=
  d.entries.toList.map fun (key, entry) => (key, entry.value)

theorem lookup_update (d : Directory) (key other : String) (x : Float) :
    (d.update key x).lookup other =
      if key = other then some (PeerEntry.update (d.lookup key) x) else d.lookup other := by
  simp [update, lookup, Std.TreeMap.getElem?_insert]

theorem lookup_remove (d : Directory) (key other : String) :
    (d.remove key).lookup other = if key = other then none else d.lookup other := by
  simp [remove, lookup, Std.TreeMap.getElem?_erase]

end Directory

/-- A look-out for the value of one key. -/
structure PeerWatch where
  key : String
  seen : Option Nat
  deriving DecidableEq

namespace PeerWatch

/-- A watch that has seen nothing. -/
def ofKey (key : String) : PeerWatch := ⟨key, none⟩

/-- The value under the key. -/
def current (w : PeerWatch) (d : Directory) : Option Float := d.get? w.key

/-- The value, if its generation is not the one seen last, and the watch afterwards. -/
def poll (w : PeerWatch) (d : Directory) : Option Float × PeerWatch :=
  match d.lookup w.key with
  | none => (none, { w with seen := none })
  | some entry =>
      if w.seen = some entry.generation then (none, w)
      else (some entry.value, { w with seen := some entry.generation })

end PeerWatch

end SensorMonitor
