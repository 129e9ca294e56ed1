/-
# LinePool -- lines that are shared by lease

Several sensors may need the same line.  A pool opens a line for the first lease on its
name, hands the same line to every further lease, and closes it when the last lease is
given back.  A room holds any number of pools; a pool is reached by the handles on it,
and its leases outlive them.  All openings and closings are told in order.
-/
import SensorMonitor.Failure
import Std.Data.TreeMap

namespace SensorMonitor

set_option autoImplicit false

/-- A line that is open, and the number of leases on it. -/
structure OpenLine (α : Type) where
  line : α
  leases : Nat

/-- The open lines of one pool under their names. -/
structure LinePool (α : Type) where
  lines : Std.TreeMap String (OpenLine α)

namespace LinePool

variable {α : Type}

def empty : LinePool α := ⟨∅⟩

/-- The number of open lines. -/
def size (pool : LinePool α) : Nat := pool.lines.size

def isOpen (pool : LinePool α) (name : String) : Bool := pool.lines.contains name

/-- The number of leases on a name. -/
def leases (pool : LinePool α) (name : String) : Nat :=
  match pool.lines[name]? with
  | some line => line.leases
  | none => 0

/-- Takes one more lease on an open line. -/
def join? (pool : LinePool α) (name : String) : Option (α × LinePool α) :=
  pool.lines[name]?.map fun line =>
    (line.line, ⟨pool.lines.insert name { line with leases := line.leases + 1 }⟩)

/-- Takes the first lease on a line. -/
def start (pool : LinePool α) (name : String) (line : α) : LinePool α :=
  ⟨pool.lines.insert name ⟨line, 1⟩⟩

/-- Gives a lease back; tells the line that is closed by it. -/
def release (pool : LinePool α) (name : String) : LinePool α × Option α :=
  match pool.lines[name]? with
  | none => (pool, none)
  | some line =>
      if line.leases ≤ 1 then (⟨pool.lines.erase name⟩, some line.line)
      else (⟨pool.lines.insert name { line with leases := line.leases - 1 }⟩, none)

end LinePool

/-- A lease: the pool it was taken from, the name and the line. -/
structure LineLease (α : Type) where
  pool : Nat
  name : String
  line : α

/-- What happens to a line. -/
inductive LineEvent (α : Type) where
  | opened (line : α)
  | closed (line : α)
  deriving DecidableEq

/-- Pools, the handles on them, and the leases, each lease and handle under an identity
of its owner's choice. -/
structure LineRoom (α : Type) where
  handles : Std.TreeMap String Nat
  pools : Std.TreeMap Nat (LinePool α)
  leases : Std.TreeMap String (LineLease α)
  openings : Nat
  made : Nat

namespace LineRoom

variable {α : Type}

/-- A room without pools. -/
def empty : LineRoom α := ⟨∅, ∅, ∅, 0, 0⟩

/-- The pool with a number. -/
def pool (room : LineRoom α) (n : Nat) : LinePool α := room.pools[n]?.getD .empty

/-- Makes a pool with a handle on it. -/
def make (room : LineRoom α) (handle : String) : LineRoom α :=
  { room with
    handles := room.handles.insert handle room.made
    pools := room.pools.insert room.made .empty
    made := room.made + 1 }

/-- Makes another handle on the pool of a handle. -/
def share (room : LineRoom α) (handle new : String) : LineRoom α :=
  match room.handles[handle]? with
  | some n => { room with handles := room.handles.insert new n }
  | none => room

/-- Drops a handle; its pool stays for the leases on it.  Tells whether there was one. -/
def dropHandle (room : LineRoom α) (handle : String) : LineRoom α × Bool :=
  ({ room with handles := room.handles.erase handle }, room.handles.contains handle)

/-- Gives a lease back.  Tells whether there was one. -/
def release (room : LineRoom α) (id : String) : LineRoom α × List (LineEvent α) × Bool :=
  match room.leases[id]? with
  | none => (room, [], false)
  | some lease =>
      let (pool, closed) := (room.pool lease.pool).release lease.name
      ({ room with pools := room.pools.insert lease.pool pool, leases := room.leases.erase id },
        closed.toList.map .closed, true)

/-- Holds a lease; one that was held under the same identity is given back. -/
def hold (room : LineRoom α) (id : String) (lease : LineLease α) :
    LineRoom α × List (LineEvent α) :=
  let (room, events, _) := room.release id
  ({ room with leases := room.leases.insert id lease }, events)

/-- Leases a line through a handle.  `opener` makes a line that is not open yet, given the
number of its opening; when it fails nothing changes. -/
def acquire (room : LineRoom α) (handle id name : String) (opener : Nat → Except Failure α) :
    LineRoom α × List (LineEvent α) × Except Failure (Option (LineLease α)) :=
  match room.handles[handle]? with
  | none => (room, [], .ok none)
  | some n =>
      match (room.pool n).join? name with
      | some (line, pool) =>
          let joined := { room with pools := room.pools.insert n pool }
          let (held, events) := joined.hold id ⟨n, name, line⟩
          (held, events, .ok (some ⟨n, name, line⟩))
      | none =>
          match opener (room.openings + 1) with
          | .error failure => (room, [], .error failure)
          | .ok line =>
              let opened :=
                { room with
                  pools := room.pools.insert n ((room.pool n).start name line)
                  openings := room.openings + 1 }
              let (held, events) := opened.hold id ⟨n, name, line⟩
              (held, .opened line :: events, .ok (some ⟨n, name, line⟩))

end LineRoom

end SensorMonitor
