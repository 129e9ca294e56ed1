/-
# EventFeed -- events for subscribers, with bounded memory

Every event is numbered, but only one that somebody is subscribed to is kept, and only
the last few.  A subscriber sees the events from its subscription on, in order; one that
has fallen behind the memory is told how many events it missed and goes on with the
oldest that is kept.
-/
import SensorMonitor.Event

namespace SensorMonitor

set_option autoImplicit false

/-- A feed of events.  `position` counts the events that were kept so far, `kept` holds
the last of them, newest last. -/
structure EventFeed where
  capacity : Nat
  announced : Nat
  position : Nat
  kept : List NumberedEvent
  ended : Bool
  deriving DecidableEq

/-- A subscriber: the position of the event that it sees next. -/
structure Subscriber where
  next : Nat
  deriving DecidableEq

/-- What a subscriber finds. -/
inductive Receipt where
  | event (e : NumberedEvent)
  | nothing
  | ended
  | missed (count : Nat)
  deriving DecidableEq

namespace EventFeed

/-- The capacity where none is asked for. -/
def usualCapacity : Nat := 1024

/-- The least power of two that is not below `n`, one for zero. -/
def roundedCapacity (n : Nat) : Nat := if n ≤ 1 then 1 else Nat.pow 2 ((n - 1).log2 + 1)

/-- A feed without events. -/
def ofCapacity (n : Nat) : EventFeed := ⟨roundedCapacity n, 0, 0, [], false⟩

/-- Announces an event to as many subscribers as there are; a feed that has ended takes no
more. -/
def announce (feed : EventFeed) (subscribers : Nat) (event : Event) : EventFeed :=
  let numbered : NumberedEvent := ⟨feed.announced + 1, event⟩
  if feed.ended then feed
  else if subscribers = 0 then { feed with announced := feed.announced + 1 }
  else
    let kept := feed.kept ++ [numbered]
    { feed with
      announced := feed.announced + 1
      position := feed.position + 1
      kept := kept.drop (kept.length - feed.capacity) }

/-- Announces no more. -/
def finish (feed : EventFeed) : EventFeed := { feed with ended := true }

/-- A subscriber from now on. -/
def subscribe (feed : EventFeed) : Subscriber := ⟨feed.position⟩

/-- The position of the oldest event that is kept. -/
def oldest (feed : EventFeed) : Nat := feed.position - feed.kept.length

/-- What a subscriber finds, and the subscriber afterwards. -/
def receive (feed : EventFeed) (s : Subscriber) : Receipt × Subscriber :=
  if s.next < feed.oldest then (.missed (feed.oldest - s.next), ⟨feed.oldest⟩)
  else
    match feed.kept[s.next - feed.oldest]? with
    | some e => (.event e, ⟨s.next + 1⟩)
    | none => (if feed.ended then .ended else .nothing, s)

end EventFeed

end SensorMonitor
