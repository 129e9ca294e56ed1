/-
# Proofs.Roster.Lifetimes -- the history of one object path

What happens at an object path is a row of lifetimes: a registration, changes, a removal,
and then maybe another registration (`Bracketed`).  A bus on which this is so at every path
stays so if each further event finds its path as it needs it: free for a registration and
registered for a change or a removal (`WellBracketed.announce`).
-/
import SensorMonitor.Proofs.Roster.Making

namespace SensorMonitor

set_option autoImplicit false

/-- One lifetime at a path: the properties that it is registered with, and the changes. -/
structure Lifetime where
  properties : Properties
  changes : List Property

namespace Lifetime

/-- The events of a lifetime so far. -/
def opened (at_ : String) (life : Lifetime) : List Event :=
  .registered at_ life.properties :: life.changes.map (.changed at_)

/-- The events of a whole lifetime. -/
def closed (at_ : String) (life : Lifetime) : List Event := life.opened at_ ++ [.removed at_]

/-- The events are those of whole lifetimes and, if one is open, of the beginning of one. -/
def Bracketed (at_ : String) (events : List Event) (isOpen : Bool) : Prop :=
  ∃ (past : List Lifetime) (current : Option Lifetime), current.isSome = isOpen ∧
    events = past.flatMap (closed at_) ++ (current.map (opened at_)).getD []

end Lifetime

/-- An event at a path can come next, by whether the path is registered. -/
def Event.Follows (registered : Bool) : Event → Prop
  | .registered _ _ => registered = false
  | .changed _ _ => registered = true
  | .removed _ => registered = true

namespace Lifetime

variable {at_ : String} {events : List Event} {isOpen : Bool}

theorem bracketed_nil (at_ : String) : Bracketed at_ [] false := ⟨[], none, rfl, rfl⟩

/-- One more event that can come next. -/
theorem Bracketed.snoc (bracketed : Bracketed at_ events isOpen) {event : Event}
    (here : event.path = at_) (follows : event.Follows isOpen) :
    Bracketed at_ (events ++ [event]) (Bus.registeredAfter at_ isOpen event) := by
  obtain ⟨past, current, opens, rfl⟩ := bracketed
  subst here
  cases event with
  | registered path properties =>
      obtain rfl : isOpen = false := follows
      obtain rfl : current = none := by simpa using opens
      refine ⟨past, some ⟨properties, []⟩, ?_, ?_⟩
      · simp [Bus.registeredAfter, Event.path]
      · simp [opened, Event.path]
  | changed path property =>
      obtain rfl : isOpen = true := follows
      obtain ⟨life, rfl⟩ := Option.isSome_iff_exists.1 opens
      refine ⟨past, some ⟨life.properties, life.changes ++ [property]⟩, rfl, ?_⟩
      simp [opened, Event.path]
  | removed path =>
      obtain rfl : isOpen = true := follows
      obtain ⟨life, rfl⟩ := Option.isSome_iff_exists.1 opens
      refine ⟨past ++ [life], none, ?_, ?_⟩
      · simp [Bus.registeredAfter, Event.path]
      · simp [closed, Event.path]

end Lifetime

/-- The event registers its path. -/
def Event.isRegistration : Event → Bool
  | .registered _ _ => true
  | _ => false

/-- The event removes its path. -/
def Event.isRemoval : Event → Bool
  | .removed _ => true
  | _ => false

namespace Lifetime

theorem countP_opened (at_ : String) (life : Lifetime) :
    (life.opened at_).countP Event.isRegistration = 1 ∧
      (life.opened at_).countP Event.isRemoval = 0 := by
  constructor
  · rw [opened, List.countP_cons_of_pos rfl, List.countP_map,
      List.countP_eq_zero.2 (by simp [Event.isRegistration])]
  · rw [opened, List.countP_cons_of_neg (by simp [Event.isRemoval]), List.countP_map,
      List.countP_eq_zero.2 (by simp [Event.isRemoval])]

/-- Where lifetimes are bracketed, a path was registered as often as it was removed, and once
more if it is open. -/
theorem Bracketed.registrations {at_ : String} {events : List Event} {isOpen : Bool}
    (bracketed : Bracketed at_ events isOpen) : events.countP Event.isRegistration =
      events.countP Event.isRemoval + isOpen.toNat := by
  obtain ⟨past, current, rfl, rfl⟩ := bracketed
  have whole : (past.flatMap (closed at_)).countP Event.isRegistration =
      (past.flatMap (closed at_)).countP Event.isRemoval := by
    induction past with
    | nil => rfl
    | cons life rest ih =>
        obtain ⟨registered, removed⟩ := life.countP_opened at_
        have last : [Event.removed at_].countP Event.isRegistration = 0 ∧
            [Event.removed at_].countP Event.isRemoval = 1 := ⟨rfl, rfl⟩
        simp only [List.flatMap_cons, List.countP_append, closed]
        omega
  rw [List.countP_append, List.countP_append, whole]
  cases current with
  | none => rfl
  | some life =>
      obtain ⟨registered, removed⟩ := life.countP_opened at_
      simp only [Option.map_some, Option.getD_some, Option.isSome_some, Bool.toNat_true]
      omega

end Lifetime

namespace Bus

variable {bus : Bus}

/-- The events at a path, oldest first. -/
def eventsAt (bus : Bus) (at_ : String) : List Event :=
  bus.log.toList.filter fun event => event.path = at_

/-- At every path there are lifetimes, of which the last is open as long as the path is
registered. -/
def WellBracketed (bus : Bus) : Prop :=
  ∀ at_, Lifetime.Bracketed at_ (bus.eventsAt at_) (bus.isRegistered at_)

theorem wellBracketed_empty : empty.WellBracketed := Lifetime.bracketed_nil

theorem eventsAt_announce (bus : Bus) (event : Event) (at_ : String) :
    (bus.announce event).eventsAt at_ =
      bus.eventsAt at_ ++ if event.path = at_ then [event] else [] := by
  simp only [eventsAt, announce, Array.toList_push, List.filter_append]
  by_cases here : event.path = at_ <;> simp [here]

theorem eventsAt_announce_of_ne {at_ : String} {event : Event} (apart : event.path ≠ at_) :
    (bus.announce event).eventsAt at_ = bus.eventsAt at_ := by
  rw [eventsAt_announce, if_neg apart, List.append_nil]

/-- An event at another path does not matter to whether this one is registered. -/
theorem registeredAfter_of_ne {at_ : String} {event : Event} (apart : event.path ≠ at_)
    (registered : Bool) : registeredAfter at_ registered event = registered := by
  cases event with
  | registered path properties => exact if_neg apart
  | changed path property => rfl
  | removed path => exact if_neg apart

/-- **An event that finds its path as it needs it keeps lifetimes apart.** -/
theorem WellBracketed.announce (bracketed : bus.WellBracketed) {event : Event}
    (follows : event.Follows (bus.isRegistered event.path)) :
    (bus.announce event).WellBracketed := by
  intro at_
  rw [eventsAt_announce, isRegistered_announce]
  by_cases here : event.path = at_
  · rw [if_pos here]
    exact (bracketed at_).snoc here (here ▸ follows)
  · rw [if_neg here, List.append_nil, registeredAfter_of_ne here]
    exact bracketed at_

/-- Changes at a path that is registered. -/
theorem WellBracketed.announceChanges (bracketed : bus.WellBracketed) {path : String}
    (registered : bus.isRegistered path = true) (ps : List Property) :
    ((ps.map (.changed path)).foldl Bus.announce bus).WellBracketed := by
  induction ps generalizing bus with
  | nil => exact bracketed
  | cons p rest ih =>
      refine ih (bracketed.announce registered) ?_
      rw [isRegistered_announce]
      exact registered

end Bus

namespace Site

/-- Of the effects only what is announced reaches the bus, in order. -/
theorem bus_absorbAll (site : Site) (effects : List Sensor.Effect) :
    (site.absorbAll effects).bus = (Sensor.announced effects).foldl Bus.announce site.bus := by
  induction effects generalizing site with
  | nil => rfl
  | cons effect rest ih =>
      have further : site.absorbAll (effect :: rest) = (site.absorb effect).absorbAll rest := rfl
      rw [further, ih]
      cases effect with
      | keep configuration model t =>
          have same : (site.absorb (.keep configuration model t)).bus = site.bus :=
            site.log_keep configuration model t
          rw [same]
          rfl
      | announce event | share key x | unlist key | tell hook x => rfl

end Site

end SensorMonitor
