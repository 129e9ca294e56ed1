/-
# Proofs.Roster.Interleaving -- a roster at work while its sensors live

A call that applies a configuration, or ends all sensors, takes its time: a live sensor
that has to go is taken out of the roster, its loop is asked to stop, and only when the loop
has stopped does the sensor end and the call go on.  Until then anything may happen: loops
are woken, reads are answered, values are written.  `Busy` is a roster in the middle of a
call, `Moment` is what can happen next.

In every order of moments, what happens at an object path is a row of lifetimes, and the last
is open exactly while a sensor stands there (`lifetimes_are_bracketed`).
-/
import SensorMonitor.Proofs.Roster.Living
import SensorMonitor.Proofs.Roster.Reload

namespace SensorMonitor

set_option autoImplicit false

open Function (update)

namespace LiveSensor

/-- Asks the loop to stop. -/
def cancel : LiveSensor → LiveSensor
  | .polled poller => .polled poller.cancel
  | .external e => .external e
  | .perishable watch => .perishable watch.cancel

/-- The loop has stopped, if there is one. -/
def isStopped : LiveSensor → Bool
  | .polled poller => poller.isStopped
  | .external _ => true
  | .perishable watch => watch.isStopped

/-- The loop is woken, if it waits for this. -/
def wake (now : Nat) (w : Poll.Wake) (site : Site) : LiveSensor → LiveSensor × Site
  | .polled poller =>
      if poller.awaits now w then
        (.polled (poller.wake now site w).1, (poller.wake now site w).2)
      else (.polled poller, site)
  | .external e => (.external e, site)
  | .perishable watch =>
      if (watch.next? now).any (· ≤ now) then
        (.perishable (watch.look now (instantOf now) site).1,
          (watch.look now (instantOf now) site).2)
      else (.perishable watch, site)

/-- An operation is performed, and the reply is for others. -/
def ask (now : Nat) (op : Sensor.Op) (site : Site) (live : LiveSensor) : LiveSensor × Site :=
  ((live.perform now site op).1, (live.perform now site op).2.1)

theorem went_ask (now : Nat) (op : Sensor.Op) (site : Site) (live : LiveSensor) :
    Went site live.sensor? (ask now op site live).1.sensor? (ask now op site live).2 :=
  live.went_perform now site op

@[simp] theorem sensor?_cancel (live : LiveSensor) : live.cancel.sensor? = live.sensor? := by
  cases live <;> rfl

theorem lived_wake (live : LiveSensor) (now : Nat) (w : Poll.Wake) (site : Site) :
    Lived site live.sensor? (live.wake now w site).1.sensor? (live.wake now w site).2 := by
  cases live with
  | polled poller =>
      simp only [wake]
      split
      · exact poller.lived_wake now site w
      · exact .refl site poller.sensor
  | external e => exact .refl site (some e.sensor)
  | perishable watch =>
      simp only [wake]
      split
      · exact watch.lived_look now (instantOf now) site
      · exact .refl site _

end LiveSensor

namespace Roster

/-! ## Calls -/

/-- A part of a call: a live sensor has to go, or a path is brought in line with its record. -/
inductive Chore where
  | finish (path : String)
  | bring (path : String) (record : SensorRecord)

/-- A sensor that was under a path and waits for its loop to stop, and the record, if there is
one, of which a sensor is made in its place. -/
structure Leaver where
  live : LiveSensor
  path : String
  successor : Option SensorRecord

/-- A roster in the middle of a call, or between calls. -/
structure Busy where
  roster : Roster
  leaver : Option Leaver
  chores : List Chore
  stats : ApplyStats

/-- Where sensors are: under the paths of the roster, or on the way out. -/
inductive Place where
  | under (path : String)
  | leaving
  deriving DecidableEq

namespace Busy

/-- A roster between calls. -/
def ofRoster (r : Roster) (stats : ApplyStats) : Busy := ⟨r, none, [], stats⟩

/-- No call is under way. -/
def isIdle (b : Busy) : Bool := b.leaver.isNone && b.chores.isEmpty

/-- A call begins, if none is under way. -/
def beginCall (b : Busy) (chores : List Chore) (stats : ApplyStats) : Busy :=
  if b.isIdle then { b with chores := chores, stats := stats } else b

/-- The live sensor under a path is taken out and its loop is asked to stop. -/
def takeOut (b : Busy) (path : String) (entry : RosterEntry) (successor : Option SensorRecord)
    (chores : List Chore) : Busy :=
  { b with
    roster := { b.roster with live := b.roster.live.erase path }
    leaver := some ⟨entry.live.cancel, path, successor⟩
    chores := chores }

/-- The sensor of a record is made, and counted by `made` if that succeeds. -/
def makeOne (b : Busy) (made : ApplyStats) (path : String) (record : SensorRecord) : Busy :=
  { b with
    roster := (b.roster.install b.stats made path record).1
    stats := (b.roster.install b.stats made path record).2 }

/-- The sensor on the way out ends. -/
def release (b : Busy) (l : Leaver) : Busy :=
  { b with
    roster := { b.roster with site := l.live.retire b.roster.site }
    leaver := none }

/-- The sensor on the way out ends, and the one in its place is made. -/
def letGo (b : Busy) (l : Leaver) : Busy :=
  match l.successor with
  | none => b.release l
  | some record =>
      (b.release l).makeOne { b.stats with replaced := b.stats.replaced + 1 } l.path record

/-- The call goes on with its next chore. -/
def turnTo (b : Busy) (chore : Chore) (rest : List Chore) : Busy :=
  match chore with
  | .finish path =>
      match b.roster.live[path]? with
      | none => { b with chores := rest }
      | some entry => b.takeOut path entry none rest
  | .bring path record =>
      match b.roster.live[path]? with
      | none =>
          ({ b with chores := rest } : Busy).makeOne
            { b.stats with created := b.stats.created + 1 } path record
      | some entry =>
          if entry.record == record then
            { b with
              chores := rest
              stats := { b.stats with unchanged := b.stats.unchanged + 1 } }
          else b.takeOut path entry (some record) rest

/-- The call goes on as far as it can without waiting. -/
def work (b : Busy) : Busy :=
  match b.leaver with
  | some l => if l.live.isStopped then b.letGo l else b
  | none =>
      match b.chores with
      | [] => b
      | chore :: rest => b.turnTo chore rest

/-- A live sensor is put under a path, and the site is as it left it. -/
def putUnder (b : Busy) (path : String) (entry : RosterEntry) (site : Site) : Busy :=
  { b with roster := { b.roster with site := site, live := b.roster.live.insert path entry } }

/-- A live sensor is put on the way out, and the site is as it left it. -/
def putLeaving (b : Busy) (l : Leaver) (site : Site) : Busy :=
  { b with roster := { b.roster with site := site }, leaver := some l }

/-- Something happens to the live sensor in a place, if there is one. -/
def affect (b : Busy) (f : Site → LiveSensor → LiveSensor × Site) : Place → Busy
  | .under path =>
      match b.roster.live[path]? with
      | none => b
      | some entry =>
          let (live, site) := f b.roster.site entry.live
          b.putUnder path { entry with live := live } site
  | .leaving =>
      match b.leaver with
      | none => b
      | some l =>
          let (live, site) := f b.roster.site l.live
          b.putLeaving { l with live := live } site

end Busy

/-- What can happen next: a call begins or goes on, a loop is woken, an operation is performed
on a sensor, power and access or the files change, time passes. -/
inductive Moment where
  | apply (c : Configuration)
  | shutdown
  | work
  | wake (place : Place) (w : Poll.Wake)
  | perform (place : Place) (op : Sensor.Op)
  | conditions (c : Conditions)
  | files (files : Files)
  | pass (ms : Nat)

/-- The chores that bring a roster in line with a configuration. -/
def choresOf (r : Roster) (c : Configuration) : List Chore :=
  (r.goneFrom c).map .finish ++ c.toList.map fun (path, record) => .bring path record

namespace Busy

/-- One moment. -/
def step (b : Busy) : Moment → Busy
  | .apply c => b.beginCall (b.roster.choresOf c) ⟨0, 0, (b.roster.goneFrom c).length, 0, 0⟩
  | .shutdown => b.beginCall (b.roster.live.keys.map .finish) b.stats
  | .work => b.work
  | .wake place w => b.affect (LiveSensor.wake b.roster.now w) place
  | .perform place op => b.affect (LiveSensor.ask b.roster.now op) place
  | .conditions c => { b with
      roster := { b.roster with site := { b.roster.site with conditions := c } } }
  | .files files => { b with
      roster := { b.roster with site := { b.roster.site with files := files } } }
  | .pass ms => { b with roster := { b.roster with now := b.roster.now + ms } }

/-- One moment after another. -/
def run (b : Busy) (ms : List Moment) : Busy := ms.foldl step b

theorem run_append (b : Busy) (ms ms' : List Moment) : b.run (ms ++ ms') = (b.run ms).run ms' :=
  List.foldl_append

/-! ### What a step of a call can be -/

/-- A call goes on: it waits, or it lets the sensor on the way out go; else its next chore asks
for nothing, or a sensor is made at a free path, or one is taken out. -/
inductive Worked (b : Busy) : Busy → Prop where
  | waits : Worked b b
  | letsGo (l : Leaver) (there : b.leaver = some l) : Worked b (b.letGo l)
  | passes (chores : List Chore) (stats : ApplyStats) :
      Worked b { b with chores := chores, stats := stats }
  | makes (chores : List Chore) (made : ApplyStats) (path : String) (record : SensorRecord)
      (alone : b.leaver = none) (absent : b.roster.live[path]? = none) :
      Worked b (({ b with chores := chores } : Busy).makeOne made path record)
  | takesOut (path : String) (entry : RosterEntry) (successor : Option SensorRecord)
      (chores : List Chore) (alone : b.leaver = none) (there : b.roster.live[path]? = some entry) :
      Worked b (b.takeOut path entry successor chores)

theorem worked_turnTo (b : Busy) (alone : b.leaver = none) (chore : Chore) (rest : List Chore) :
    Worked b (b.turnTo chore rest) := by
  cases chore with
  | finish path =>
      simp only [turnTo]
      cases there : b.roster.live[path]? with
      | none => exact .passes rest b.stats
      | some entry => exact .takesOut path entry none rest alone there
  | bring path record =>
      simp only [turnTo]
      cases there : b.roster.live[path]? with
      | none => exact .makes rest _ path record alone there
      | some entry =>
          dsimp only
          split
          · exact .passes rest _
          · exact .takesOut path entry (some record) rest alone there

theorem worked_work (b : Busy) : Worked b b.work := by
  simp only [work]
  cases leaver : b.leaver with
  | some l =>
      dsimp only
      split
      · exact .letsGo l leaver
      · exact .waits
  | none =>
      cases b.chores with
      | nil => exact .waits
      | cons chore rest => exact b.worked_turnTo leaver chore rest

/-- What happens in a place happens to the live sensor there, or to nobody. -/
inductive Affected (b : Busy) (f : Site → LiveSensor → LiveSensor × Site) : Busy → Prop where
  | nobody : Affected b f b
  | under (path : String) (entry : RosterEntry) (there : b.roster.live[path]? = some entry) :
      Affected b f (b.putUnder path { entry with live := (f b.roster.site entry.live).1 }
        (f b.roster.site entry.live).2)
  | leaving (l : Leaver) (there : b.leaver = some l) :
      Affected b f (b.putLeaving { l with live := (f b.roster.site l.live).1 }
        (f b.roster.site l.live).2)

theorem affected_affect (b : Busy) (f : Site → LiveSensor → LiveSensor × Site) (place : Place) :
    Affected b f (b.affect f place) := by
  cases place with
  | under path =>
      simp only [affect]
      cases there : b.roster.live[path]? with
      | none => exact .nobody
      | some entry => exact .under path entry there
  | leaving =>
      simp only [affect]
      cases there : b.leaver with
      | none => exact .nobody
      | some l => exact .leaving l there

end Busy

/-! ## Sensors in their places -/

namespace Busy

/-- The sensor in a place. -/
def sensorAt (b : Busy) : Place → Option Sensor
  | .under path => occupant b.roster.live path
  | .leaving => b.leaver.bind (·.live.sensor?)

section Places

variable (b b' : Busy) {path : String} {after : Option Sensor}

theorem sensorAt_eq_update_under (leaver : b'.leaver = b.leaver)
    (live : occupant b'.roster.live = update (occupant b.roster.live) path after) :
    b'.sensorAt = update b.sensorAt (.under path) after := by
  funext place
  cases place with
  | leaving =>
      have apart : Place.leaving ≠ .under path := nofun
      rw [Function.update_of_ne apart]
      simp only [sensorAt, leaver]
  | under other =>
      simp only [sensorAt, live]
      by_cases here : other = path
      · subst here
        rw [Function.update_self, Function.update_self]
      · have apart : Place.under other ≠ .under path := by simpa using here
        rw [Function.update_of_ne here, Function.update_of_ne apart, sensorAt]

theorem sensorAt_eq_update_leaving (live : b'.roster.live = b.roster.live)
    (leaver : b'.leaver.bind (·.live.sensor?) = after) :
    b'.sensorAt = update b.sensorAt .leaving after := by
  funext place
  cases place with
  | leaving =>
      rw [Function.update_self]
      exact leaver
  | under other =>
      have apart : Place.under other ≠ .leaving := nofun
      rw [Function.update_of_ne apart]
      simp only [sensorAt, live]

theorem sensorAt_putUnder (path : String) (entry : RosterEntry) (site : Site) :
    (b.putUnder path entry site).sensorAt = update b.sensorAt (.under path) entry.live.sensor? :=
  sensorAt_eq_update_under b _ rfl (occupant_insert b.roster.live path entry)

theorem sensorAt_putLeaving (l : Leaver) (site : Site) :
    (b.putLeaving l site).sensorAt = update b.sensorAt .leaving l.live.sensor? :=
  sensorAt_eq_update_leaving b _ rfl rfl

theorem sensorAt_under_of_there {entry : RosterEntry} (there : b.roster.live[path]? = some entry) :
    b.sensorAt (.under path) = entry.live.sensor? := by
  rw [sensorAt, occupant, there]
  rfl

theorem sensorAt_leaving_of_there {l : Leaver} (there : b.leaver = some l) :
    b.sensorAt .leaving = l.live.sensor? := by
  rw [sensorAt, there]
  rfl

end Places

/-- Sensors stand in their places, and the path that a sensor left is still free. -/
structure Sound (b : Busy) : Prop where
  standing : Standing b.roster.site.bus b.sensorAt
  vacated : ∀ l, b.leaver = some l → b.roster.live[l.path]? = none

namespace Sound

variable {b : Busy}

/-- The same sensors in the same places, whatever the call is about. -/
theorem congr {b' : Busy} (sound : b.Sound) (bus : b'.roster.site.bus = b.roster.site.bus)
    (live : b'.roster.live = b.roster.live) (leaver : b'.leaver = b.leaver) : b'.Sound := by
  have same : b'.sensorAt = b.sensorAt := by
    funext place
    cases place <;> simp only [sensorAt, live, leaver]
  refine ⟨by rw [bus, same]; exact sound.standing, ?_⟩
  rw [live, leaver]
  exact sound.vacated

theorem makeOne (sound : b.Sound) (alone : b.leaver = none) {path : String}
    (absent : b.roster.live[path]? = none) (made : ApplyStats) (record : SensorRecord) :
    (b.makeOne made path record).Sound := by
  simp only [Busy.makeOne, install]
  cases outcome : b.roster.make path record with
  | error failure => exact ⟨sound.standing, sound.vacated⟩
  | ok pair =>
      obtain ⟨live, after⟩ := pair
      obtain ⟨-, -, d, s, debuts⟩ := make_eq_ok outcome
      obtain rfl := debuts.site
      have empty : b.sensorAt (.under path) = none := by
        rw [sensorAt, occupant, absent]
        rfl
      have filled : (b.putUnder path ⟨record, live⟩ (b.roster.site.absorbAll s.debut)).Sound := by
        refine ⟨?_, fun l there => ?_⟩
        · rw [sensorAt_putUnder, debuts.sensor]
          exact sound.standing.starts empty debuts.free debuts.registered
        · cases alone.symm.trans there
      exact filled.congr rfl rfl rfl

theorem release (sound : b.Sound) {l : Leaver} (there : b.leaver = some l) :
    (b.release l).Sound := by
  refine ⟨?_, fun l' there' => ?_⟩
  rotate_left
  · change none = some l' at there'
    cases there'
  rw [sensorAt_eq_update_leaving b (b.release l) rfl rfl]
  change Standing (l.live.retire b.roster.site).bus (update b.sensorAt .leaving none)
  have here := b.sensorAt_leaving_of_there there
  simp only [LiveSensor.retire]
  cases sensor : l.live.sensor? with
  | none =>
      have same : update b.sensorAt .leaving none = b.sensorAt := by
        rw [← here.trans sensor, Function.update_eq_self]
      rw [same]
      exact sound.standing
  | some s => exact sound.standing.ends (here.trans sensor)

theorem letGo (sound : b.Sound) {l : Leaver} (there : b.leaver = some l) : (b.letGo l).Sound := by
  have released := sound.release there
  simp only [Busy.letGo]
  cases l.successor with
  | none => exact released
  | some record => exact released.makeOne rfl (sound.vacated l there) _ record

theorem takeOut (sound : b.Sound) (alone : b.leaver = none) {path : String} {entry : RosterEntry}
    (there : b.roster.live[path]? = some entry) (successor : Option SensorRecord)
    (chores : List Chore) : (b.takeOut path entry successor chores).Sound := by
  refine ⟨?_, ?_⟩
  · have empty : b.sensorAt .leaving = none := by
      rw [sensorAt, alone]
      rfl
    have here := b.sensorAt_under_of_there there
    -- its path is emptied first, then the place on the way out is filled
    have erased := sensorAt_eq_update_under b
      { b with roster := { b.roster with live := b.roster.live.erase path } } rfl
      (occupant_erase b.roster.live path)
    have moved := sensorAt_eq_update_leaving
      { b with roster := { b.roster with live := b.roster.live.erase path } }
      (b.takeOut path entry successor chores) rfl (LiveSensor.sensor?_cancel entry.live)
    rw [moved, erased, ← here]
    exact sound.standing.moves empty
  · rintro _ ⟨⟩
    exact (getElem?_erase ..).trans (if_pos rfl)

theorem work (sound : b.Sound) : b.work.Sound := by
  have worked := b.worked_work
  generalize b.work = b' at worked ⊢
  cases worked with
  | waits => exact sound
  | letsGo l there => exact sound.letGo there
  | passes chores stats => exact sound.congr rfl rfl rfl
  | makes chores made path record alone absent =>
      have ready : ({ b with chores := chores } : Busy).Sound := sound.congr rfl rfl rfl
      exact ready.makeOne alone absent made record
  | takesOut path entry successor chores alone there =>
      exact sound.takeOut alone there successor chores

theorem affect (sound : b.Sound) (place : Place) {f : Site → LiveSensor → LiveSensor × Site}
    (goes : ∀ site live, Went site live.sensor? (f site live).1.sensor? (f site live).2) :
    (b.affect f place).Sound := by
  have affected := b.affected_affect f place
  generalize b.affect f place = b' at affected ⊢
  cases affected with
  | nobody => exact sound
  | under path entry there =>
      have went := goes b.roster.site entry.live
      rw [← b.sensorAt_under_of_there there] at went
      refine ⟨?_, fun l leaver => ?_⟩
      · rw [sensorAt_putUnder]
        exact sound.standing.goes went
      · have vacated := sound.vacated l leaver
        refine (getElem?_insert ..).trans ?_
        rw [if_neg, vacated]
        rintro rfl
        cases there.symm.trans vacated
  | leaving l there =>
      have went := goes b.roster.site l.live
      rw [← b.sensorAt_leaving_of_there there] at went
      refine ⟨?_, ?_⟩
      · rw [sensorAt_putLeaving]
        exact sound.standing.goes went
      · rintro _ ⟨⟩
        exact sound.vacated l there

/-- **Whatever happens next, sensors stand in their places.** -/
theorem step (sound : b.Sound) (m : Moment) : (b.step m).Sound := by
  have begun : ∀ chores stats, (b.beginCall chores stats).Sound := by
    intro chores stats
    simp only [Busy.beginCall]
    split
    · exact sound.congr rfl rfl rfl
    · exact sound
  cases m with
  | apply c => exact begun _ _
  | shutdown => exact begun _ _
  | work => exact sound.work
  | wake place w => exact sound.affect place fun site live => (live.lived_wake _ w site).went
  | perform place op => exact sound.affect place (LiveSensor.went_ask b.roster.now op)
  | conditions c | files files | pass ms => exact sound.congr rfl rfl rfl

theorem run (sound : b.Sound) (ms : List Moment) : (b.run ms).Sound := by
  induction ms generalizing b with
  | nil => exact sound
  | cons m rest ih => exact ih (sound.step m)

end Sound

theorem sound_quiet (site : Site) (stats : ApplyStats) :
    (ofRoster (ofSite (quiet site)) stats).Sound := by
  have nobody : ∀ place, (ofRoster (ofSite (quiet site)) stats).sensorAt place = none := by
    intro place
    cases place with
    | leaving => rfl
    | under path => simp [sensorAt, occupant, ofRoster, ofSite]
  refine ⟨.of_nobody nobody, fun l there => ?_⟩
  change none = some l at there
  cases there

/-- **Lifetimes are well bracketed.**  Whatever calls are made and however they interleave with
what the loops of the live sensors do, the events at an object path are those of one lifetime
after another: a registration, changes, a removal.  The last is open exactly as long as a
sensor stands at the path. -/
theorem lifetimes_are_bracketed (site : Site) (ms : List Moment) (at_ : String) :
    let b := (ofRoster (ofSite (quiet site)) ⟨0, 0, 0, 0, 0⟩).run ms
    ∃ (past : List Lifetime) (current : Option Lifetime),
      b.roster.site.bus.eventsAt at_ =
        past.flatMap (·.closed at_) ++ (current.map (·.opened at_)).getD [] ∧
      (current.isSome = true ↔ ∃ place s, b.sensorAt place = some s ∧ s.identity.path = at_) := by
  intro b
  have sound : b.Sound := (sound_quiet site _).run ms
  obtain ⟨past, current, isOpen, events⟩ := sound.standing.bracketed at_
  refine ⟨past, current, events, ?_⟩
  rw [isOpen, sound.standing.covers.marked_iff]
  simp only [pathOf_eq_some_iff]

end Busy

end Roster

end SensorMonitor
