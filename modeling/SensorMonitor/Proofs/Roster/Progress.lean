/-
# Proofs.Roster.Progress -- a call that is left to work ends

A call waits for nothing but the loops that it asked to stop, and each of them stops when it
is next woken (`exists_stop`).  So from any moment between calls, a call that goes on while
the loops it waits for are woken ends, with what `Roster.apply` or `Roster.shutdown` comes
to: these are what a call does when nothing else happens meanwhile.
-/
import SensorMonitor.Proofs.Roster.Interleaving

namespace SensorMonitor

set_option autoImplicit false

namespace LiveSensor

/-- A watch never waits for a read. -/
def Regular : LiveSensor → Prop
  | .perishable watch => watch.phase ≠ .reading
  | _ => True

theorem Regular.cancel {live : LiveSensor} (regular : live.Regular) : live.cancel.Regular := by
  cases live <;> exact regular

theorem Regular.wake {live : LiveSensor} (regular : live.Regular) (now : Nat) (w : Poll.Wake)
    (site : Site) : (live.wake now w site).1.Regular := by
  cases live with
  | polled poller =>
      simp only [LiveSensor.wake]
      split <;> trivial
  | external e => trivial
  | perishable watch =>
      simp only [LiveSensor.wake]
      split
      · simp only [FreshnessWatch.look, Regular]
        cases watch.sensor with
        | none => intro ends; cases ends
        | some e =>
            dsimp only
            split <;> (intro ends; cases ends)
      · exact regular

theorem Regular.ask {live : LiveSensor} (regular : live.Regular) (now : Nat) (op : Sensor.Op)
    (site : Site) : (live.ask now op site).1.Regular := by
  cases live with
  | polled poller => trivial
  | external e => trivial
  | perishable watch =>
      simp only [LiveSensor.ask, LiveSensor.perform, FreshnessWatch.perform]
      cases watch.sensor <;> exact regular

theorem isStopped_look (watch : FreshnessWatch) (now instant : Nat) (site : Site)
    (cancelled : watch.cancelled = true) :
    watch.look now instant site = ({ watch with phase := .stopped }, site) := by
  simp only [FreshnessWatch.look, cancelled]
  cases watch.sensor <;> rfl

/-- **A loop that was asked to stop has stopped, or does so when it is next woken**, and leaves
the sensor and the site alone. -/
theorem exists_stop {live : LiveSensor} (regular : live.Regular) (now : Nat) (site : Site) :
    live.cancel.isStopped = true ∨ ∃ w, (live.cancel.wake now w site).1.isStopped = true ∧
      (live.cancel.wake now w site).1.sensor? = live.sensor? ∧
      (live.cancel.wake now w site).2 = site := by
  cases live with
  | external e => exact Or.inl rfl
  | polled poller =>
      have halted : poller.cancel.isHalted = true := rfl
      have stops : ∀ w, poller.cancel.awaits now w = true →
          ((cancel (.polled poller)).wake now w site).1.isStopped = true ∧
            ((cancel (.polled poller)).wake now w site).1.sensor? = poller.sensor ∧
            ((cancel (.polled poller)).wake now w site).2 = site := by
        intro w awaited
        simp only [cancel, LiveSensor.wake, if_pos awaited]
        rw [(Poll.Poller.wake_of_isHalted site halted awaited).1]
        exact ⟨rfl, rfl, rfl⟩
      simp only [Poll.Poller.awaits, Poll.Poller.cancel] at stops
      -- a task that is about to read, reads or sleeps waits for something else in each case
      cases phase : poller.phase with
      | ready => exact Or.inr ⟨.turn, stops .turn (by rw [phase])⟩
      | reading => exact Or.inr ⟨.answer (.ok ⟨0, 0⟩), stops _ (by rw [phase])⟩
      | sleeping due => exact Or.inr ⟨.signal, stops .signal (by rw [phase])⟩
      | stopped =>
          refine Or.inl ?_
          simp [cancel, isStopped, Poll.Poller.isStopped, Poll.Poller.cancel, phase]
  | perishable watch =>
      have stops : (watch.cancel.next? now).any (· ≤ now) = true →
          ((cancel (.perishable watch)).wake now .turn site).1.isStopped = true ∧
            ((cancel (.perishable watch)).wake now .turn site).1.sensor? =
              watch.sensor.map (·.sensor) ∧
            ((cancel (.perishable watch)).wake now .turn site).2 = site := by
        intro due
        simp only [cancel, LiveSensor.wake, if_pos due]
        rw [isStopped_look watch.cancel now _ site rfl]
        exact ⟨rfl, rfl, rfl⟩
      simp only [FreshnessWatch.next?, FreshnessWatch.cancel] at stops
      cases phase : watch.phase with
      | ready | sleeping due => exact Or.inr ⟨.turn, stops (by simp [phase])⟩
      | reading => exact absurd phase regular
      | stopped =>
          refine Or.inl ?_
          simp [cancel, isStopped, FreshnessWatch.isStopped, FreshnessWatch.cancel, phase]

theorem retire_congr {live live' : LiveSensor} (same : live'.sensor? = live.sensor?) (site : Site) :
    live'.retire site = live.retire site := by
  rw [retire, retire, same]

end LiveSensor

namespace Roster

/-- No watch waits for a read. -/
def Regular (r : Roster) : Prop :=
  ∀ (path : String) (entry : RosterEntry), r.live[path]? = some entry → entry.live.Regular

theorem Regular.insert {r : Roster} (regular : r.Regular) {path : String} {entry : RosterEntry}
    (here : entry.live.Regular) (site : Site) :
    ({ r with site := site, live := r.live.insert path entry } : Roster).Regular := by
  intro other entry' there
  rcases getElem?_insert_eq_some_iff.1 there with ⟨rfl, rfl⟩ | ⟨-, there⟩
  · exact here
  · exact regular other entry' there

theorem Regular.erase {r : Roster} (regular : r.Regular) (path : String) (site : Site) :
    ({ r with site := site, live := r.live.erase path } : Roster).Regular :=
  fun other entry there => regular other entry (getElem?_erase_eq_some_iff.1 there).2

theorem regular_of_make {r : Roster} {path : String} {record : SensorRecord} {live : LiveSensor}
    {after : Site} (made : r.make path record = .ok (live, after)) : live.Regular := by
  simp only [make] at made
  cases holder : r.holderOf? path record.name with
  | some holder' =>
      rw [holder] at made
      cases made
  | none =>
      rw [holder] at made
      obtain ⟨d, -, made⟩ := bind_eq_ok made
      split at made
      · simp only [makeExternal] at made
        obtain ⟨⟨e, published⟩, -, made⟩ := bind_eq_ok made
        cases perishes : record.perishesAfter <;> rw [perishes] at made <;> cases made
        · trivial
        · intro ends; cases ends
      · simp only [makePolled] at made
        obtain ⟨source, -, made⟩ := bind_eq_ok made
        obtain ⟨⟨s, published⟩, -, made⟩ := bind_eq_ok made
        cases made
        trivial

theorem Regular.install {r : Roster} (regular : r.Regular) (stats made : ApplyStats) (path : String)
    (record : SensorRecord) : (r.install stats made path record).1.Regular := by
  simp only [Roster.install]
  cases outcome : r.make path record with
  | error failure => exact regular
  | ok pair => exact regular.insert (regular_of_make outcome) pair.2

theorem Regular.retire {r : Roster} (regular : r.Regular) (path : String) :
    (r.retire path).Regular := by
  simp only [Roster.retire]
  cases r.live[path]? with
  | none => exact regular
  | some entry => exact regular.erase path _

theorem Regular.applyRecord {r : Roster} (regular : r.Regular) (stats : ApplyStats) (path : String)
    (record : SensorRecord) : (r.applyRecord stats path record).1.Regular := by
  simp only [Roster.applyRecord]
  cases r.live[path]? with
  | none => exact regular.install _ _ _ _
  | some entry =>
      dsimp only
      split
      · exact regular
      · exact (regular.retire path).install _ _ _ _

/-! ## Chores one after another -/

/-- What a chore comes to when nothing else happens meanwhile. -/
def Chore.carryOut (outcome : Roster × ApplyStats) : Chore → Roster × ApplyStats
  | .finish path => (outcome.1.retire path, outcome.2)
  | .bring path record => outcome.1.applyRecord outcome.2 path record

theorem foldl_finish (paths : List String) (r : Roster) (stats : ApplyStats) :
    (paths.map Chore.finish).foldl Chore.carryOut (r, stats) = (paths.foldl retire r, stats) := by
  induction paths generalizing r with
  | nil => rfl
  | cons path rest ih => exact ih (r.retire path)

theorem apply_eq_carryOut (r : Roster) (c : Configuration) :
    r.apply c = (r.choresOf c).foldl Chore.carryOut (r, ⟨0, 0, (r.goneFrom c).length, 0, 0⟩) := by
  rw [choresOf, List.foldl_append, foldl_finish, List.foldl_map]
  rfl

theorem shutdown_eq_carryOut (r : Roster) (stats : ApplyStats) :
    (r.shutdown, stats) = (r.live.keys.map Chore.finish).foldl Chore.carryOut (r, stats) :=
  (foldl_finish r.live.keys r stats).symm

/-- The call goes on, or the loop that it waits for is woken. -/
def Moment.isOwn : Moment → Bool
  | .work => true
  | .wake .leaving _ => true
  | _ => false

namespace Busy

/-- The sensor under a path has ended, and the one in its place, if there is one, is made. -/
def exchange (b : Busy) (path : String) (successor : Option SensorRecord) (chores : List Chore) :
    Busy :=
  let left : Busy := { b with roster := b.roster.retire path, leaver := none, chores := chores }
  match successor with
  | none => left
  | some record => left.makeOne { b.stats with replaced := b.stats.replaced + 1 } path record

section Exchange

variable {b : Busy} {path : String} {entry : RosterEntry}

theorem letGo_eq_exchange (there : b.roster.live[path]? = some entry) {live : LiveSensor}
    (same : live.sensor? = entry.live.sensor?) (successor : Option SensorRecord)
    (chores : List Chore) :
    (b.takeOut path entry successor chores).letGo ⟨live, path, successor⟩ =
      b.exchange path successor chores := by
  have released : (b.takeOut path entry successor chores).release ⟨live, path, successor⟩ =
      { b with roster := b.roster.retire path, leaver := none, chores := chores } := by
    simp only [release, takeOut, retire]
    rw [there, LiveSensor.retire_congr same]
  cases successor with
  | none => exact released
  | some record =>
      simp only [letGo, exchange]
      rw [released]
      rfl

/-- A sensor that was taken out ends. -/
theorem exists_exchange (there : b.roster.live[path]? = some entry) (regular : entry.live.Regular)
    (successor : Option SensorRecord) (chores : List Chore) :
    ∃ ms : List Moment, (∀ m ∈ ms, m.isOwn = true) ∧
      (b.takeOut path entry successor chores).run ms = b.exchange path successor chores := by
  let out := b.takeOut path entry successor chores
  rcases LiveSensor.exists_stop regular b.roster.now b.roster.site with
    stopped | ⟨w, stopped, same, site⟩
  · refine ⟨[.work], by simp [Moment.isOwn], ?_⟩
    rw [← letGo_eq_exchange there (LiveSensor.sensor?_cancel entry.live) successor chores]
    exact if_pos stopped
  · refine ⟨[.wake .leaving w, .work], by simp [Moment.isOwn], ?_⟩
    let live := (entry.live.cancel.wake b.roster.now w b.roster.site).1
    have woken : out.step (.wake .leaving w) = out.putLeaving ⟨live, path, successor⟩
        (entry.live.cancel.wake b.roster.now w b.roster.site).2 := rfl
    have worked : (out.putLeaving ⟨live, path, successor⟩ b.roster.site).work =
        out.letGo ⟨live, path, successor⟩ := if_pos stopped
    rw [← letGo_eq_exchange there same successor chores]
    change (out.step (.wake .leaving w)).work = _
    rw [woken, site, worked]

end Exchange

/-- **A chore that is left to work is carried out.** -/
theorem exists_chore {r : Roster} (regular : r.Regular) (chore : Chore) (rest : List Chore)
    (stats : ApplyStats) : ∃ ms : List Moment, (∀ m ∈ ms, m.isOwn = true) ∧
      (⟨r, none, chore :: rest, stats⟩ : Busy).run ms =
        ⟨(Chore.carryOut (r, stats) chore).1, none, rest,
          (Chore.carryOut (r, stats) chore).2⟩ := by
  let b : Busy := ⟨r, none, chore :: rest, stats⟩
  have own : ∀ m ∈ [Moment.work], m.isOwn = true := by simp [Moment.isOwn]
  cases chore with
  | finish path =>
      cases there : r.live[path]? with
      | none =>
          refine ⟨[.work], own, ?_⟩
          simp only [run, step, List.foldl_cons, List.foldl_nil, work, turnTo, Chore.carryOut,
            Roster.retire, there]
      | some entry =>
          obtain ⟨ms, owns, ran⟩ := exists_exchange (b := b) there (regular path entry there) none rest
          refine ⟨.work :: ms, List.forall_mem_cons.2 ⟨rfl, owns⟩, ?_⟩
          have turned : b.step .work = b.takeOut path entry none rest := by
            simp only [step, work, turnTo, b, there]
          change (b.step .work).run ms = _
          rw [turned, ran]
          rfl
  | bring path record =>
      cases there : r.live[path]? with
      | none =>
          refine ⟨[.work], own, ?_⟩
          simp only [run, step, List.foldl_cons, List.foldl_nil, work, turnTo, Chore.carryOut,
            applyRecord, makeOne, there]
      | some entry =>
          by_cases same : (entry.record == record) = true
          · refine ⟨[.work], own, ?_⟩
            simp only [run, step, List.foldl_cons, List.foldl_nil, work, turnTo, Chore.carryOut,
              applyRecord, there, if_pos same]
          · obtain ⟨ms, owns, ran⟩ :=
              exists_exchange (b := b) there (regular path entry there) (some record) rest
            refine ⟨.work :: ms, List.forall_mem_cons.2 ⟨rfl, owns⟩, ?_⟩
            have turned : b.step .work = b.takeOut path entry (some record) rest := by
              simp only [step, work, turnTo, b, there, if_neg same]
            change (b.step .work).run ms = _
            rw [turned, ran]
            simp only [exchange, makeOne, Chore.carryOut, applyRecord, there, if_neg same, b]

theorem regular_carryOut {r : Roster} (regular : r.Regular) (stats : ApplyStats) (chore : Chore) :
    (Chore.carryOut (r, stats) chore).1.Regular := by
  cases chore with
  | finish path => exact regular.retire path
  | bring path record => exact regular.applyRecord stats path record

/-- **Chores that are left to work are carried out, one after another.** -/
theorem exists_chores {r : Roster} (regular : r.Regular) (chores : List Chore)
    (stats : ApplyStats) : ∃ ms : List Moment, (∀ m ∈ ms, m.isOwn = true) ∧
      (⟨r, none, chores, stats⟩ : Busy).run ms =
        ofRoster (chores.foldl Chore.carryOut (r, stats)).1
          (chores.foldl Chore.carryOut (r, stats)).2 := by
  induction chores generalizing r stats with
  | nil => exact ⟨[], List.forall_mem_nil _, rfl⟩
  | cons chore rest ih =>
      obtain ⟨ms, owns, ran⟩ := exists_chore regular chore rest stats
      obtain ⟨ms', owns', ran'⟩ := ih (regular_carryOut regular stats chore)
        (Chore.carryOut (r, stats) chore).2
      refine ⟨ms ++ ms', ?_, ?_⟩
      · simpa [or_imp, forall_and] using ⟨owns, owns'⟩
      · rw [run_append, ran]
        exact ran'

/-! ## Between calls -/

/-- No watch waits for a read, under a path or on the way out. -/
structure Regular (b : Busy) : Prop where
  live : b.roster.Regular
  leaver : ∀ l, b.leaver = some l → l.live.Regular

namespace Regular

variable {b : Busy}

theorem takeOut (regular : b.Regular) {path : String} {entry : RosterEntry}
    (there : b.roster.live[path]? = some entry) (successor : Option SensorRecord)
    (chores : List Chore) : (b.takeOut path entry successor chores).Regular := by
  refine ⟨regular.live.erase path b.roster.site, ?_⟩
  rintro _ ⟨⟩
  exact (regular.live path entry there).cancel

theorem letGo (regular : b.Regular) (l : Leaver) : (b.letGo l).Regular := by
  have nobody : ∀ l', (none : Option Leaver) = some l' → l'.live.Regular := by simp
  have released : (b.release l).Regular := ⟨regular.live, nobody⟩
  simp only [Busy.letGo]
  cases l.successor with
  | none => exact released
  | some record => exact ⟨released.live.install _ _ _ _, nobody⟩

theorem work (regular : b.Regular) : b.work.Regular := by
  have worked := b.worked_work
  generalize b.work = b' at worked ⊢
  cases worked with
  | waits => exact regular
  | letsGo l there => exact regular.letGo l
  | passes chores stats => exact ⟨regular.live, regular.leaver⟩
  | makes chores made path record alone absent =>
      exact ⟨regular.live.install _ _ _ _, regular.leaver⟩
  | takesOut path entry successor chores alone there => exact regular.takeOut there successor chores

theorem affect (regular : b.Regular) (place : Place) {f : Site → LiveSensor → LiveSensor × Site}
    (keeps : ∀ site live, live.Regular → (f site live).1.Regular) : (b.affect f place).Regular := by
  have affected := b.affected_affect f place
  generalize b.affect f place = b' at affected ⊢
  cases affected with
  | nobody => exact regular
  | under path entry there =>
      have kept := keeps b.roster.site entry.live (regular.live path entry there)
      exact ⟨regular.live.insert kept _, regular.leaver⟩
  | leaving l there =>
      refine ⟨regular.live, ?_⟩
      rintro _ ⟨⟩
      exact keeps b.roster.site l.live (regular.leaver l there)

theorem step (regular : b.Regular) (m : Moment) : (b.step m).Regular := by
  have begun : ∀ chores stats, (b.beginCall chores stats).Regular := by
    intro chores stats
    simp only [Busy.beginCall]
    split <;> exact ⟨regular.live, regular.leaver⟩
  cases m with
  | apply c => exact begun _ _
  | shutdown => exact begun _ _
  | work => exact regular.work
  | wake place w => exact regular.affect place fun site live kept => kept.wake b.roster.now w site
  | perform place op => exact regular.affect place fun site live kept => kept.ask b.roster.now op site
  | conditions c | files files | pass ms => exact ⟨regular.live, regular.leaver⟩

theorem run (regular : b.Regular) (ms : List Moment) : (b.run ms).Regular := by
  induction ms generalizing b with
  | nil => exact regular
  | cons m rest ih => exact ih (regular.step m)

end Regular

theorem regular_quiet (site : Site) (stats : ApplyStats) :
    (ofRoster (ofSite (quiet site)) stats).Regular := by
  refine ⟨fun path entry there => ?_, fun l there => ?_⟩
  · simp [ofRoster, ofSite] at there
  · simp [ofRoster] at there

theorem eq_ofRoster_of_isIdle {b : Busy} (idle : b.isIdle = true) :
    b = ofRoster b.roster b.stats := by
  obtain ⟨gone, done⟩ := Bool.and_eq_true_iff.1 idle
  obtain ⟨roster, leaver, chores, stats⟩ := b
  obtain rfl : leaver = none := by simpa using gone
  obtain rfl : chores = [] := by simpa using done
  rfl

/-- **A call that is left to work ends**, from every moment between calls that can be reached,
and comes to what the roster comes to when nothing else happens meanwhile. -/
theorem exists_call (site : Site) (ms : List Moment) :
    let b := (ofRoster (ofSite (quiet site)) ⟨0, 0, 0, 0, 0⟩).run ms
    b.isIdle = true →
      (∀ c, ∃ own : List Moment, (∀ m ∈ own, m.isOwn = true) ∧
        b.run (.apply c :: own) = ofRoster (b.roster.apply c).1 (b.roster.apply c).2) ∧
      ∃ own : List Moment, (∀ m ∈ own, m.isOwn = true) ∧
        b.run (.shutdown :: own) = ofRoster b.roster.shutdown b.stats := by
  intro b idle
  have regular : b.Regular := (regular_quiet site _).run ms
  generalize b = b' at idle regular ⊢
  rw [eq_ofRoster_of_isIdle idle]
  refine ⟨fun c => ?_, ?_⟩
  · obtain ⟨own, owns, ran⟩ := exists_chores regular.live (b'.roster.choresOf c)
      ⟨0, 0, (b'.roster.goneFrom c).length, 0, 0⟩
    rw [← apply_eq_carryOut] at ran
    exact ⟨own, owns, ran⟩
  · obtain ⟨own, owns, ran⟩ :=
      exists_chores regular.live (b'.roster.live.keys.map .finish) b'.stats
    rw [← shutdown_eq_carryOut] at ran
    exact ⟨own, owns, ran⟩

end Busy

end Roster

end SensorMonitor
