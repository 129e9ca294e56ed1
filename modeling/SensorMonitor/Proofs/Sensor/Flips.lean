/-
# Proofs.Sensor.Flips -- a flag is told only when it turns

Ten flags of a sensor are told on the bus: the alarms of the eight slots, availability
and function.  After every run, what the log says of a flag since the registration is a
strict alternation that starts with the opposite of what the registration shows, and ends
with the flag that the sensor has (`flips_alternate`): no edge is told twice and none is left
out, whatever is done to the thresholds in between.
-/
import SensorMonitor.Proofs.Sensor.Follower

namespace SensorMonitor

set_option autoImplicit false

/-- A property of a sensor that is true or false. -/
inductive Flag where
  | alarm (slot : Slot)
  | available
  | functional
  deriving DecidableEq

namespace Flag

/-- What a registration shows; an alarm without a threshold is not raised. -/
def shown (flag : Flag) (p : Properties) : Bool :=
  match flag with
  | .alarm slot => (p.thresholds.find? (·.slot = slot)).any (·.alarm)
  | .available => p.available
  | .functional => p.functional

/-- What a changed property says of the flag. -/
def told? : Flag → Property → Option Bool
  | .alarm slot, .alarm name raised => if name = slot.alarmProperty then some raised else none
  | .available, .available b => some b
  | .functional, .functional b => some b
  | _, _ => none

/-- What an event says of the flag of the sensor at a path. -/
def toldAt? (flag : Flag) (path : String) : Event → Option Bool
  | .changed other p => if other = path then flag.told? p else none
  | _ => none

/-- All that events say of the flag, in order. -/
def flips (flag : Flag) (path : String) (events : List Event) : List Bool :=
  events.filterMap (flag.toldAt? path)

/-- What a follower holds of the flag. -/
def heldBy (flag : Flag) (m : Follower) : Bool :=
  match flag with
  | .alarm slot => m.isRaised slot
  | .available => m.available
  | .functional => m.functional

/-- A follower holds of the flag what was said last. -/
theorem heldBy_put (flag : Flag) (m : Follower) (p : Property) :
    flag.heldBy (m.put p) = (flag.told? p).getD (flag.heldBy m) := by
  cases flag with
  | alarm slot =>
      cases p with
      | alarm name raised =>
          by_cases here : name = slot.alarmProperty
          · subst here
            have said : (Flag.alarm slot).told? (.alarm slot.alarmProperty raised) = some raised :=
              if_pos rfl
            rw [said]
            exact (m.isRaised_put_alarm slot slot raised).trans (if_pos rfl)
          · have said : (Flag.alarm slot).told? (.alarm name raised) = none := if_neg here
            rw [said]
            change (Function.update m.alarms name _ slot.alarmProperty).getD false = _
            rw [Function.update_of_ne (Ne.symm here)]
            rfl
      | value x | max x | min x | trigger name x | available b | functional b => rfl
  | available => cases p <;> rfl
  | functional => cases p <;> rfl

/-- However much is put in, the last word about the flag is the one that is held. -/
theorem heldBy_putAll (flag : Flag) (m : Follower) (ps : List Property) :
    flag.heldBy (m.putAll ps) = (ps.filterMap flag.told?).getLastD (flag.heldBy m) := by
  induction ps generalizing m with
  | nil => rfl
  | cons p ps ih =>
      have further : m.putAll (p :: ps) = (m.put p).putAll ps := rfl
      rw [further, ih, flag.heldBy_put]
      cases said : flag.told? p with
      | none => rw [List.filterMap_cons_none said, Option.getD_none]
      | some b => rw [List.filterMap_cons_some said, List.getLastD_cons, Option.getD_some]

/-- News of a flag is the opposite of what is held. -/
theorem ne_heldBy_of_isNews {flag : Flag} {m : Follower} {p : Property} {b : Bool}
    (news : m.IsNews p) (said : flag.told? p = some b) : flag.heldBy m ≠ b := by
  cases flag with
  | alarm slot =>
      cases p with
      | alarm name raised =>
          change (if name = slot.alarmProperty then some raised else none) = some b at said
          split at said
          · next here =>
              cases said
              subst here
              exact Ne.symm news
          · cases said
      | value x | max x | min x | trigger name x | available b | functional b => cases said
  | available =>
      cases p <;> cases said
      exact Ne.symm news
  | functional =>
      cases p <;> cases said
      exact Ne.symm news

/-- **What is always news alternates.** -/
theorem isChain_of_news (flag : Flag) {m : Follower} {ps : List Property} (news : m.News ps) :
    (flag.heldBy m :: ps.filterMap flag.told?).IsChain (· ≠ ·) := by
  induction ps generalizing m with
  | nil => exact List.isChain_singleton _
  | cons p ps ih =>
      obtain ⟨first, rest⟩ := news
      have later := ih rest
      rw [flag.heldBy_put m p] at later
      cases said : flag.told? p with
      | none =>
          rw [said] at later
          rw [List.filterMap_cons_none said]
          exact later
      | some b =>
          rw [said] at later
          rw [List.filterMap_cons_some said]
          exact List.isChain_cons_cons.2 ⟨ne_heldBy_of_isNews first said, later⟩

theorem flips_append (flag : Flag) (path : String) (before after : List Event) :
    flag.flips path (before ++ after) = flag.flips path before ++ flag.flips path after :=
  List.filterMap_append

theorem flips_changesOf (flag : Flag) (path : String) (ps : List Property) :
    flag.flips path (Follower.changesOf path ps) = ps.filterMap flag.told? := by
  simp only [flips, Follower.changesOf]
  rw [List.filterMap_map]
  congr 1
  funext p
  exact if_pos rfl

/-- A follower that keeps track holds of the flag what the sensor shows. -/
theorem heldBy_of_tracks {m : Follower} {s : Sensor} (tracks : m.Tracks s) (flag : Flag) :
    flag.heldBy m = flag.shown s.properties := by
  cases flag with
  | alarm slot =>
      have views : s.properties.thresholds = s.thresholds.toList.map (·.view) := rfl
      change m.isRaised slot = _
      rw [tracks.alarm, shown, views, List.find?_map, Option.any_map]
      rfl
  | available => exact tracks.available
  | functional => exact tracks.functional

/-- **After every run, what was told of a flag alternates from the registration on, up to the flag
that the sensor has.** -/
theorem flips_alternate (site : Site) (d : Definition) (i : Installation) (hs : List Happening)
    (made : Installation.make site d = .ok i)
    (pristine : ∀ ts, .perform (.replaceThresholds ts) ∈ hs → ∀ t ∈ ts, t.active = false)
    (flag : Flag) :
    ∃ events, (i.run hs).site.bus.log.toList = site.bus.log.toList ++
        .registered i.sensor.identity.path i.sensor.properties :: events ∧
      (flag.shown i.sensor.properties ::
        flag.flips i.sensor.identity.path events).IsChain (· ≠ ·) ∧
      (flag.flips i.sensor.identity.path events).getLastD (flag.shown i.sensor.properties) =
        flag.shown (i.run hs).sensor.properties := by
  obtain ⟨ps, log, news, tracks, -⟩ := Follower.run_follows made pristine
  have wf := ((Installation.make_eq_ok made).1.fresh).wellFormed
  have start := flag.heldBy_of_tracks (Follower.tracks_ofProperties wf)
  refine ⟨_, log, ?_⟩
  rw [flips_changesOf, ← start]
  refine ⟨flag.isChain_of_news news, ?_⟩
  rw [← flag.heldBy_putAll]
  exact heldBy_of_tracks tracks flag

theorem flips_alternate_sample :
    ∃ i, Installation.make .fresh Installation.sampleDefinition = .ok i ∧
      ∃ events, (i.run Installation.sampleRun).site.bus.log.toList =
          .registered i.sensor.identity.path i.sensor.properties :: events ∧
        ((alarm ⟨.warning, .high⟩).shown i.sensor.properties ::
          (alarm ⟨.warning, .high⟩).flips i.sensor.identity.path events).IsChain (· ≠ ·) ∧
        ((alarm ⟨.warning, .high⟩).flips i.sensor.identity.path events).getLastD
            ((alarm ⟨.warning, .high⟩).shown i.sensor.properties) =
          (alarm ⟨.warning, .high⟩).shown (i.run Installation.sampleRun).sensor.properties := by
  obtain ⟨i, made⟩ := Installation.exists_sample
  exact ⟨i, made, flips_alternate .fresh Installation.sampleDefinition i Installation.sampleRun made
    Installation.pristine_sampleRun (.alarm ⟨.warning, .high⟩)⟩

end Flag

end SensorMonitor
