/-
# Proofs.Sensor.Follower -- the log tells all there is to know

A follower of a path starts from the properties in the registration and then puts in
every changed property, in order.  It never sees the sensor.  After every run it holds
the bounds, both flags of health and every trigger and alarm as the sensor has them,
and the value unless the sensor has lost or forgotten its own
(`follower_agrees`).  Each flag that is told is news to the follower (`run_follows`).

The one thing that the log leaves unsaid is that a new alarm is clear: an alarm of which
nothing was told counts as clear.
-/
import SensorMonitor.Proofs.Sensor.Installation

namespace SensorMonitor

set_option autoImplicit false

/-- What is known of a sensor to one who only reads the log. -/
structure Follower where
  value : Float
  max : Float
  min : Float
  triggers : String → Option Float
  alarms : String → Option Bool
  available : Bool
  functional : Bool

namespace Follower

/-! ## Reading the log -/

/-- A property with its new value. -/
def put (m : Follower) : Property → Follower
  | .value x => { m with value := x }
  | .max x => { m with max := x }
  | .min x => { m with min := x }
  | .trigger name x => { m with triggers := Function.update m.triggers name (some x) }
  | .alarm name raised => { m with alarms := Function.update m.alarms name (some raised) }
  | .available b => { m with available := b }
  | .functional b => { m with functional := b }

/-- Properties one after another. -/
def putAll (m : Follower) (ps : List Property) : Follower := ps.foldl put m

/-- All properties at once, as in a registration. -/
def ofProperties (p : Properties) : Follower where
  value := p.value
  max := p.max
  min := p.min
  triggers name := (p.thresholds.find? (·.slot.triggerProperty = name)).map (·.trigger)
  alarms name := (p.thresholds.find? (·.slot.alarmProperty = name)).map (·.alarm)
  available := p.available
  functional := p.functional

/-- What an event does to the follower of a path. -/
def hear (path : String) (m : Option Follower) : Event → Option Follower
  | .registered other p => if other = path then some (ofProperties p) else m
  | .changed other p => if other = path then m.map (·.put p) else m
  | .removed other => if other = path then none else m

/-- The follower of a path after a whole log. -/
def ofLog (path : String) (bus : Bus) : Option Follower := bus.log.toList.foldl (hear path) none

/-- The alarm is known to be raised. -/
def isRaised (m : Follower) (slot : Slot) : Bool := (m.alarms slot.alarmProperty).getD false

/-- The follower holds what the sensor has.  A value that the sensor has lost or
forgotten is NaN and is not compared. -/
structure Agrees (m : Follower) (s : Sensor) : Prop where
  value : s.value.isNaN = false → m.value = s.value
  max : m.max = s.measurement.max
  min : m.min = s.measurement.min
  available : m.available = s.health.available
  functional : m.functional = s.health.functional
  trigger : ∀ t ∈ s.thresholds.toList, m.triggers t.slot.triggerProperty = some t.trigger
  alarm : ∀ t ∈ s.thresholds.toList, m.isRaised t.slot = t.active

/-! ## News -/

/-- The property says of a flag what the follower does not hold. -/
def IsNews (m : Follower) : Property → Prop
  | .alarm name raised => raised ≠ (m.alarms name).getD false
  | .available b => b ≠ m.available
  | .functional b => b ≠ m.functional
  | _ => True

/-- Each property is news when it comes. -/
def News (m : Follower) : List Property → Prop
  | [] => True
  | p :: ps => m.IsNews p ∧ (m.put p).News ps

theorem putAll_append (m : Follower) (ps qs : List Property) :
    m.putAll (ps ++ qs) = (m.putAll ps).putAll qs :=
  List.foldl_append

theorem news_append (m : Follower) (ps qs : List Property) :
    m.News (ps ++ qs) ↔ m.News ps ∧ (m.putAll ps).News qs := by
  induction ps generalizing m with
  | nil => simp [News, putAll]
  | cons p ps ih =>
      simp only [List.cons_append, News, ih, and_assoc]
      rfl

theorem isRaised_put_alarm (m : Follower) (slot other : Slot) (raised : Bool) :
    (m.put (.alarm slot.alarmProperty raised)).isRaised other =
      if other = slot then raised else m.isRaised other := by
  simp only [isRaised, put]
  by_cases same : other = slot
  · rw [if_pos same, same, Function.update_self]
    rfl
  · have apart : other.alarmProperty ≠ slot.alarmProperty :=
      fun h => same (Slot.alarmProperty_injective h)
    rw [if_neg same, Function.update_of_ne apart]

/-- Alarms that are all told to have changed. -/
def turned (m : Follower) (slots : List Slot) : List Property :=
  slots.map fun slot => .alarm slot.alarmProperty (!m.isRaised slot)

theorem putAll_turned (m : Follower) {slots : List Slot} (distinct : slots.Nodup) :
    m.News (m.turned slots) ∧
      (∀ slot, (m.putAll (m.turned slots)).isRaised slot =
        if slot ∈ slots then !m.isRaised slot else m.isRaised slot) ∧
      ∃ alarms, m.putAll (m.turned slots) = { m with alarms := alarms } := by
  induction slots generalizing m with
  | nil => exact ⟨trivial, by simp [turned, putAll], m.alarms, rfl⟩
  | cons first rest ih =>
      obtain ⟨fresh, distinct⟩ := List.nodup_cons.1 distinct
      let next := m.put (.alarm first.alarmProperty (!m.isRaised first))
      -- a slot is told once only, so what is said of the others does not depend on it
      have unchanged : ∀ slot ∈ rest, next.isRaised slot = m.isRaised slot := by
        intro slot member
        rw [isRaised_put_alarm, if_neg]
        rintro rfl
        exact fresh member
      have later : m.turned rest = next.turned rest :=
        List.map_congr_left fun slot member => by rw [unchanged slot member]
      obtain ⟨news, raised, alarms, frame⟩ := ih next distinct
      have told : m.turned (first :: rest) =
          .alarm first.alarmProperty (!m.isRaised first) :: next.turned rest :=
        congrArg (List.cons _) later
      have put : m.putAll (m.turned (first :: rest)) = next.putAll (next.turned rest) := by
        rw [told]
        rfl
      refine ⟨?_, ?_, alarms, by rw [put, frame]; rfl⟩
      · rw [told]
        refine ⟨?_, news⟩
        change (!m.isRaised first) ≠ m.isRaised first
        simp
      · intro slot
        rw [put, raised]
        by_cases same : slot = first
        · subst same
          rw [if_neg fresh, isRaised_put_alarm, if_pos rfl, if_pos List.mem_cons_self]
        · have old : next.isRaised slot = m.isRaised slot := by
            rw [isRaised_put_alarm, if_neg same]
          simp only [old, List.mem_cons, same, false_or]

/-- Triggers that are all told. -/
def triggersOf (ts : List Threshold) : List Property :=
  ts.map fun t => .trigger t.slot.triggerProperty t.trigger

theorem putAll_triggersOf (m : Follower) {ts : List Threshold}
    (distinct : (ts.map (·.slot)).Nodup) :
    m.News (triggersOf ts) ∧
      (∀ t ∈ ts, (m.putAll (triggersOf ts)).triggers t.slot.triggerProperty = some t.trigger) ∧
      (∀ slot ∉ ts.map (·.slot), (m.putAll (triggersOf ts)).triggers slot.triggerProperty =
        m.triggers slot.triggerProperty) ∧
      ∃ triggers, m.putAll (triggersOf ts) = { m with triggers := triggers } := by
  induction ts generalizing m with
  | nil => exact ⟨trivial, by simp, by simp [triggersOf, putAll], m.triggers, rfl⟩
  | cons first rest ih =>
      obtain ⟨fresh, distinct⟩ := List.nodup_cons.1 distinct
      let next := m.put (.trigger first.slot.triggerProperty first.trigger)
      obtain ⟨news, told, untold, triggers, frame⟩ := ih next distinct
      have put : m.putAll (triggersOf (first :: rest)) = next.putAll (triggersOf rest) := rfl
      refine ⟨⟨trivial, news⟩, ?_, ?_, triggers, by rw [put, frame]; rfl⟩
      · intro t member
        rw [put]
        rcases List.mem_cons.1 member with rfl | later
        · rw [untold t.slot fresh]
          exact Function.update_self ..
        · exact told t later
      · intro slot absent
        rw [List.map_cons, List.mem_cons, not_or] at absent
        rw [put, untold slot absent.2]
        exact Function.update_of_ne (fun h => absent.1 (Slot.triggerProperty_injective h)) ..

/-! ## One move -/

/-- What the follower holds at any time: also that a slot without a threshold has no
alarm that is raised. -/
structure Tracks (m : Follower) (s : Sensor) : Prop where
  value : s.value.isNaN = false → m.value = s.value
  max : m.max = s.measurement.max
  min : m.min = s.measurement.min
  available : m.available = s.health.available
  functional : m.functional = s.health.functional
  trigger : ∀ t ∈ s.thresholds.toList, m.triggers t.slot.triggerProperty = some t.trigger
  alarm : ∀ slot, m.isRaised slot = s.thresholds.alarm slot

theorem Tracks.agrees {m : Follower} {s : Sensor} (tracks : m.Tracks s) (wf : s.WellFormed) :
    m.Agrees s := by
  refine ⟨tracks.value, tracks.max, tracks.min, tracks.available, tracks.functional,
    tracks.trigger, ?_⟩
  intro t member
  rw [tracks.alarm, wf.thresholds.ordered.alarm_eq member]

theorem tracks_ofProperties {s : Sensor} (wf : s.WellFormed) :
    (ofProperties s.properties).Tracks s := by
  have views : s.properties.thresholds = s.thresholds.toList.map (·.view) := rfl
  refine ⟨fun _ => rfl, rfl, rfl, rfl, rfl, ?_, ?_⟩
  · intro t member
    have found := (Thresholds.get?_eq_some_iff wf.thresholds.ordered t.slot t).2 ⟨member, rfl⟩
    have named : (fun t' : Threshold => decide (t'.slot.triggerProperty = t.slot.triggerProperty)) =
        fun t' => decide (t'.slot = t.slot) := by
      funext t'
      exact decide_eq_decide.2 ⟨Slot.triggerProperty_injective, congrArg _⟩
    change ((s.properties.thresholds.find? _).map _) = _
    rw [views, List.find?_map]
    change ((s.thresholds.toList.find? fun t' : Threshold =>
      decide (t'.slot.triggerProperty = t.slot.triggerProperty)).map _).map _ = _
    rw [named]
    change ((s.thresholds.get? t.slot).map _).map _ = _
    rw [found]
    rfl
  · intro slot
    have named : (fun t : Threshold => decide (t.slot.alarmProperty = slot.alarmProperty)) =
        fun t => decide (t.slot = slot) := by
      funext t
      exact decide_eq_decide.2 ⟨Slot.alarmProperty_injective, congrArg _⟩
    change ((s.properties.thresholds.find? _).map _).getD false = _
    rw [views, List.find?_map]
    change (((s.thresholds.toList.find? fun t : Threshold =>
      decide (t.slot.alarmProperty = slot.alarmProperty)).map _).map _).getD false = _
    rw [named]
    change (((s.thresholds.get? slot).map _).map _).getD false = (s.thresholds.get? slot).any _
    cases s.thresholds.get? slot <;> rfl

/-- The properties that a sensor announces. -/
def changesOf (path : String) (ps : List Property) : List Event := ps.map (.changed path)

section Moves

variable {m : Follower} {s : Sensor}

/-- The follower keeps track of a sensor through these properties, each of them news. -/
def Follows (m : Follower) (s : Sensor) (effects : List Sensor.Effect) (s' : Sensor) : Prop :=
  ∃ ps, Sensor.announced effects = changesOf s.identity.path ps ∧ m.News ps ∧
    (m.putAll ps).Tracks s'

theorem Tracks.withValue {x : Float} (tracks : m.Tracks s) :
    ({ m with value := x } : Follower).Tracks
      { s with measurement := s.measurement.withValue x } :=
  { tracks with value := fun _ => rfl }

theorem Tracks.forget (tracks : m.Tracks s) :
    m.Tracks { s with measurement := s.measurement.forget } :=
  { tracks with value := fun number => absurd (Number.isNaN_nan.symm.trans number) (by decide) }

theorem announced_store (x : Float) (s : Sensor) :
    Sensor.announced (Sensor.Act.store x s).2 = changesOf s.identity.path [.value x] := by
  have shared : ∀ s, Sensor.announced (Sensor.Act.share x s).2 = [] := by
    intro s
    simp only [Sensor.Act.share]
    split <;> rfl
  simp only [Sensor.Act.store]
  rw [Sensor.Act.andThen_snd, Sensor.announced_append, shared]
  rfl

/-- A slot is told to have turned exactly where a reading turns its alarm. -/
theorem alarm_evaluate {ts : Thresholds} (ordered : ts.Ordered) (x : Float) (slot : Slot) :
    (ts.evaluate x).alarm slot =
      if slot ∈ (ts.edges x).map (·.slot) then !ts.alarm slot else ts.alarm slot := by
  have turns : slot ∈ (ts.edges x).map (·.slot) ↔
      ∃ t, ts.get? slot = some t ∧ t.latch x ≠ t.active := by
    simp only [Thresholds.edges, List.mem_map, List.mem_filterMap,
      Threshold.edge?_eq_some_iff]
    constructor
    · rintro ⟨edge, ⟨t, member, turned, rfl⟩, rfl⟩
      exact ⟨t, (Thresholds.get?_eq_some_iff ordered _ t).2 ⟨member, rfl⟩, turned⟩
    · rintro ⟨t, found, turned⟩
      obtain ⟨member, rfl⟩ := Thresholds.get?_slot found
      exact ⟨_, ⟨t, member, turned, rfl⟩, rfl⟩
  simp only [turns, Thresholds.alarm, Thresholds.get?_evaluate]
  cases ts.get? slot with
  | none => simp
  | some t =>
      simp only [Option.some.injEq, exists_eq_left', Option.map_some, Option.any_some]
      change t.latch x = _
      cases t.latch x <;> cases t.active <;> rfl

theorem nodup_edges {ts : Thresholds} (ordered : ts.Ordered) (x : Float) :
    ((ts.edges x).map (·.slot)).Nodup := by
  have slots : ((ts.edges x).map (·.slot)).Sublist (ts.toList.map (·.slot)) := by
    simp only [Thresholds.edges]
    generalize ts.toList = list
    induction list with
    | nil => exact List.Sublist.slnil
    | cons t rest ih =>
        rw [List.filterMap_cons]
        cases turned : t.edge? x with
        | none => exact ih.cons _
        | some edge =>
            have slot : edge.slot = t.slot := by
              obtain ⟨-, rfl⟩ := (t.edge?_eq_some_iff x edge).1 turned
              rfl
            rw [List.map_cons, List.map_cons, slot]
            exact ih.cons_cons _
  exact slots.nodup ordered.nodup

theorem follows_evaluate (tracks : m.Tracks s) (wf : s.WellFormed) :
    m.Follows s (Sensor.Act.checkThresholds s).2 (Sensor.Act.checkThresholds s).1 := by
  rw [Sensor.Act.checkThresholds_fst]
  simp only [Sensor.Act.checkThresholds]
  split
  · let edges := s.thresholds.edges s.value
    have distinct := nodup_edges wf.thresholds.ordered s.value
    obtain ⟨news, raised, alarms, frame⟩ := m.putAll_turned distinct
    refine ⟨m.turned (edges.map (·.slot)), ?_, news, ?_⟩
    · have alarm : ∀ edge ∈ edges, Sensor.Act.alarmOf edge =
          .alarm edge.slot.alarmProperty (!m.isRaised edge.slot) := by
        intro edge member
        obtain ⟨t, present, turned⟩ := List.mem_filterMap.1 member
        obtain ⟨turns, rfl⟩ := (t.edge?_eq_some_iff _ _).1 turned
        have known : m.isRaised t.slot = t.active := by
          rw [tracks.alarm, wf.thresholds.ordered.alarm_eq present]
        have opposite : t.latch s.value = !t.active := Bool.eq_not.2 turns
        simp only [Sensor.Act.alarmOf, known, opposite]
      simp only [turned, changesOf, List.map_map]
      change List.filterMap _ (List.map _ (List.map Sensor.Act.alarmOf edges)) = _
      rw [List.map_congr_left alarm]
      simp [Sensor.Effect.event?, Function.comp_def]
    · rw [frame] at raised ⊢
      refine { tracks with trigger := ?_, alarm := ?_ }
      · intro t member
        obtain ⟨before, present, rfl⟩ := List.mem_map.1 member
        exact tracks.trigger before present
      · intro slot
        rw [raised, tracks.alarm]
        exact (alarm_evaluate wf.thresholds.ordered s.value slot).symm
  · exact ⟨[], rfl, trivial, tracks⟩

theorem follows_edit {thresholds : Thresholds} {slot : Slot} {x : Float} {edited : Threshold}
    (tracks : m.Tracks s) (accepted : s.thresholds.setTrigger slot x = .ok (thresholds, edited)) :
    m.Follows s (Sensor.Act.editThreshold thresholds edited s).2
      (Sensor.Act.editThreshold thresholds edited s).1 := by
  have alarms := Thresholds.get?_setTrigger accepted
  obtain ⟨-, t, found, rfl, rfl⟩ := Thresholds.setTrigger_eq_ok accepted
  obtain ⟨-, same⟩ := Thresholds.get?_slot found
  refine ⟨[.trigger t.slot.triggerProperty x], rfl, ⟨trivial, trivial⟩, ?_⟩
  refine Tracks.forget { tracks with trigger := ?_, alarm := ?_ }
  · intro after member
    obtain ⟨before, present, rfl⟩ := List.mem_map.1 member
    by_cases here : before.slot = slot
    · rw [if_pos here]
      change Function.update m.triggers _ _ before.slot.triggerProperty = some x
      rw [here, same, Function.update_self]
    · rw [if_neg here]
      change Function.update m.triggers _ _ before.slot.triggerProperty = _
      rw [Function.update_of_ne, tracks.trigger before present]
      exact fun named => here ((Slot.triggerProperty_injective named).trans same)
  · intro other
    change m.isRaised other = _
    rw [tracks.alarm, Thresholds.alarm, Thresholds.alarm, alarms]
    cases s.thresholds.get? other with
    | none => rfl
    | some t =>
        change t.active = Threshold.active (if _ then _ else _)
        split <;> rfl

/-- New definitions without a raised alarm leave raised just what stays raised. -/
theorem alarm_inheritAlarms {old new : Thresholds} (ordered : old.Ordered)
    (clear : ∀ t ∈ new.toList, t.active = false) (slot : Slot) :
    (old.inheritAlarms new).alarm slot =
      if slot ∈ old.abandoned new then !old.alarm slot else old.alarm slot := by
  simp only [Thresholds.mem_abandoned_iff ordered]
  unfold Thresholds.alarm
  rw [Thresholds.get?_inheritAlarms]
  cases found : new.get? slot with
  | none => cases (old.get? slot).any (·.active) <;> simp
  | some t =>
      have calm := clear t (Thresholds.get?_slot found).1
      cases old.get? slot with
      | none => simpa using calm
      | some before => simp

theorem nodup_abandoned {old : Thresholds} (ordered : old.Ordered) (new : Thresholds) :
    (old.abandoned new).Nodup :=
  (List.filter_sublist.map _).nodup ordered.nodup

theorem follows_adopt {ts : List Threshold} {next thresholds : Thresholds}
    (tracks : m.Tracks s) (wf : s.WellFormed) (clear : ∀ t ∈ ts, t.active = false)
    (defined : s.definitions ts = .ok next)
    (swapped : s.thresholds.replace? next = some thresholds) :
    m.Follows s (Sensor.Act.adoptThresholds (s.thresholds.abandoned next) thresholds s).2
      (Sensor.Act.adoptThresholds (s.thresholds.abandoned next) thresholds s).1 := by
  have ordered := wf.thresholds.ordered
  obtain ⟨given, ofList, rfl⟩ := Sensor.definitions_eq_ok defined
  have calm := Thresholds.clear_of_ofList (h := s.measurement.triggerBand) ofList clear
  have after := Thresholds.wellFormed_of_ofList ofList wf.band
  revert swapped
  generalize given.withDefaultHysteresis s.measurement.triggerBand = next at calm after
  intro swapped
  obtain rfl := Thresholds.replace?_eq_some swapped
  let slots := s.thresholds.abandoned next
  let adopted := s.thresholds.inheritAlarms next
  have distinct := (after.inheritAlarms s.thresholds).ordered.nodup
  obtain ⟨news, raised, alarms, frame⟩ := m.putAll_turned (nodup_abandoned ordered next)
  obtain ⟨news', told, -, triggers, frame'⟩ :=
    (m.putAll (m.turned slots)).putAll_triggersOf distinct
  refine ⟨m.turned slots ++ triggersOf adopted.toList, ?_, (news_append ..).2 ⟨news, news'⟩, ?_⟩
  · have cleared : ∀ slot ∈ slots, Property.alarm slot.alarmProperty false =
        .alarm slot.alarmProperty (!m.isRaised slot) := by
      intro slot member
      have active := ((Thresholds.mem_abandoned_iff ordered next slot).1 member).1
      rw [tracks.alarm, active]
      rfl
    have alarmsTold : (slots.map fun slot => Property.alarm slot.alarmProperty false) =
        m.turned slots := List.map_congr_left cleared
    simp only [Sensor.Act.adoptThresholds]
    rw [alarmsTold]
    simp [Sensor.Act.publishAll, Sensor.Act.forget, Sensor.Act.change, Sensor.announced,
      Sensor.Effect.event?, changesOf, triggersOf, Function.comp_def, adopted]
  · rw [putAll_append]
    rw [frame'] at told ⊢
    rw [frame] at raised told ⊢
    refine Tracks.forget { tracks with trigger := told, alarm := ?_ }
    intro slot
    change _ = adopted.alarm slot
    rw [alarm_inheritAlarms ordered calm, ← tracks.alarm]
    exact raised slot

/-- **No move leaves the follower behind, and none tells it what it holds.** -/
theorem follows_move {op : Sensor.Op} {effects : List Sensor.Effect} {s' : Sensor}
    (tracks : m.Tracks s) (wf : s.WellFormed) (move : Sensor.Move op s effects s')
    (pristine : ∀ ts, op = .replaceThresholds ts → ∀ t ∈ ts, t.active = false) :
    m.Follows s effects s' := by
  cases move with
  | silent alike quiet =>
      have same := alike.properties
      have value : s'.value = s.value := congrArg Properties.value same
      refine ⟨[], quiet, trivial, ?_⟩
      exact ⟨fun number => value ▸ tracks.value (value ▸ number),
        tracks.max.trans (congrArg Properties.max same).symm,
        tracks.min.trans (congrArg Properties.min same).symm,
        tracks.available.trans (congrArg Properties.available same).symm,
        tracks.functional.trans (congrArg Properties.functional same).symm,
        alike.thresholds ▸ tracks.trigger, alike.thresholds ▸ tracks.alarm⟩
  | participate asked =>
      exact ⟨[], rfl, trivial, { tracks with }⟩
  | forget => exact ⟨[], rfl, trivial, tracks.forget⟩
  | store x =>
      exact ⟨[.value x], announced_store x s, ⟨trivial, trivial⟩, tracks.withValue⟩
  | functional b =>
      rw [Sensor.Act.noteFunctional_fst]
      by_cases same : s.health.functional = b
      · refine ⟨[], ?_, trivial, ?_⟩
        · simp [Sensor.Act.noteFunctional, same, Sensor.Act.skip, Sensor.announced, changesOf]
        · exact { tracks with functional := tracks.functional.trans same }
      · refine ⟨[.functional b], ?_, ⟨?_, trivial⟩, ?_⟩
        · simp [Sensor.Act.noteFunctional, same, Sensor.Act.publish, Sensor.announced,
            Sensor.Effect.event?, changesOf]
        · exact fun known => same (tracks.functional.symm.trans known.symm)
        · exact { tracks with functional := rfl }
  | available b =>
      rw [Sensor.Act.noteAvailable_fst]
      by_cases same : s.health.available = b
      · refine ⟨[], ?_, trivial, ?_⟩
        · simp [Sensor.Act.noteAvailable, same, Sensor.Act.skip, Sensor.announced, changesOf]
        · exact { tracks with available := tracks.available.trans same }
      · refine ⟨[.available b], ?_, ⟨?_, trivial⟩, ?_⟩
        · simp [Sensor.Act.noteAvailable, same, Sensor.Act.publish, Sensor.announced,
            Sensor.Effect.event?, changesOf]
        · exact fun known => same (tracks.available.symm.trans known.symm)
        · exact { tracks with available := rfl }
  | min x =>
      simp only [Sensor.Act.setMin]
      split
      · exact ⟨[.min x], rfl, ⟨trivial, trivial⟩, { tracks with min := rfl }⟩
      · exact ⟨[], rfl, trivial, tracks⟩
  | max x =>
      simp only [Sensor.Act.setMax]
      split
      · exact ⟨[.max x], rfl, ⟨trivial, trivial⟩, { tracks with max := rfl }⟩
      · exact ⟨[], rfl, trivial, tracks⟩
  | evaluate => exact follows_evaluate tracks wf
  | edit asked accepted => exact follows_edit tracks accepted
  | adopt asked defined swapped => exact follows_adopt tracks wf (pristine _ asked) defined swapped

end Moves

/-! ## Runs -/

/-- The log of a run is that of the site, the registration, and changes of properties
that a follower keeps track of the sensor by. -/
theorem run_follows {site : Site} {d : Definition} {i : Installation} {hs : List Happening}
    (made : Installation.make site d = .ok i)
    (pristine : ∀ ts, .perform (.replaceThresholds ts) ∈ hs → ∀ t ∈ ts, t.active = false) :
    ∃ ps, (i.run hs).site.bus.log.toList = site.bus.log.toList ++
        .registered i.sensor.identity.path i.sensor.properties ::
          changesOf i.sensor.identity.path ps ∧
      (ofProperties i.sensor.properties).News ps ∧
      ((ofProperties i.sensor.properties).putAll ps).Tracks (i.run hs).sensor ∧
      (i.run hs).sensor.WellFormed := by
  obtain ⟨defined, registered⟩ := Installation.make_eq_ok made
  have wf := defined.fresh.wellFormed
  let start := ofProperties i.sensor.properties
  let path := i.sensor.identity.path
  let invariant : List Event → Sensor → Prop := fun events s =>
    ∃ ps, events = changesOf path ps ∧ start.News ps ∧ (start.putAll ps).Tracks s ∧
      s.WellFormed ∧ s.identity.path = path
  have step : ∀ {op s effects s' events}, .perform op ∈ hs → Sensor.Move op s effects s' →
      invariant events s → invariant (events ++ Sensor.announced effects) s' := by
    rintro op s effects s' events asked move ⟨ps, rfl, news, tracks, wf, same⟩
    have clear : ∀ ts, op = .replaceThresholds ts → ∀ t ∈ ts, t.active = false := by
      rintro ts rfl
      exact pristine ts asked
    obtain ⟨qs, announced, news', tracks'⟩ := follows_move tracks wf move clear
    refine ⟨ps ++ qs, ?_, (news_append ..).2 ⟨news, news'⟩, ?_, move.wellFormed wf, ?_⟩
    · rw [announced, same]
      exact List.map_append.symm
    · rw [putAll_append]
      exact tracks'
    · rw [move.identity]
      exact same
  have fresh : invariant [] i.sensor := ⟨[], rfl, trivial, tracks_ofProperties wf, wf, rfl⟩
  obtain ⟨events, log, ps, rfl, news, tracks, wf', -⟩ := i.run_invariant invariant hs fresh step
  refine ⟨ps, ?_, news, tracks, wf'⟩
  rw [log, registered, List.append_assoc]
  rfl

theorem hear_changesOf (path : String) (m : Follower) (ps : List Property) :
    (changesOf path ps).foldl (hear path) (some m) = some (m.putAll ps) := by
  induction ps generalizing m with
  | nil => rfl
  | cons p ps ih =>
      change (changesOf path ps).foldl (hear path) (hear path (some m) (.changed path p)) = _
      rw [show hear path (some m) (.changed path p) = some (m.put p) from if_pos rfl]
      exact ih (m.put p)

/-- **After every run, one who has only read the log holds what the sensor has.** -/
theorem follower_agrees (site : Site) (d : Definition) (i : Installation) (hs : List Happening)
    (made : Installation.make site d = .ok i)
    (pristine : ∀ ts, .perform (.replaceThresholds ts) ∈ hs → ∀ t ∈ ts, t.active = false) :
    ∃ m, ofLog i.sensor.identity.path (i.run hs).site.bus = some m ∧
      m.Agrees (i.run hs).sensor := by
  obtain ⟨ps, log, -, tracks, wf⟩ := run_follows made pristine
  refine ⟨_, ?_, tracks.agrees wf⟩
  have registered : ∀ m p, hear i.sensor.identity.path m
      (.registered i.sensor.identity.path p) = some (ofProperties p) := fun _ _ => if_pos rfl
  simp only [ofLog]
  rw [log, List.foldl_append, List.foldl_cons, registered, hear_changesOf]

theorem follower_agrees_sample :
    ∃ i, Installation.make .fresh Installation.sampleDefinition = .ok i ∧
    ∃ m, ofLog i.sensor.identity.path (i.run Installation.sampleRun).site.bus = some m ∧
      m.Agrees (i.run Installation.sampleRun).sensor := by
  obtain ⟨i, made⟩ := Installation.exists_sample
  refine ⟨i, made, ?_⟩
  exact follower_agrees .fresh Installation.sampleDefinition i Installation.sampleRun made
    Installation.pristine_sampleRun

end Follower

end SensorMonitor
