/-
# Proofs.Sensor.Replacement -- new thresholds in place of the old

A list of thresholds that a sensor is given counts as new unless it restates the old one:
each of its definitions is in force already, up to the hysteresis that the sensor fills in,
and each that is in force is stated again (`Thresholds.sameDefinitions_iff`).  The two are
compared one by one, after sorting; that this comes to the same is due to the order of slots
(`Thresholds.forall₂_iff_of_ordered`).

A list that restates the old one changes nothing at all.  Any other one replaces it whole
(`Installation.Redefined`): alarms stay with their slots, and those whose slots are given up
are cleared on the bus before the triggers are told.
-/
import SensorMonitor.Proofs.Sensor.Override
import SensorMonitor.Proofs.Thresholds.Defining

namespace SensorMonitor

set_option autoImplicit false

/-! ## Definitions that are in force already -/

namespace Threshold

/-- The hysteresis, or another one while it is not set. -/
def hysteresisOr (t : Threshold) (h : Float) : Float :=
  if t.hysteresis.isNaN then h else t.hysteresis

/-- The definition with its hysteresis filled in. -/
def filled (t : Threshold) (h : Float) : Threshold := { t with hysteresis := t.hysteresisOr h }

/-- The definition, with a hysteresis to fill in, says of its slot what is in force there. -/
structure Restates (t : Threshold) (h : Float) (old : Threshold) : Prop where
  slot : old.slot = t.slot
  trigger : (old.trigger == t.trigger) = true
  hysteresis : (old.hysteresis == t.hysteresisOr h) = true

theorem slot_of_sameDefinition {a b : Threshold} (same : a.sameDefinition b = true) :
    a.slot = b.slot := by
  simp only [sameDefinition, Bool.and_eq_true, decide_eq_true_eq] at same
  exact same.1.1

/-- Where the hysteresis in force is set, it is no matter what unset ones are like. -/
theorem sameDefinition_iff {old : Threshold} (sound : old.Sound) (t : Threshold) (h : Float) :
    old.sameDefinition (t.filled h) = true ↔ t.Restates h old := by
  have number : old.hysteresis.isNaN = false := ((Number.le_iff _ _).1 sound.nonneg).2.1
  simp only [sameDefinition, number, Bool.false_and, Bool.or_false, Bool.and_eq_true,
    decide_eq_true_eq, and_assoc]
  constructor
  · rintro ⟨slot, trigger, hysteresis⟩
    exact ⟨slot, trigger, hysteresis⟩
  · rintro ⟨slot, trigger, hysteresis⟩
    exact ⟨slot, trigger, hysteresis⟩

end Threshold

namespace Thresholds

/-- Each definition of the list is in force, and each that is in force is in the list. -/
def Restated (old : Thresholds) (h : Float) (ts : List Threshold) : Prop :=
  (∀ t ∈ ts, ∃ o ∈ old.toList, t.Restates h o) ∧ ∀ o ∈ old.toList, ∃ t ∈ ts, t.Restates h o

/-- What the definition of a slot becomes where old ones are replaced: its hysteresis is filled
in, and the alarm of the slot stays. -/
def adopt (old : Thresholds) (h : Float) (t : Threshold) : Threshold :=
  ⟨t.slot, t.trigger, t.hysteresisOr h, old.alarm t.slot⟩

/-- Where the first of both rows have one slot, those behind find their counterparts behind. -/
theorem exists_behind {R : Threshold → Threshold → Prop} {a b : Threshold}
    {as bs : List Threshold} (same : ∀ {a b}, R a b → a.slot = b.slot) (heads : a.slot = b.slot)
    (first : ∀ a' ∈ as, a.slot.rank < a'.slot.rank)
    (all : ∀ a' ∈ a :: as, ∃ b' ∈ b :: bs, R a' b') : ∀ a' ∈ as, ∃ b' ∈ bs, R a' b' := by
  intro a' member
  obtain ⟨b', present, related⟩ := all a' (List.mem_cons_of_mem _ member)
  rcases List.mem_cons.1 present with rfl | later
  · have lt := first a' member
    rw [same related, heads] at lt
    omega
  · exact ⟨b', later, related⟩

section Rows

variable {R : Threshold → Threshold → Prop} (same : ∀ {a b}, R a b → a.slot = b.slot)

include same

/-- The first of both go together, and so do those behind. -/
theorem forall₂_of_ordered {as bs : List Threshold}
    (ordered : as.Pairwise fun a a' => a.slot.rank < a'.slot.rank)
    (ordered' : bs.Pairwise fun b b' => b.slot.rank < b'.slot.rank)
    (left : ∀ a ∈ as, ∃ b ∈ bs, R a b) (right : ∀ b ∈ bs, ∃ a ∈ as, R a b) :
    List.Forall₂ R as bs := by
  induction as generalizing bs with
  | nil =>
      cases bs with
      | nil => exact .nil
      | cons b bs =>
          obtain ⟨a, member, -⟩ := right b List.mem_cons_self
          cases member
  | cons a as ih =>
      cases bs with
      | nil =>
          obtain ⟨b, member, -⟩ := left a List.mem_cons_self
          cases member
      | cons b bs =>
          obtain ⟨first, ordered⟩ := List.pairwise_cons.1 ordered
          obtain ⟨first', ordered'⟩ := List.pairwise_cons.1 ordered'
          -- Neither of the first has its counterpart behind the other.
          have heads : R a b := by
            obtain ⟨b', member, related⟩ := left a List.mem_cons_self
            obtain ⟨a', member', related'⟩ := right b List.mem_cons_self
            rcases List.mem_cons.1 member with rfl | later
            · exact related
            · rcases List.mem_cons.1 member' with rfl | later'
              · exact related'
              · have lt := first a' later'
                have lt' := first' b' later
                rw [same related'] at lt
                rw [← same related] at lt'
                omega
          refine .cons heads (ih ordered ordered' ?_ ?_)
          · exact exists_behind same (same heads) first left
          · exact exists_behind (fun related => (same related).symm) (same heads).symm first' right

/-- **Rows in the order of slots correspond one by one** if each of either has a counterpart in
the other. -/
theorem forall₂_iff_of_ordered {as bs : Thresholds} (ordered : as.Ordered)
    (ordered' : bs.Ordered) : List.Forall₂ R as.toList bs.toList ↔
      (∀ a ∈ as.toList, ∃ b ∈ bs.toList, R a b) ∧ ∀ b ∈ bs.toList, ∃ a ∈ as.toList, R a b := by
  constructor
  · intro all
    obtain ⟨length, each⟩ := List.forall₂_iff_get.1 all
    constructor
    · intro a member
      obtain ⟨⟨k, bound⟩, rfl⟩ := List.mem_iff_get.1 member
      have bound' : k < bs.toList.length := by omega
      exact ⟨_, List.get_mem bs.toList ⟨k, bound'⟩, each k bound bound'⟩
    · intro b member
      obtain ⟨⟨k, bound'⟩, rfl⟩ := List.mem_iff_get.1 member
      have bound : k < as.toList.length := by omega
      exact ⟨_, List.get_mem as.toList ⟨k, bound⟩, each k bound bound'⟩
  · rintro ⟨left, right⟩
    exact forall₂_of_ordered same ordered ordered' left right

end Rows

theorem sameDefinitions_iff_forall₂ (a b : Thresholds) : a.sameDefinitions b = true ↔
    List.Forall₂ (fun x y => x.sameDefinition y = true) a.toList b.toList := by
  rw [sameDefinitions, Bool.and_eq_true, decide_eq_true_eq, List.all_eq_true,
    List.forall₂_iff_zip]
  exact and_congr_right fun _ => ⟨fun all x y member => all (x, y) member,
    fun all pair member => all member⟩

section Given

variable {old given : Thresholds} {ts : List Threshold} (defined : ofList ts = .ok given)
  (h : Float)

theorem toList_withDefaultHysteresis (given : Thresholds) :
    (given.withDefaultHysteresis h).toList = given.toList.map (·.filled h) := by
  refine List.map_congr_left fun t _ => ?_
  simp only [Threshold.filled, Threshold.hysteresisOr]
  split <;> rfl

theorem toList_inheritAlarms (clear : ∀ t ∈ given.toList, t.active = false) :
    (old.inheritAlarms (given.withDefaultHysteresis h)).toList = given.toList.map (old.adopt h) := by
  simp only [inheritAlarms]
  rw [toList_withDefaultHysteresis, List.map_map]
  refine List.map_congr_left fun t member => ?_
  simp only [Function.comp_apply, Threshold.filled, adopt, alarm]
  cases old.get? t.slot with
  | some before => rfl
  | none => simp [clear t member]

include defined

/-- **Definitions agree one by one if the list restates them.** -/
theorem sameDefinitions_iff (wf : old.WellFormed) :
    old.sameDefinitions (given.withDefaultHysteresis h) = true ↔ old.Restated h ts := by
  have perm := perm_of_ofList defined
  have restates : ∀ o ∈ old.toList, ∀ t : Threshold,
      o.sameDefinition (t.filled h) = true ↔ t.Restates h o :=
    fun o member t => Threshold.sameDefinition_iff (wf.sound o member) t h
  calc old.sameDefinitions (given.withDefaultHysteresis h) = true
      ↔ List.Forall₂ (fun o t => o.sameDefinition (t.filled h) = true) old.toList
          given.toList := by
        rw [sameDefinitions_iff_forall₂, toList_withDefaultHysteresis, List.forall₂_map_right_iff]
    _ ↔ (∀ o ∈ old.toList, ∃ t ∈ given.toList, o.sameDefinition (t.filled h) = true) ∧
          ∀ t ∈ given.toList, ∃ o ∈ old.toList, o.sameDefinition (t.filled h) = true :=
        forall₂_iff_of_ordered (R := fun o t => o.sameDefinition (t.filled h) = true)
          Threshold.slot_of_sameDefinition wf.ordered (ordered_of_ofList defined)
    _ ↔ old.Restated h ts := by
        rw [Restated, and_comm]
        refine and_congr (forall_congr' fun t => imp_congr perm.mem_iff ?_)
          (forall₂_congr fun o member => exists_congr fun t =>
            and_congr perm.mem_iff (restates o member t))
        exact exists_congr fun o => and_congr_right fun member => restates o member t

/-- The slots that are given up with a raised alarm, in order. -/
theorem abandoned_withDefaultHysteresis (ordered : old.Ordered) :
    (old.abandoned (given.withDefaultHysteresis h)).Pairwise Slot.Precedes ∧
      ∀ slot, slot ∈ old.abandoned (given.withDefaultHysteresis h) ↔
        old.alarm slot = true ∧ ∀ t ∈ ts, t.slot ≠ slot := by
  constructor
  · exact List.pairwise_map.2 (ordered.precedes.sublist List.filter_sublist)
  · intro slot
    rw [mem_abandoned_iff ordered, get?_eq_none_iff, toList_withDefaultHysteresis]
    simp only [List.forall_mem_map, Threshold.filled, (perm_of_ofList defined).mem_iff]

end Given

end Thresholds

/-! ## The answer of a sensor -/

namespace Sensor

/-- The list states what is in force on the sensor already. -/
def Restated (s : Sensor) (ts : List Threshold) : Prop :=
  s.thresholds.Restated s.measurement.triggerBand ts

section Answer

variable {s : Sensor} {ts : List Threshold} {given : Thresholds} (wf : s.WellFormed)
  (defined : Thresholds.ofList ts = .ok given)

include wf defined

/-- What is in force already is not taken again. -/
theorem replaceThresholds_of_restated (restated : s.Restated ts) :
    s.replaceThresholds ts = .ofAct .skip (.changed false) s := by
  have same := (Thresholds.sameDefinitions_iff defined _ wf.thresholds).2 restated
  simp only [replaceThresholds, definitions, defined, Except.map, Thresholds.replace?, same]
  rfl

/-- **A list that is news is taken.** -/
theorem replaceThresholds_of_news (news : ¬ s.Restated ts) :
    let next := given.withDefaultHysteresis s.measurement.triggerBand
    s.replaceThresholds ts = .ofAct
      (.adoptThresholds (s.thresholds.abandoned next) (s.thresholds.inheritAlarms next))
      (.changed true) s := by
  have differ : s.thresholds.sameDefinitions
      (given.withDefaultHysteresis s.measurement.triggerBand) = false := by
    rw [Bool.eq_false_iff]
    exact fun same => news ((Thresholds.sameDefinitions_iff defined _ wf.thresholds).1 same)
  simp only [replaceThresholds, definitions, defined, Except.map, Thresholds.replace?, differ]
  rfl

end Answer

/-- **The answer** tells whether the list defines thresholds and, if so, whether it was news. -/
theorem reply_replaceThresholds_iff {s : Sensor} (wf : s.WellFormed) (ts : List Threshold)
    (b : Bool) : (s.replaceThresholds ts).reply = .changed b ↔
      (∃ given, Thresholds.ofList ts = .ok given) ∧ (b = true ↔ ¬ s.Restated ts) := by
  cases defined : Thresholds.ofList ts with
  | error failure =>
      simp only [replaceThresholds, definitions, defined, Except.map]
      simp [Outcome.refuse]
  | ok given =>
      by_cases restated : s.Restated ts
      · rw [replaceThresholds_of_restated wf defined restated]
        cases b <;> simp [Outcome.ofAct, restated]
      · rw [replaceThresholds_of_news wf defined restated]
        cases b <;> simp [Outcome.ofAct, restated]

end Sensor

/-! ## At a site -/

/-- Announcements reach the bus alone. -/
theorem Site.absorbAll_announce (site : Site) (events : List Event) :
    site.absorbAll (events.map .announce) =
      { site with bus := (site.absorbAll (events.map .announce)).bus } := by
  induction events generalizing site with
  | nil => rfl
  | cons event rest ih => exact ih (site.absorb (.announce event))

/-- What is told of new thresholds: the alarms that are given up, and then all triggers. -/
def Thresholds.redefinition (ts : Thresholds) (path : String) (gone : List Slot) : List Event :=
  gone.map (fun slot => .changed path (.alarm slot.alarmProperty false)) ++
    ts.toList.map fun t => .changed path (.trigger t.slot.triggerProperty t.trigger)

theorem Sensor.Act.adoptThresholds_snd (gone : List Slot) (ts : Thresholds) (s : Sensor) :
    (adoptThresholds gone ts s).2 = (ts.redefinition s.identity.path gone).map .announce := by
  simp [adoptThresholds, publishAll, forget, change, Thresholds.redefinition, Function.comp_def]

/-- No value is told with new thresholds. -/
theorem Thresholds.valueAt?_redefinition (ts : Thresholds) (path other : String)
    (gone : List Slot) : (ts.redefinition path gone).filterMap (Event.valueAt? other) = [] := by
  refine List.filterMap_eq_nil_iff.2 fun event member => ?_
  rcases List.mem_append.1 member with cleared | told
  · obtain ⟨slot, -, rfl⟩ := List.mem_map.1 cleared
    rfl
  · obtain ⟨t, -, rfl⟩ := List.mem_map.1 told
    rfl

namespace Installation

/-- The list is in force instead of the thresholds before.  The new ones are its own, with each
hysteresis filled in and with the alarms that their slots had, and no others.  What is told first
is that the raised alarms of slots given up are cleared, and then all triggers.  The value is
forgotten, though none is shown.  Nothing else changes about the sensor or its site. -/
structure Redefined (now after : Installation) (ts : List Threshold) : Prop where
  definitions : after.sensor.thresholds.toList.Perm
    (ts.map (now.sensor.thresholds.adopt now.sensor.measurement.triggerBand))
  ordered : after.sensor.thresholds.toList.Pairwise fun a b => a.slot.Precedes b.slot
  told : ∃ gone : List Slot, gone.Pairwise Slot.Precedes ∧
    (∀ slot, slot ∈ gone ↔ now.sensor.thresholds.alarm slot = true ∧ ∀ t ∈ ts, t.slot ≠ slot) ∧
    after.site.bus.log.toList = now.site.bus.log.toList ++
      after.sensor.thresholds.redefinition now.sensor.identity.path gone
  sensor : after.sensor = { now.sensor with
    thresholds := after.sensor.thresholds, measurement := now.sensor.measurement.forget }
  site : after.site = { now.site with bus := after.site.bus }
  values : ∀ path, after.site.bus.values path = now.site.bus.values path

section Step

variable {i : Installation} {ts : List Threshold} {given : Thresholds}
  (wf : i.sensor.WellFormed) (defined : Thresholds.ofList ts = .ok given)

include wf defined

theorem step_of_restated (restated : i.sensor.Restated ts) :
    i.step (.perform (.replaceThresholds ts)) = i := by
  change Installation.mk (i.sensor.replaceThresholds ts).sensor
    (i.site.absorbAll (i.sensor.replaceThresholds ts).effects) = i
  rw [Sensor.replaceThresholds_of_restated wf defined restated]
  rfl

/-- **A list that is news is in force instead of the thresholds before.** -/
theorem redefined_of_news (clear : ∀ t ∈ ts, t.active = false) (news : ¬ i.sensor.Restated ts) :
    i.Redefined (i.step (.perform (.replaceThresholds ts))) ts := by
  let next := given.withDefaultHysteresis i.sensor.measurement.triggerBand
  let adopted := i.sensor.thresholds.inheritAlarms next
  let gone := i.sensor.thresholds.abandoned next
  let told := adopted.redefinition i.sensor.identity.path gone
  have stepped : i.step (.perform (.replaceThresholds ts)) =
      ⟨{ i.sensor with thresholds := adopted, measurement := i.sensor.measurement.forget },
        i.site.absorbAll (told.map .announce)⟩ := by
    change Installation.mk (i.sensor.replaceThresholds ts).sensor
      (i.site.absorbAll (i.sensor.replaceThresholds ts).effects) = _
    rw [Sensor.replaceThresholds_of_news wf defined news]
    change Installation.mk _ (i.site.absorbAll (Sensor.Act.adoptThresholds gone adopted i.sensor).2)
      = _
    rw [Sensor.Act.adoptThresholds_snd]
    rfl
  have perm := Thresholds.perm_of_ofList defined
  have log : (i.site.absorbAll (told.map .announce)).bus.log.toList =
      i.site.bus.log.toList ++ told := by
    rw [Site.log_absorbAll]
    simp [Sensor.announced, Sensor.Effect.event?, Function.comp_def]
  obtain ⟨ascending, given_up⟩ := Thresholds.abandoned_withDefaultHysteresis defined
    i.sensor.measurement.triggerBand wf.thresholds.ordered
  rw [stepped]
  refine ⟨?_, ?_, ⟨gone, ascending, given_up, log⟩, rfl, Site.absorbAll_announce _ _, ?_⟩
  · change adopted.toList.Perm _
    rw [Thresholds.toList_inheritAlarms _ fun t member => clear t (perm.mem_iff.1 member)]
    exact perm.map _
  · have sound := Thresholds.wellFormed_of_ofList defined wf.band
    exact (sound.inheritAlarms i.sensor.thresholds).ordered.precedes
  · intro path
    rw [Bus.values_eq, Bus.values_eq, log, List.filterMap_append,
      Thresholds.valueAt?_redefinition, List.append_nil]

end Step

/-- **Thresholds are replaced whole or not at all.**  A sensor that is given a list of thresholds
answers, whatever was done to it before, that there is nothing to do exactly if the list states
what is in force, and then nothing changes and nothing is told.  It answers that there was
something to do exactly if the list defines thresholds and does not state what is in force, and
then the list is in force. -/
theorem thresholds_replaced (site : Site) (d : Definition) (i : Installation)
    (hs : List Happening) (ts : List Threshold) (made : make site d = .ok i)
    (clear : ∀ t ∈ ts, t.active = false) :
    let now := i.run hs
    let after := now.step (.perform (.replaceThresholds ts))
    let reply := (now.sensor.perform now.site.conditions (.replaceThresholds ts)).reply
    let accepted := ∃ given, Thresholds.ofList ts = .ok given
    (reply = .changed false ↔ accepted ∧ now.sensor.Restated ts) ∧
      (reply = .changed false → after = now) ∧
      (reply = .changed true ↔ accepted ∧ ¬ now.sensor.Restated ts) ∧
      (reply = .changed true → now.Redefined after ts) := by
  have start := (make_eq_ok made).1.fresh
  have wf := (run_wellFormed start.wellFormed hs).1
  intro now after reply accepted
  have unchanged : reply = .changed false ↔ accepted ∧ now.sensor.Restated ts := by
    have answer := Sensor.reply_replaceThresholds_iff wf ts false
    simp only [Bool.false_eq_true, false_iff, not_not] at answer
    exact answer
  have changed : reply = .changed true ↔ accepted ∧ ¬ now.sensor.Restated ts := by
    have answer := Sensor.reply_replaceThresholds_iff wf ts true
    simp only [true_iff] at answer
    exact answer
  refine ⟨unchanged, ?_, changed, ?_⟩
  · intro replied
    obtain ⟨⟨given, defined⟩, restated⟩ := unchanged.1 replied
    exact step_of_restated wf defined restated
  · intro replied
    obtain ⟨⟨given, defined⟩, news⟩ := changed.1 replied
    exact redefined_of_news wf defined clear news

/-- The list that the sensor was made with, and one that gives up its only slot, whose alarm is
raised. -/
theorem thresholds_replaced_sample : ∃ i, make .fresh editedDefinition = .ok i ∧
    let now := i.run [.power ⟨true, false⟩, .perform (.feed 96)]
    now.sensor.thresholds.alarm ⟨.warning, .high⟩ = true ∧
      now.sensor.Restated [.ofTrigger ⟨.warning, .high⟩ 80] ∧
      now.step (.perform (.replaceThresholds [.ofTrigger ⟨.warning, .high⟩ 80])) = now ∧
      now.Redefined (now.step (.perform (.replaceThresholds [.ofBand ⟨.critical, .high⟩ 90 2])))
        [.ofBand ⟨.critical, .high⟩ 90 2] := by
  let hs : List Happening := [.power ⟨true, false⟩, .perform (.feed 96)]
  let reply (i : Installation) (t : Threshold) :=
    ((i.run hs).sensor.perform (i.run hs).site.conditions (.replaceThresholds [t])).reply
  have found : (make .fresh editedDefinition).toOption.any (fun i =>
      (i.run hs).sensor.thresholds.alarm ⟨.warning, .high⟩ &&
        reply i (.ofTrigger ⟨.warning, .high⟩ 80) = .changed false &&
        reply i (.ofBand ⟨.critical, .high⟩ 90 2) = .changed true) = true := by
    decide +kernel
  obtain ⟨i, made, found⟩ := exists_made found
  simp only [Bool.and_eq_true, decide_eq_true_eq] at found
  obtain ⟨⟨raised, same⟩, news⟩ := found
  obtain ⟨unchanged, idle, -, -⟩ := thresholds_replaced .fresh editedDefinition i hs
    [.ofTrigger ⟨.warning, .high⟩ 80] made (by decide)
  obtain ⟨-, -, -, redefined⟩ := thresholds_replaced .fresh editedDefinition i hs
    [.ofBand ⟨.critical, .high⟩ 90 2] made (by decide)
  exact ⟨i, made, raised, (unchanged.1 same).2, idle same, redefined news⟩

end Installation

end SensorMonitor
