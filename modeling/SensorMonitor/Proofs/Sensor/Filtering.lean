/-
# Proofs.Sensor.Filtering -- the published values are a sieve of the readings

A sieve of a band takes the first reading, every loss and whatever follows a loss, and
else what is farther than the band from the reading that it took last (`Sieve.taken`).
Each reading is compared with the last one taken and not with the last one seen, so that
a value cannot drift away in small steps.

A sensor that is only fed, and has power whenever it is, publishes of its readings what
the sieve of its publish band takes, and holds what was published last
(`Installation.sieved_run`).  So what is published changes every time
(`Sieve.isChain_taken`), and no number leaves the value farther away than the band
(`Installation.near_of_feed`).
-/
import SensorMonitor.Proofs.Sensor.Suppression

namespace SensorMonitor

set_option autoImplicit false

/-! ## The sieve -/

namespace Sieve

/-- The reading is taken after the one that was taken last, if there was any. -/
def takes (band : Float) (last : Option Float) (x : Float) : Bool :=
  match last with
  | none => true
  | some p => p.isNaN || x.isNaN || band < (p - x).abs

/-- The readings that are taken after the one that was taken last. -/
def taken (band : Float) : Option Float → List Float → List Float
  | _, [] => []
  | last, x :: xs =>
      if takes band last x then x :: taken band (some x) xs else taken band last xs

variable {band : Float}

theorem taken_sublist (last : Option Float) (xs : List Float) :
    (taken band last xs).Sublist xs := by
  induction xs generalizing last with
  | nil => exact List.Sublist.slnil
  | cons x xs ih =>
      simp only [taken]
      split
      · exact (ih (some x)).cons_cons x
      · exact (ih last).cons x

/-- What is taken after a reading differs from it, or one of the two is a loss. -/
theorem beq_of_takes (nonneg : 0 ≤ band) {p x : Float} (takes : takes band (some p) x = true) :
    (p == x) = false := by
  by_contra same
  obtain ⟨number, number', place⟩ := (Number.beq_iff p x).1 (Bool.eq_true_of_not_eq_false same)
  have near := Number.not_lt_abs_sub nonneg (number.trans number'.symm) place
  simp only [Sieve.takes, number, number', near] at takes
  cases takes

/-- **No number is taken twice in a row.** -/
theorem isChain_taken (nonneg : 0 ≤ band) (last : Option Float) (xs : List Float) :
    (last.toList ++ taken band last xs).IsChain fun p x => (p == x) = false := by
  induction xs generalizing last with
  | nil =>
      cases last with
      | none => exact List.isChain_nil
      | some p => exact List.isChain_singleton p
  | cons x xs ih =>
      simp only [taken]
      split
      · next takes =>
          cases last with
          | none => exact ih (some x)
          | some p => exact List.isChain_cons_cons.2 ⟨beq_of_takes nonneg takes, ih (some x)⟩
      · exact ih last

/-- The publish filter takes what the sieve takes, as long as the value is what was taken last. -/
theorem takes_eq_admits {m : Measurement} {last : Option Float}
    (held : last.getD Number.nan = m.value) (x : Float) :
    takes m.publishBand last x = m.admits x := by
  cases last with
  | none =>
      have lost : m.value.isNaN = true := by
        rw [← held]
        exact Number.isNaN_nan
      simp only [takes, Measurement.admits, Measurement.isNews]
      rw [lost]
      rfl
  | some p =>
      change p = m.value at held
      subst held
      rfl

end Sieve

/-! ## Streams -/

/-- The operation is not a reading, or it is one without power. -/
def Sensor.Op.deviates (c : Conditions) (s : Sensor) : Sensor.Op → Bool
  | .feed _ => !s.isReadable c.power
  | _ => true

/-- The reading that a happening brings. -/
def Happening.reading? : Happening → Option Float
  | .perform (.feed x) => some x
  | _ => none

/-- The readings among happenings, in order. -/
def readings (hs : List Happening) : List Float := hs.filterMap Happening.reading?

namespace Installation

variable {i : Installation} {hs : List Happening}

/-- The sensor takes readings: there is no override, and the flag is down. -/
structure Free (i : Installation) : Prop where
  overridden : i.sensor.overridden = false
  internal : i.sensor.internal = false

/-- Power and access change at will, and all else is a reading with power. -/
theorem free_step (free : i.Free) {h : Happening} (fed : i.isOf Sensor.Op.deviates h = false) :
    (i.step h).Free := by
  cases h with
  | power status | access access => exact ⟨free.overridden, free.internal⟩
  | perform op =>
      cases op with
      | feed x =>
          obtain ⟨internal, overridden⟩ :=
            Sensor.Act.controlled_feed i.site.conditions.power x free.internal
          exact ⟨overridden.trans free.overridden, internal⟩
      | _ => cases fed

/-- **A reading with power** is told as a value if it is news, and then is the value. -/
theorem feed_step (free : i.Free) {x : Float}
    (readable : i.sensor.isReadable i.site.conditions.power = true) :
    (i.tells [.perform (.feed x)]).filter Event.isValue =
        (if i.sensor.measurement.admits x then [.changed i.sensor.identity.path (.value x)]
          else []) ∧
      (i.step (.perform (.feed x))).sensor.value =
        if i.sensor.measurement.admits x then x else i.sensor.value := by
  constructor
  · rw [tells_perform, ← Sensor.announced_shown]
    change Sensor.announced (Sensor.shown (Sensor.Act.feed _ x i.sensor).2) = _
    rw [Sensor.Act.shown_feed_of_readable x free.overridden free.internal readable]
    split
    · exact Follower.announced_store x i.sensor
    · rfl
  · exact (Sensor.Act.feed_readable x free.overridden readable).1

/-- A stream after the reading `last` was taken: its value events are what the sieve takes of the
readings, the value is the one taken last, and the sensor goes on taking readings. -/
structure Sieved (i : Installation) (last : Option Float) (hs : List Happening) : Prop where
  events : (i.tells hs).filter Event.isValue =
    (Sieve.taken i.sensor.measurement.publishBand last (readings hs)).map
      fun x => .changed i.sensor.identity.path (.value x)
  value : (i.run hs).sensor.value =
    (Sieve.taken i.sensor.measurement.publishBand last (readings hs)).getLast?.getD i.sensor.value
  free : (i.run hs).Free

/-- What brings no reading may come ahead of a stream. -/
theorem Sieved.aside {h : Happening} {last : Option Float} (nothing : i.tells [h] = [])
    (unread : h.reading? = none) (same : (i.step h).sensor = i.sensor)
    (rest : (i.step h).Sieved last hs) : i.Sieved last (h :: hs) := by
  obtain ⟨events, value, onward⟩ := rest
  rw [same] at events value
  have told : i.tells (h :: hs) = i.tells [h] ++ (i.step h).tells hs := i.tells_append [h] hs
  have read : readings (h :: hs) = readings hs := List.filterMap_cons_none unread
  refine ⟨?_, ?_, onward⟩
  · rw [told, nothing, read]
    exact events
  · rw [read]
    exact value

/-- A reading ahead of a stream. -/
theorem Sieved.feed (free : i.Free) {x : Float} {last : Option Float}
    (readable : i.sensor.isReadable i.site.conditions.power = true)
    (held : last.getD Number.nan = i.sensor.value)
    (rest : ∀ last : Option Float,
      last.getD Number.nan = (i.step (.perform (.feed x))).sensor.value →
        (i.step (.perform (.feed x))).Sieved last hs) :
    i.Sieved last (.perform (.feed x) :: hs) := by
  obtain ⟨event, value⟩ := feed_step free (x := x) readable
  have band : (i.step (.perform (.feed x))).sensor.measurement.publishBand =
      i.sensor.measurement.publishBand := i.run_publishBand [.perform (.feed x)]
  have identity : (i.step (.perform (.feed x))).sensor.identity = i.sensor.identity :=
    i.run_identity [.perform (.feed x)]
  have told : i.tells (.perform (.feed x) :: hs) =
      i.tells [.perform (.feed x)] ++ (i.step (.perform (.feed x))).tells hs :=
    i.tells_append [.perform (.feed x)] hs
  have taken : Sieve.taken i.sensor.measurement.publishBand last
      (readings (.perform (.feed x) :: hs)) = if i.sensor.measurement.admits x
        then x :: Sieve.taken i.sensor.measurement.publishBand (some x) (readings hs)
        else Sieve.taken i.sensor.measurement.publishBand last (readings hs) := by
    rw [← Sieve.takes_eq_admits held x]
    rfl
  cases admitted : i.sensor.measurement.admits x with
  | true =>
      rw [admitted, if_pos rfl] at event value taken
      obtain ⟨events, later, onward⟩ := rest (some x) value.symm
      rw [band] at events later
      rw [identity] at events
      refine ⟨?_, ?_, onward⟩
      · rw [told, List.filter_append, event, events, taken]
        rfl
      · rw [taken, List.getLast?_cons]
        exact later.trans (by rw [value]; rfl)
  | false =>
      rw [admitted, if_neg (by decide)] at event value taken
      obtain ⟨events, later, onward⟩ := rest last (held.trans value.symm)
      rw [band] at events later
      rw [identity] at events
      refine ⟨?_, ?_, onward⟩
      · rw [told, List.filter_append, event, events, taken]
        rfl
      · rw [taken]
        exact later.trans (by rw [value])

/-- **A sensor that is only fed publishes what the sieve takes.** -/
theorem sieved_run (free : i.Free) (fed : i.sees Sensor.Op.deviates hs = false)
    (last : Option Float) (held : last.getD Number.nan = i.sensor.value) : i.Sieved last hs := by
  induction hs generalizing i last with
  | nil => exact ⟨by rw [tells_nil]; rfl, rfl, free⟩
  | cons h hs ih =>
      obtain ⟨here, later⟩ := Bool.or_eq_false_iff.1 fed
      have next := free_step free here
      cases h with
      | power status => exact .aside (i.tells_power status) rfl rfl (ih next later last held)
      | access access => exact .aside (i.tells_access access) rfl rfl (ih next later last held)
      | perform op =>
          cases op with
          | feed x =>
              have readable : i.sensor.isReadable i.site.conditions.power = true := by
                simpa [isOf, Sensor.Op.deviates] using here
              exact .feed free readable held (ih next later)
          | _ => cases here

/-- Right after a number was read, the value is a number within the band of it. -/
theorem near_of_feed (free : i.Free) {x : Float}
    (readable : i.sensor.isReadable i.site.conditions.power = true) (number : x.isNaN = false)
    (nonneg : 0 ≤ i.sensor.measurement.publishBand) :
    (i.step (.perform (.feed x))).sensor.value.isNaN = false ∧
      ¬ i.sensor.measurement.publishBand < ((i.step (.perform (.feed x))).sensor.value - x).abs := by
  have suppressed := Sensor.Act.admits_fed free.overridden readable number nonneg
  have band : (i.step (.perform (.feed x))).sensor.measurement.publishBand =
      i.sensor.measurement.publishBand := i.run_publishBand [.perform (.feed x)]
  change (i.step (.perform (.feed x))).sensor.measurement.admits x = false at suppressed
  refine ⟨(Sensor.numbers_of_not_admits suppressed).1, ?_⟩
  simp only [Measurement.admits, Measurement.isNews, Bool.or_eq_false_iff,
    decide_eq_false_iff_not] at suppressed
  rw [band] at suppressed
  exact suppressed.2

/-- **What a sensor publishes of a stream is the sieve of its readings.**  Of a new sensor that is
only fed, and has power whenever it is: the value events are the readings that the sieve of its
band takes, no number is published twice in a row, the value is the one published last, and after
every reading that is a number it is within the band of that reading. -/
theorem stream_is_sieved (site : Site) (d : Definition) (i : Installation) (hs : List Happening)
    (made : make site d = .ok i) (fed : i.sees Sensor.Op.deviates hs = false) :
    let band := (Measurement.ofRange d.min d.max).publishBand
    let published := Sieve.taken band none (readings hs)
    (i.tells hs).filter Event.isValue =
        published.map (fun x => .changed i.sensor.identity.path (.value x)) ∧
      published.Sublist (readings hs) ∧
      published.IsChain (fun p x => (p == x) = false) ∧
      (i.run hs).sensor.value = published.getLast?.getD Number.nan ∧
      ∀ before x after, hs = before ++ .perform (.feed x) :: after → x.isNaN = false →
        let p := (i.run (before ++ [.perform (.feed x)])).sensor.value
        p.isNaN = false ∧ ¬ band < (p - x).abs := by
  have defined := (make_eq_ok made).1
  obtain ⟨quantity, thresholds, described⟩ := defined.described
  have start : i.Free := ⟨described.control.1, described.control.2.1⟩
  have lost : i.sensor.value = Number.nan := defined.fresh.value
  have nonneg := defined.publishBand_nonneg
  intro band published
  have drawn : i.sensor.measurement.publishBand = band := by rw [described.measurement]
  obtain ⟨events, value, -⟩ := sieved_run start fed none lost.symm
  rw [drawn] at events value nonneg
  refine ⟨events, Sieve.taken_sublist none _, Sieve.isChain_taken nonneg none _, ?_, ?_⟩
  · rw [value, lost]
  · rintro before x after rfl number
    rw [sees_append, Bool.or_eq_false_iff] at fed
    obtain ⟨earlier, later⟩ := fed
    have free := (sieved_run start earlier none lost.symm).free
    have readable : (i.run before).sensor.isReadable (i.run before).site.conditions.power =
        true := by
      simpa [isOf, Sensor.Op.deviates] using (Bool.or_eq_false_iff.1 later).1
    have near := near_of_feed free readable number (by rwa [run_publishBand, drawn])
    rw [run_publishBand, drawn] at near
    rw [run_append]
    exact near

/-- Small steps add up to an event, and a loss, infinities and a moment without power come by. -/
def streamSample : List Happening :=
  [.power ⟨true, false⟩, .perform (.feed 42), .perform (.feed 42.006), .perform (.feed 42.012),
    .power .off, .power ⟨true, true⟩, .perform (.feed Number.nan), .perform (.feed 42.012),
    .perform (.feed Number.infinity), .perform (.feed Number.infinity), .perform (.feed 42)]

theorem stream_is_sieved_sample : ∃ i, make .fresh editedDefinition = .ok i ∧
    i.sees Sensor.Op.deviates streamSample = false ∧
    (i.tells streamSample).filter Event.isValue =
      [42, 42.012, Number.nan, 42.012, Number.infinity, 42].map
        (fun x => .changed i.sensor.identity.path (.value x)) ∧
    ¬ (Measurement.ofRange 0 100).publishBand <
      ((i.run (streamSample.take 3)).sensor.value - 42.006).abs := by
  have found : (make .fresh editedDefinition).toOption.any (fun i =>
      !i.sees Sensor.Op.deviates streamSample) = true := by
    decide +kernel
  obtain ⟨i, made, found⟩ := exists_made found
  have fed : i.sees Sensor.Op.deviates streamSample = false := by simpa using found
  obtain ⟨events, -, -, -, near⟩ := stream_is_sieved .fresh editedDefinition i streamSample made fed
  have taken : Sieve.taken (Measurement.ofRange 0 100).publishBand none (readings streamSample) =
      [42, 42.012, Number.nan, 42.012, Number.infinity, 42] := by
    decide +kernel
  refine ⟨i, made, fed, ?_, ?_⟩
  · rw [← taken]
    exact events
  · exact (near (streamSample.take 2) 42.006 (streamSample.drop 3) rfl (by decide)).2

end Installation

end SensorMonitor
