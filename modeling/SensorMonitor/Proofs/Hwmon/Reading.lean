/-
# Proofs.Hwmon.Reading -- which readings of an attribute file are finite

The text of an attribute file is taken only if it is a finite number, and a source only if
its offset and its scale are finite.  What is made of the three may still be too large for a
finite float (`Source.Fits`); then the value is an infinity, but it is always a number
(`Source.conveys_of_read`).  A sensor that is fed a number is itself again, and the
statistics ask for a finite one (`Sensor.Act.tally_feed`), so that the two agree exactly on
the readings that fit (`Source.good_reads_agree_iff`).
-/
import SensorMonitor.Hwmon.Source
import SensorMonitor.Poll.Task
import SensorMonitor.Proofs.Files
import SensorMonitor.Proofs.Number.Overflow
import SensorMonitor.Proofs.Sensor.Suppression

namespace SensorMonitor.Hwmon

set_option autoImplicit false

open Number (toRat overflow)

namespace Source

/-! ## Reading -/

/-- The raw reading can be shifted and scaled without leaving the finite floats. -/
def Fits (s : Source) (raw : Float) : Prop :=
  |toRat raw + toRat s.offset| < overflow ∧ |toRat (raw + s.offset) * toRat s.scale| < overflow

/-- The reading is a finite number as read and a number in the sensor's units, which is finite
exactly if it fits. -/
structure Conveys (s : Source) (reading : Reading) : Prop where
  raw : reading.raw.isFinite = true
  value : reading.value = s.valueOf reading.raw
  number : reading.value.isNaN = false
  finite : reading.value.isFinite = true ↔ s.Fits reading.raw

section Reads

variable {r : SensorRecord} {s : Source} {files : Files} {reading : Reading}

/-- A source is as the record says, with coefficients that are finite and a scale that is not
zero. -/
theorem ofRecord_eq_ok_iff : ofRecord r = .ok s ↔ ∃ path, r.path = some path ∧
    AttributePath.flaw? path = none ∧ r.scale.isFinite = true ∧ (r.scale == 0) = false ∧
    r.offset.isFinite = true ∧ s = ⟨path, r.offset, r.scale⟩ := by
  unfold ofRecord
  cases r.path with
  | none => simp
  | some path =>
      dsimp only
      cases flawed : AttributePath.flaw? path with
      | some flaw => simp [flawed]
      | none => cases r.scale.isFinite <;> cases r.scale == 0 <;> cases r.offset.isFinite <;>
          simp [flawed, eq_comm]

/-- What is read is the number in the text of the file. -/
theorem read_eq_ok_iff : s.read files = .ok reading ↔ ∃ text,
    files.readText (.ofText s.path) = .ok text ∧ number? text = some reading.raw ∧
    reading.value = s.valueOf reading.raw := by
  obtain ⟨raw, value⟩ := reading
  unfold read
  cases files.readText (.ofText s.path) with
  | error cause => simp
  | ok text =>
      dsimp only
      cases found : number? text with
      | none => simp [found]
      | some raw' =>
          simp only [Except.ok.injEq, Reading.mk.injEq, exists_eq_left', found, Option.some.injEq]
          refine and_congr_right fun same => ?_
          rw [same, eq_comm]

theorem isFinite_of_number? {text : String} {raw : Float} (found : number? text = some raw) :
    raw.isFinite = true := (Option.filter_eq_some_iff.1 found).2

theorem isFinite_valueOf_iff {raw : Float} (finite : raw.isFinite = true)
    (scale : s.scale.isFinite = true) (offset : s.offset.isFinite = true) :
    (s.valueOf raw).isFinite = true ↔ s.Fits raw := by
  rw [valueOf, Number.isFinite_mul_iff, Number.isFinite_add_iff]
  exact ⟨fun all => ⟨all.1.2.2, all.2.2⟩, fun fits => ⟨⟨finite, offset, fits.1⟩, scale, fits.2⟩⟩

/-- **A read of an accepted source** is an error, or a number that is finite if it fits. -/
theorem conveys_of_read (accepted : ofRecord r = .ok s) (read : s.read files = .ok reading) :
    s.Conveys reading := by
  obtain ⟨path, -, -, scale, nonzero, offset, rfl⟩ := ofRecord_eq_ok_iff.1 accepted
  obtain ⟨text, -, found, value⟩ := read_eq_ok_iff.1 read
  have finite := isFinite_of_number? found
  refine ⟨finite, value, ?_, ?_⟩
  · rw [value]
    exact Number.isNaN_mul (Number.isNaN_add finite offset) scale nonzero
  · rw [value]
    exact isFinite_valueOf_iff finite scale offset

end Reads

/-! ## Taking a reading -/

/-- How a sensor counts a reading of the source.  One that listens and is read is itself again,
since the value is a number, and the statistics take it for a good reading only if it fits. -/
structure Booked (s : Source) (reading : Reading) (power : PowerStatus)
    (before after : Sensor) : Prop where
  good : before.overridden = false → before.isReadable power = true →
    after.health = before.recovered
  collected : before.overridden = false → before.isReadable power = true →
    s.Fits reading.raw → after.tally = before.tally.map (·.recordGood reading.value)
  missed : before.overridden = false → before.isReadable power = true →
    ¬ s.Fits reading.raw → after.tally = before.tally.map (·.recordMissed)
  deaf : before.overridden = true → after.health = before.health ∧ after.tally = before.tally
  dark : before.overridden = false → before.isReadable power = false →
    after.health = before.health.setAvailable false ∧ after.tally = before.tally

section Takes

variable {s : Source} {reading : Reading}

theorem Conveys.booked_feed (conveys : s.Conveys reading) (power : PowerStatus) (sensor : Sensor)
    (rest : sensor.internal = false) :
    s.Booked reading power sensor (Sensor.Act.feed power reading.value sensor).1 := by
  have tally : (Sensor.Act.feed power reading.value sensor).1.tally = _ :=
    Sensor.Act.tally_feed reading.value rest
  refine ⟨fun free readable => ?_, fun free readable fits => ?_, fun free readable large => ?_,
    fun overridden => ?_, fun free unreadable => ?_⟩
  · rw [Sensor.Act.health_feed reading.value free rest, readable, conveys.number]
    rfl
  · have good : (Tally.record · reading.value) = (Tally.recordGood · reading.value) := by
      funext tally
      exact if_pos (conveys.finite.2 fits)
    rw [tally, free, readable, ← good]
    rfl
  · have missed : (Tally.record · reading.value) = Tally.recordMissed := by
      funext tally
      exact if_neg (conveys.finite.not.2 large)
    rw [tally, free, readable, missed]
    rfl
  · rw [Sensor.Act.feed_of_overridden reading.value overridden]
    exact ⟨rfl, rfl⟩
  · rw [Sensor.Act.health_feed reading.value free rest, tally, unreadable, Bool.and_false]
    exact ⟨rfl, rfl⟩

/-- A task keeps the raw reading and feeds the value. -/
theorem Conveys.booked (conveys : s.Conveys reading) (power : PowerStatus) (sensor : Sensor)
    (rest : sensor.internal = false) :
    s.Booked reading power sensor ((Poll.Deed.take reading).act power sensor).1 := by
  have fed := conveys.booked_feed power (Sensor.Act.setRaw reading.raw sensor).1 rest
  exact ⟨fed.good, fed.collected, fed.missed, fed.deaf, fed.dark⟩

end Takes

/-- **What is read is a finite number, and what is made of it is a number**, for every record that
is accepted and every content of the files.  The value is finite exactly if it fits, and so the
sensor and its statistics, whatever was done to them before, agree that it is good exactly then. -/
theorem good_reads_agree_iff (r : SensorRecord) (s : Source) (files : Files) (reading : Reading)
    (accepted : ofRecord r = .ok s) (read : s.read files = .ok reading) :
    s.Conveys reading ∧ ∀ site d i hs, Installation.make site d = .ok i →
      s.Booked reading (i.run hs).site.conditions.power (i.run hs).sensor
        ((Poll.Deed.take reading).act (i.run hs).site.conditions.power (i.run hs).sensor).1 := by
  have conveys := conveys_of_read accepted read
  refine ⟨conveys, fun site d i hs made => conveys.booked _ _ ?_⟩
  have defined := (Installation.make_eq_ok made).1
  exact Installation.run_internal defined.start.2.1 hs

/-! ## One attribute file -/

/-- A tree with one attribute file. -/
def attributeFile (text : String) : Files :=
  ((Files.empty.put ["sys"] .directory).put ["sys", "bus"] .directory).put
    ["sys", "bus", "temp1_input"] (.file text.toUTF8)

/-- A record of a sensor that reads the file. -/
def attributeRecord (scale : Float) : SensorRecord :=
  { name := "inlet", model := "TMP75", unit := none, min := none, max := none, thresholds := []
    mutable := false, settable := false, power := .always, pollRate := none, offset := 0
    scale := scale, path := some "/sys/bus/temp1_input", timeout := none, errorLimit := none
    statistics := true }

theorem readText_attributeFile (text : String) :
    (attributeFile text).readText (.ofText "/sys/bus/temp1_input") = .ok text := by
  have pieces : Files.Path.ofText "/sys/bus/temp1_input" = ⟨["", "sys", "bus", "temp1_input"]⟩ :=
    congrArg Files.Path.mk (String.toList_split_intercalate (c := '/')
      (l := ["", "sys", "bus", "temp1_input"]) (by decide))
  have flawless : Files.Path.flaw? ⟨["", "sys", "bus", "temp1_input"]⟩ = none := by
    unfold Files.Path.flaw?
    rw [String.contains_char_eq]
    decide +kernel
  have steps : Files.Path.steps ⟨["", "sys", "bus", "temp1_input"]⟩ =
      ["sys", "bus", "temp1_input"] := by
    decide +kernel
  have ends : Files.Path.ending ⟨["", "sys", "bus", "temp1_input"]⟩ = .name := by decide +kernel
  have stands : (attributeFile text).node? ["sys", "bus", "temp1_input"] =
      some (.file text.toUTF8) := Files.node?_put_self (by simp) _
  have walked : ["sys", "bus"].foldlM (attributeFile text).enter [] = .ok ["sys", "bus"] := by
    rfl
  have located : (attributeFile text).locate ⟨["", "sys", "bus", "temp1_input"]⟩ =
      .ok ["sys", "bus", "temp1_input"] := by
    refine Files.locate_eq_ok_iff.2 ⟨flawless, ["sys", "bus"], ?_, ?_⟩
    · rw [steps]
      exact walked
    · rw [steps, ends]
      exact Files.entry_eq_ok_iff.2 ⟨show "temp1_input".utf8ByteSize ≤ _ by decide, rfl⟩
  rw [pieces]
  exact Files.readText_of_read (Files.read_eq_ok_iff.2 ⟨ends, _, located, stands⟩)

theorem read_attributeFile (s : Source) (text : String) {raw : Float}
    (path : s.path = "/sys/bus/temp1_input") (found : number? text = some raw) :
    s.read (attributeFile text) = .ok ⟨raw, s.valueOf raw⟩ :=
  read_eq_ok_iff.2 ⟨text, by rw [path]; exact readText_attributeFile text, found, rfl⟩

/-- A sensor with statistics, which it has power for. -/
def tallied : Definition :=
  { Installation.editedDefinition with power := .always, statistics := true }

theorem good_reads_agree_iff_sample : ∃ s reading i,
    ofRecord (attributeRecord 0.001) = .ok s ∧ s.read (attributeFile "45000\n") = .ok reading ∧
    Installation.make .fresh tallied = .ok i ∧ reading.value = 45 ∧ s.Fits reading.raw ∧
    ((Poll.Deed.take reading).act i.site.conditions.power i.sensor).1.tally =
      some (Tally.empty.recordGood 45) := by
  have accepted : ofRecord (attributeRecord 0.001) = .ok ⟨"/sys/bus/temp1_input", 0, 0.001⟩ := by
    decide +kernel
  have read := read_attributeFile ⟨"/sys/bus/temp1_input", 0, 0.001⟩ "45000\n" rfl
    (show number? "45000\n" = some 45000 by decide +kernel)
  have value : valueOf ⟨"/sys/bus/temp1_input", 0, 0.001⟩ 45000 = 45 := by decide +kernel
  have found : (Installation.make .fresh tallied).toOption.any (fun i =>
      !i.sensor.overridden && i.sensor.isReadable i.site.conditions.power &&
        decide (i.sensor.tally = some .empty)) = true := by
    decide +kernel
  obtain ⟨i, made, found⟩ := Installation.exists_made found
  simp only [Bool.and_eq_true, Bool.not_eq_true', decide_eq_true_eq] at found
  obtain ⟨⟨free, readable⟩, tally⟩ := found
  obtain ⟨conveys, books⟩ := good_reads_agree_iff _ _ _ _ accepted read
  have fits := conveys.finite.1 (by rw [value]; decide)
  refine ⟨_, _, i, accepted, read, made, value, fits, ?_⟩
  refine ((books .fresh tallied i [] made).collected free readable fits).trans ?_
  rw [value]
  change i.sensor.tally.map _ = _
  rw [tally]
  rfl

/-- A finite number in the file, a tenfold of it that is not, and a sensor that had missed a read:
to its health the reading is good, and to its statistics it is missed. -/
theorem large_read_is_infinite : ∃ s reading i,
    ofRecord (attributeRecord 10) = .ok s ∧ s.read (attributeFile "1e308\n") = .ok reading ∧
    reading = ⟨1e308, Number.infinity⟩ ∧ Installation.make .fresh tallied = .ok i ∧
    (i.run [.perform .countError]).sensor.health.errors = 1 ∧
    ((Poll.Deed.take reading).act i.site.conditions.power
      (i.run [.perform .countError]).sensor).1.health.errors = 0 ∧
    ((Poll.Deed.take reading).act i.site.conditions.power
      (i.run [.perform .countError]).sensor).1.tally = some Tally.empty.recordMissed := by
  have accepted : ofRecord (attributeRecord 10) = .ok ⟨"/sys/bus/temp1_input", 0, 10⟩ := by
    decide +kernel
  have read := read_attributeFile ⟨"/sys/bus/temp1_input", 0, 10⟩ "1e308\n" rfl
    (show number? "1e308\n" = some 1e308 by decide +kernel)
  have value : valueOf ⟨"/sys/bus/temp1_input", 0, 10⟩ 1e308 = Number.infinity := by decide +kernel
  rw [value] at read
  have found : (Installation.make .fresh tallied).toOption.any (fun i =>
      let missed := (i.run [.perform .countError]).sensor
      let taken := ((Poll.Deed.take ⟨1e308, Number.infinity⟩).act i.site.conditions.power missed).1
      decide (missed.health.errors = 1) && decide (taken.health.errors = 0) &&
        decide (taken.tally = some Tally.empty.recordMissed)) = true := by
    decide +kernel
  obtain ⟨i, made, found⟩ := Installation.exists_made found
  simp only [Bool.and_eq_true, decide_eq_true_eq] at found
  obtain ⟨⟨before, after⟩, tally⟩ := found
  exact ⟨_, _, i, accepted, read, rfl, made, before, after, tally⟩

end Source

end SensorMonitor.Hwmon
