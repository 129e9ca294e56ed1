/-
# Proofs.Record.Text -- a record that was read is written as what it is

A text may spell a record in many ways.  Whatever it says, the numbers of the record are then
within their bounds and its floats are finite (`SensorRecord.writable_of_decode?`), and such a
record is read as it was written (`SensorRecord.ofText?_toText`).  So a record that was read
and written is the same record when it is read again (`records_are_kept`).
-/
import SensorMonitor.Proofs.Json.Floats
import SensorMonitor.Proofs.Json.Records
import SensorMonitor.Record.Codec

namespace SensorMonitor

set_option autoImplicit false

open Json (Source Fields Legible)

/-! ## Thresholds -/

namespace ThresholdRecord

/-- The floats of the threshold. -/
def floats (r : ThresholdRecord) : List Float := r.value :: r.hysteresis.toList

/-- The severity is one that can be read. -/
def Writable (r : ThresholdRecord) : Prop := r.severity ≤ Json.largestSignificand

theorem legible_encode (r : ThresholdRecord) : Legible r.encode := by
  refine Json.legible_ofMembers (List.forall_mem_append.2 ⟨List.forall_mem_append.2 ⟨?_, ?_⟩, ?_⟩)
  · exact Json.legible_optionalMember fun s _ => .string s
  · simp
  · exact Json.legible_optionalMember fun x _ => Json.legible_float x

/-- The members of the threshold. -/
def members (r : ThresholdRecord) : List (String × Json) :=
  Json.optionalMember "Name" Json.text r.name
    ++ [("Severity", Json.nat r.severity), ("Direction", Json.text r.direction),
      ("Value", Json.float r.value)]
    ++ Json.optionalMember "Hysteresis" Json.float r.hysteresis

theorem fields_encode (r : ThresholdRecord) :
    Fields.of? fieldNames r.encode = some ⟨false, r.members⟩ := by
  have within : Json.Within r.members fieldNames := (Json.Within.refl []).optional.append.optional
  exact (Fields.of?_ofMembers _ r.members).trans
    (Fields.ofMembers?_of_within (by decide) within)

/-- A threshold that can be read is read as it was written. -/
theorem decode?_encode {r : ThresholdRecord} (writable : r.Writable)
    (rereads : ∀ x ∈ r.floats, Json.reread? x = some x) : decode? r.encode = some r := by
  obtain ⟨value, hysteresis⟩ := List.forall_mem_cons.1 rereads
  have name : Fields.optional ⟨false, r.members⟩ "Name" Json.text? = some r.name :=
    Fields.optional_of_lookup Json.text (by simp [members, List.lookup_append, List.lookup_cons])
      rfl fun _ _ => rfl
  have hysteresis : Fields.optional ⟨false, r.members⟩ "Hysteresis" Json.float? =
      some r.hysteresis :=
    Fields.optional_of_lookup Json.float (by simp [members, List.lookup_append, List.lookup_cons])
      rfl fun x here => hysteresis x (Option.mem_toList.2 here)
  unfold decode?
  rw [fields_encode, Option.bind_eq_bind, Option.bind_some, name, hysteresis]
  simp [Fields.required, members, List.lookup_append, List.lookup_cons, value,
    Json.natUpTo?_nat writable (Nat.le_refl _)]

/-- Only what can be written is read, and its floats are finite. -/
theorem writable_of_decode? {j : Json} {r : ThresholdRecord} (read : decode? j = some r) :
    r.Writable ∧ ∀ x ∈ r.floats, x.isFinite = true := by
  unfold decode? at read
  obtain ⟨fields, -, read⟩ := Option.bind_eq_some_iff.1 read
  obtain ⟨name, -, read⟩ := Option.bind_eq_some_iff.1 read
  obtain ⟨severity, found, read⟩ := Option.bind_eq_some_iff.1 read
  obtain ⟨direction, -, read⟩ := Option.bind_eq_some_iff.1 read
  obtain ⟨value, trigger, read⟩ := Option.bind_eq_some_iff.1 read
  obtain ⟨hysteresis, band, read⟩ := Option.bind_eq_some_iff.1 read
  cases read
  have largest : severity ≤ Json.largestSignificand :=
    Fields.of_required (P := (· ≤ _)) Json.le_of_natUpTo? found
  have finite : value.isFinite = true :=
    Fields.of_required (P := (Float.isFinite · = true)) Json.isFinite_of_float? trigger
  have finite' := Fields.of_optional Json.isFinite_of_float? band
  exact ⟨largest, List.forall_mem_cons.2 ⟨finite, fun x member =>
    finite' x (Option.mem_toList.1 member)⟩⟩

end ThresholdRecord

/-! ## Records -/

namespace SensorRecord

/-- The floats of the record. -/
def floats (r : SensorRecord) : List Float :=
  r.offset :: r.scale :: r.min.toList ++ r.max.toList ++ r.pollRate.toList ++ r.timeout.toList
    ++ r.thresholds.flatMap ThresholdRecord.floats

/-- The numbers of the record are numbers that can be read. -/
structure Writable (r : SensorRecord) : Prop where
  thresholds : ∀ t ∈ r.thresholds, t.Writable
  errorLimit : ∀ n ∈ r.errorLimit, n ≤ Json.largestSignificand

/-- The members of the record. -/
def members (r : SensorRecord) : List (String × Json) :=
  [("Name", Json.text r.name), ("Type", Json.text r.model)]
    ++ Json.optionalMember "Units" Json.text r.unit
    ++ Json.optionalMember "MinReading" Json.float r.min
    ++ Json.optionalMember "MaxReading" Json.float r.max
    ++ [("Thresholds", Json.array (r.thresholds.map ThresholdRecord.encode)),
      ("Mutable", Json.bool r.mutable), ("Settable", Json.bool r.settable),
      ("PowerState", Json.text r.power.name)]
    ++ Json.optionalMember "PollRate" Json.float r.pollRate
    ++ [("Offset", Json.float r.offset), ("Scale", Json.float r.scale)]
    ++ Json.optionalMember "Path" Json.text r.path
    ++ Json.optionalMember "Timeout" Json.float r.timeout
    ++ Json.optionalMember "ErrorThreshold" Json.nat r.errorLimit
    ++ [("Instrumentation", Json.bool r.statistics)]

theorem fields_encode (r : SensorRecord) :
    Fields.of? fieldNames r.encode = some ⟨false, r.members⟩ := by
  have within : Json.Within r.members fieldNames :=
    (Json.Within.refl _).optional.optional.optional.append.optional.append.optional.optional
      |>.optional.append
  exact (Fields.of?_ofMembers _ r.members).trans
    (Fields.ofMembers?_of_within (by decide +kernel) within)

theorem legible_encode (r : SensorRecord) : Legible r.encode := by
  have thresholds : Legible (.array (r.thresholds.map ThresholdRecord.encode)) :=
    .array (List.forall_mem_map.2 fun t _ => t.legible_encode)
  have text {key : String} {o : Option String} :
      ∀ m ∈ Json.optionalMember key .text o, Legible m.2 :=
    Json.legible_optionalMember fun s _ => .string s
  have float {key : String} {o : Option Float} :
      ∀ m ∈ Json.optionalMember key .float o, Legible m.2 :=
    Json.legible_optionalMember fun x _ => Json.legible_float x
  have nat {key : String} {o : Option Nat} :
      ∀ m ∈ Json.optionalMember key .nat o, Legible m.2 :=
    Json.legible_optionalMember fun n _ => Json.legible_natural n
  have all : ∀ m ∈ r.members, Legible m.2 := by
    unfold members
    simp only [List.forall_mem_append]
    refine ⟨⟨⟨⟨⟨⟨⟨⟨⟨⟨?_, text⟩, float⟩, float⟩, ?_⟩, float⟩, ?_⟩, text⟩, float⟩, nat⟩, ?_⟩ <;>
      simp [thresholds]
  exact Json.legible_ofMembers all

/-- A record that can be read is read as it was written. -/
theorem decode?_encode (source : Source) {r : SensorRecord} (writable : r.Writable)
    (rereads : ∀ x ∈ r.floats, Json.reread? x = some x) : decode? source r.encode = some r := by
  have text (name : String) (o : Option String) (found : r.members.lookup name = o.map .text) :
      Fields.optional ⟨false, r.members⟩ name Json.text? = some o :=
    Fields.optional_of_lookup Json.text found rfl fun _ _ => rfl
  have float (name : String) (o : Option Float) (found : r.members.lookup name = o.map .float)
      (listed : ∀ x ∈ o, x ∈ r.floats) :
      Fields.optional ⟨false, r.members⟩ name Json.float? = some o :=
    Fields.optional_of_lookup Json.float found rfl fun x here => rereads x (listed x here)
  have unit := text "Units" r.unit (by simp [members, List.lookup_append, List.lookup_cons])
  have path := text "Path" r.path (by simp [members, List.lookup_append, List.lookup_cons])
  have min := float "MinReading" r.min
    (by simp [members, List.lookup_append, List.lookup_cons]) (by simp +contextual [floats])
  have max := float "MaxReading" r.max
    (by simp [members, List.lookup_append, List.lookup_cons]) (by simp +contextual [floats])
  have pollRate := float "PollRate" r.pollRate
    (by simp [members, List.lookup_append, List.lookup_cons]) (by simp +contextual [floats])
  have timeout := float "Timeout" r.timeout
    (by simp [members, List.lookup_append, List.lookup_cons]) (by simp +contextual [floats])
  have errorLimit : Fields.optional ⟨false, r.members⟩ "ErrorThreshold"
      (Json.natUpTo? Json.largestSignificand) = some r.errorLimit :=
    Fields.optional_of_lookup Json.nat (by simp [members, List.lookup_append, List.lookup_cons])
      rfl fun n here => Json.natUpTo?_nat (writable.errorLimit n here) (Nat.le_refl _)
  have thresholds : decodeThresholds? (.array (r.thresholds.map ThresholdRecord.encode)) =
      some r.thresholds := by
    show (r.thresholds.map ThresholdRecord.encode).mapM ThresholdRecord.decode? = _
    rw [List.mapM_map]
    exact mapM_eq_some_self fun t member =>
      ThresholdRecord.decode?_encode (writable.thresholds t member) fun x here =>
        rereads x (List.mem_append_right _ (List.mem_flatMap.2 ⟨t, member, here⟩))
  have offset : Json.reread? r.offset = some r.offset := rereads _ (by simp [floats])
  have scale : Json.reread? r.scale = some r.scale := rereads _ (by simp [floats])
  unfold decode?
  rw [fields_encode, Option.bind_eq_bind, Option.bind_some, unit, path, min, max, pollRate, timeout,
    errorLimit]
  simp [Fields.required, Fields.defaulted, members, List.lookup_append, List.lookup_cons,
    thresholds, offset, scale, decodePower?, PowerNeed.ofName?_name]

/-- **The text of a record that can be read is read as the record.** -/
theorem ofText?_toText {r : SensorRecord} (writable : r.Writable)
    (rereads : ∀ x ∈ r.floats, Json.reread? x = some x) : ofText? r.toText = some r := by
  unfold ofText? toText
  rw [Json.parse?_compact r.legible_encode, Option.bind_some]
  exact decode?_encode (.text 0) writable rereads

/-- **Only what can be written is read, and its floats are finite.** -/
theorem writable_of_decode? {source : Source} {j : Json} {r : SensorRecord}
    (read : decode? source j = some r) : r.Writable ∧ ∀ x ∈ r.floats, x.isFinite = true := by
  unfold decode? at read
  obtain ⟨fields, -, read⟩ := Option.bind_eq_some_iff.1 read
  obtain ⟨name, -, read⟩ := Option.bind_eq_some_iff.1 read
  obtain ⟨model, -, read⟩ := Option.bind_eq_some_iff.1 read
  obtain ⟨unit, -, read⟩ := Option.bind_eq_some_iff.1 read
  obtain ⟨min, min_, read⟩ := Option.bind_eq_some_iff.1 read
  obtain ⟨max, max_, read⟩ := Option.bind_eq_some_iff.1 read
  obtain ⟨thresholds, thresholds_, read⟩ := Option.bind_eq_some_iff.1 read
  obtain ⟨mutable, -, read⟩ := Option.bind_eq_some_iff.1 read
  obtain ⟨settable, -, read⟩ := Option.bind_eq_some_iff.1 read
  obtain ⟨power, -, read⟩ := Option.bind_eq_some_iff.1 read
  obtain ⟨pollRate, pollRate_, read⟩ := Option.bind_eq_some_iff.1 read
  obtain ⟨offset, offset_, read⟩ := Option.bind_eq_some_iff.1 read
  obtain ⟨scale, scale_, read⟩ := Option.bind_eq_some_iff.1 read
  obtain ⟨path, -, read⟩ := Option.bind_eq_some_iff.1 read
  obtain ⟨timeout, timeout_, read⟩ := Option.bind_eq_some_iff.1 read
  obtain ⟨errorLimit, errorLimit_, read⟩ := Option.bind_eq_some_iff.1 read
  obtain ⟨statistics, -, read⟩ := Option.bind_eq_some_iff.1 read
  cases read
  -- every threshold was read on its own, or there is none
  have each : ∀ t ∈ thresholds, t.Writable ∧ ∀ x ∈ t.floats, x.isFinite = true := by
    refine Fields.of_defaulted
      (P := fun all => ∀ t ∈ all, ThresholdRecord.Writable t ∧ ∀ x ∈ t.floats, x.isFinite = true)
      (by simp) (fun {j all} read t member => ?_) thresholds_
    obtain ⟨items, -, read⟩ := Option.bind_eq_some_iff.1 read
    obtain ⟨item, -, here⟩ := exists_of_forall₂ (forall₂_of_mapM_eq_some read) member
    exact ThresholdRecord.writable_of_decode? here
  have usual {name : String} {default x : Float} (finite : default.isFinite = true)
      (found : fields.defaulted name default Json.float? = some x) : x.isFinite = true :=
    Fields.of_defaulted (P := (Float.isFinite · = true)) finite Json.isFinite_of_float? found
  have optional {name : String} {o : Option Float}
      (found : fields.optional name Json.float? = some o) : ∀ x ∈ o.toList, x.isFinite = true :=
    fun x member => Fields.of_optional (P := (Float.isFinite · = true)) Json.isFinite_of_float?
      found x (Option.mem_toList.1 member)
  refine ⟨⟨fun t member => (each t member).1, ?_⟩, ?_⟩
  · exact Fields.of_optional (P := (· ≤ _)) Json.le_of_natUpTo? errorLimit_
  · have zero : (0 : Float).isFinite = true := by decide
    have one : (1 : Float).isFinite = true := by decide
    simp only [floats, List.forall_mem_append, List.forall_mem_cons, List.forall_mem_flatMap]
    exact ⟨⟨⟨⟨⟨usual zero offset_, usual one scale_, optional min_⟩, optional max_⟩,
      optional pollRate_⟩, optional timeout_⟩, fun t member => (each t member).2⟩

end SensorRecord

/-! ## What a text that was read is written as -/

/-- **A record that a text writes is written as a text that writes the same record**, however the
first text spells it.  The numbers of its floats must read back to them. -/
theorem records_are_kept {text : String} {r : SensorRecord}
    (read : SensorRecord.ofText? text = some r)
    (faithful : ∀ x ∈ r.floats, x.isFinite = true → Json.float? (.float x) = some x) :
    SensorRecord.ofText? r.toText = some r := by
  obtain ⟨j, -, decoded⟩ := Option.bind_eq_some_iff.1 read
  obtain ⟨writable, finite⟩ := SensorRecord.writable_of_decode? decoded
  exact SensorRecord.ofText?_toText writable fun x member => faithful x member (finite x member)

/-- A text that spells its record in its own way: its fields in another order and most left out,
one unknown, a threshold as an array with a `null`. -/
def oddText : String :=
  "\x7b\"Offset\":0.5,\"Name\":\"a\",\"X\":3,\"Thresholds\":[[null,1,\"less than\",-5.25]]\x7d"

def oddRecord : SensorRecord :=
  { name := "a"
    model := "Hwmon"
    unit := none
    min := none
    max := none
    thresholds := [⟨none, 1, "less than", -5.25, none⟩]
    mutable := false
    settable := false
    power := .always
    pollRate := none
    offset := 0.5
    scale := 1
    path := none
    timeout := none
    errorLimit := none
    statistics := false }

theorem records_are_kept_sample :
    SensorRecord.ofText? oddText = some oddRecord ∧
      (∀ x ∈ oddRecord.floats, x.isFinite = true → Json.float? (.float x) = some x) ∧
      SensorRecord.ofText? oddRecord.toText = some oddRecord := by
  have read : SensorRecord.ofText? oddText = some oddRecord := by decide +kernel
  have faithful : ∀ x ∈ oddRecord.floats, x.isFinite = true → Json.float? (.float x) = some x := by
    decide +kernel
  exact ⟨read, faithful, records_are_kept read faithful⟩

end SensorMonitor
