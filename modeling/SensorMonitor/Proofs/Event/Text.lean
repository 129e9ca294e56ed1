/-
# Proofs.Event.Text -- the text of an event says what the event is

Reading an event that was written gives the event back with each float as its number is read
(`Event.ofText?_toText`), whatever the texts in it, and so does reading a numbered event
(`NumberedEvent.ofText?_toText`).  NaN and the infinities have no number.  Where the finite
floats of an event read back to themselves, its text is read as the event and nothing else
if all its floats are finite, and as no event if one is not (`events_are_read_back`).
-/
import SensorMonitor.Event.Codec
import SensorMonitor.Proofs.Json.Floats
import SensorMonitor.Proofs.Json.Records

namespace SensorMonitor

set_option autoImplicit false

open Json (Source Fields Legible copyable)

/-! ## Floats as their numbers are read -/

/-- The threshold with the trigger that its number is read as. -/
def ThresholdView.reread? (t : ThresholdView) : Option ThresholdView :=
  (Json.reread? t.trigger).map fun x => { t with trigger := x }

/-- The properties with the floats that their numbers are read as. -/
def Properties.reread? (p : Properties) : Option Properties := do
  let value ← Json.reread? p.value
  let max ← Json.reread? p.max
  let min ← Json.reread? p.min
  let thresholds ← p.thresholds.mapM ThresholdView.reread?
  some { p with value := value, max := max, min := min, thresholds := thresholds }

/-- The property with the float that its number is read as. -/
def Property.reread? : Property → Option Property
  | .value x => (Json.reread? x).map .value
  | .max x => (Json.reread? x).map .max
  | .min x => (Json.reread? x).map .min
  | .trigger name x => (Json.reread? x).map (.trigger name)
  | .alarm name raised => some (.alarm name raised)
  | .available b => some (.available b)
  | .functional b => some (.functional b)

/-- The event with the floats that their numbers are read as. -/
def Event.reread? : Event → Option Event
  | .registered path properties => properties.reread?.map (.registered path)
  | .changed path property => property.reread?.map (.changed path)
  | .removed path => some (.removed path)

/-! ## Records and tagged values -/

namespace Event

theorem decodeThreshold?_encode (source : Source) (t : ThresholdView) :
    decodeThreshold? source (encodeThreshold t) = t.reread? := by
  unfold decodeThreshold? encodeThreshold
  rw [Fields.of?_ofMembers]
  simp [Fields.ofMembers?, Fields.required, List.lookup_cons, decodeLevel?, decodeDirection?,
    Level.ofName?_name, Direction.ofName?_name, ThresholdView.reread?, Option.map_eq_bind]

theorem decodeAssociation?_encode (a : Association) :
    decodeAssociation? (encodeAssociation a) = some a := by
  unfold decodeAssociation? encodeAssociation
  rw [Fields.of?_ofMembers]
  simp [Fields.ofMembers?, Fields.required, List.lookup_cons]

/-- The members of the properties. -/
def propertiesMembers (p : Properties) : List (String × Json) :=
  [("unit", Json.text p.unit), ("value", Json.float p.value), ("max_value", Json.float p.max),
    ("min_value", Json.float p.min), ("thresholds", Json.array (p.thresholds.map encodeThreshold)),
    ("available", Json.bool p.available), ("functional", Json.bool p.functional)]
    ++ Json.optionalMember "mutable" Json.bool p.mutable
    ++ Json.optionalMember "association" encodeAssociation p.association

theorem fields_encodeProperties (p : Properties) :
    Fields.of? propertiesFields (encodeProperties p) = some ⟨false, propertiesMembers p⟩ := by
  have within : Json.Within (propertiesMembers p) propertiesFields :=
    (Json.Within.refl _).optional.optional
  exact (Fields.of?_ofMembers _ (propertiesMembers p)).trans
    (Fields.ofMembers?_of_within (by decide) within)

theorem decodeProperties?_encode (source : Source) (p : Properties) :
    decodeProperties? source (encodeProperties p) = p.reread? := by
  have mutable : Fields.optional ⟨false, propertiesMembers p⟩ "mutable" Json.bool? =
      some p.mutable :=
    Fields.optional_of_lookup Json.bool
      (by simp [propertiesMembers, List.lookup_append, List.lookup_cons]) rfl fun _ _ => rfl
  have association : Fields.optional ⟨false, propertiesMembers p⟩ "association"
      decodeAssociation? = some p.association :=
    Fields.optional_of_lookup encodeAssociation
      (by simp [propertiesMembers, List.lookup_append, List.lookup_cons]) rfl
      fun a _ => decodeAssociation?_encode a
  have thresholds : (p.thresholds.map encodeThreshold).mapM (decodeThreshold? source) =
      p.thresholds.mapM ThresholdView.reread? := by
    rw [List.mapM_map]
    exact mapM_congr fun t _ => decodeThreshold?_encode source t
  unfold decodeProperties?
  rw [fields_encodeProperties]
  simp only [Option.bind_eq_bind, Option.bind_some, Fields.nullable, Bool.false_eq_true, if_false]
  rw [mutable, association]
  simp [Fields.required, propertiesMembers, List.lookup_cons, thresholds, Properties.reread?]

theorem decodeProperty?_encode (source : Source) (p : Property) :
    decodeProperty? source (encodeProperty p) = p.reread? := by
  have tagged (tag : String) (content : Json) : decodeProperty? source
      (encodeProperty.tagged tag content) = propertyOfTag? tag content := by
    unfold decodeProperty? encodeProperty.tagged
    rw [propertyTagging.read?_ofMembers]
    exact congrArg (Option.bind · _) (propertyTagging.ofMembers?_tagged source tag content)
  cases p with
  | value x | max x | min x | available b | functional b => exact tagged _ _
  | trigger name x =>
      refine (tagged _ _).trans ?_
      simp only [propertyOfTag?, Fields.ofObject?_ofMembers]
      simp [Fields.ofMembers?, Fields.required, List.lookup_cons, Property.reread?,
        Option.map_eq_bind]
  | alarm name raised =>
      refine (tagged _ _).trans ?_
      simp only [propertyOfTag?, Fields.ofObject?_ofMembers]
      simp [Fields.ofMembers?, Fields.required, List.lookup_cons, Property.reread?]

/-! ## The content of an event, by its tag -/

theorem ofTagged?_registered (source : Source) (path : String) (p : Properties) :
    ofTagged? ⟨"Registered", .ofMembers [("path", .text path),
      ("properties", encodeProperties p)], source⟩ = p.reread?.map (.registered path) := by
  simp only [ofTagged?, Fields.ofObject?_ofMembers]
  simp [Fields.ofMembers?, Fields.required, List.lookup_cons, decodeProperties?_encode,
    Option.map_eq_bind]

theorem ofTagged?_changed (source : Source) (path : String) (p : Property) :
    ofTagged? ⟨"PropertyChanged", .ofMembers [("path", .text path),
      ("property", encodeProperty p)], source⟩ = p.reread?.map (.changed path) := by
  simp only [ofTagged?, Fields.ofObject?_ofMembers]
  simp [Fields.ofMembers?, Fields.required, List.lookup_cons, decodeProperty?_encode,
    Option.map_eq_bind]

theorem ofTagged?_removed (source : Source) (path : String) :
    ofTagged? ⟨"Removed", .ofMembers [("path", .text path)], source⟩ = some (.removed path) := by
  simp only [ofTagged?, Fields.ofObject?_ofMembers]
  simp [Fields.ofMembers?, Fields.required]

/-- The tag and the content of an event are read as the event. -/
theorem ofMembers?_members (source : Source) (e : Event) :
    (tagging.ofMembers? source e.members).bind ofTagged? = e.reread? := by
  have tagged (tag : String) (content : Json) :
      (tagging.ofMembers? source [("event", .text tag), ("data", content)]).bind ofTagged? =
        ofTagged? ⟨tag, content, source.inner⟩ :=
    congrArg (Option.bind · _) (tagging.ofMembers?_tagged source tag content)
  cases e with
  | registered path p => exact (tagged _ _).trans (ofTagged?_registered _ path p)
  | changed path p => exact (tagged _ _).trans (ofTagged?_changed _ path p)
  | removed path => exact (tagged _ _).trans (ofTagged?_removed _ path)

/-! ## Texts -/

theorem legible_encodeThreshold (t : ThresholdView) : Legible (encodeThreshold t) :=
  Json.legible_ofMembers (by simp)

theorem legible_encodeAssociation (a : Association) : Legible (encodeAssociation a) :=
  Json.legible_ofMembers (by simp)

theorem legible_encodeProperties (p : Properties) : Legible (encodeProperties p) := by
  have thresholds : Legible (.array (p.thresholds.map encodeThreshold)) :=
    .array (List.forall_mem_map.2 fun t _ => legible_encodeThreshold t)
  refine Json.legible_ofMembers (List.forall_mem_append.2 ⟨List.forall_mem_append.2 ⟨?_, ?_⟩, ?_⟩)
  · simp [thresholds]
  · exact Json.legible_optionalMember fun b _ => .bool b
  · exact Json.legible_optionalMember fun a _ => legible_encodeAssociation a

theorem legible_encodeProperty (p : Property) : Legible (encodeProperty p) := by
  have tagged (tag : String) {content : Json} (legible : Legible content) :
      Legible (encodeProperty.tagged tag content) := Json.legible_ofMembers (by simp [legible])
  cases p with
  | value x | max x | min x => exact tagged _ (Json.legible_float x)
  | trigger name x | alarm name raised => exact tagged _ (Json.legible_ofMembers (by simp))
  | available b | functional b => exact tagged _ (.bool b)

theorem legible_members (e : Event) : ∀ m ∈ e.members, Legible m.2 := by
  have tagged (tag : String) {content : List (String × Json)}
      (legible : ∀ m ∈ content, Legible m.2) :
      ∀ m ∈ [("event", Json.text tag), ("data", .ofMembers content)], Legible m.2 := by
    simp [Json.legible_ofMembers legible]
  cases e with
  | registered path p => exact tagged _ (by simp [legible_encodeProperties])
  | changed path p => exact tagged _ (by simp [legible_encodeProperty])
  | removed path => exact tagged _ (by simp)

/-- **The text of an event is read as the event** with each float as its number is read. -/
theorem ofText?_toText (e : Event) : ofText? e.toText = e.reread? := by
  unfold ofText? toText encode
  rw [Json.parse?_compact (Json.legible_ofMembers e.legible_members), Option.bind_some]
  unfold decode?
  rw [tagging.read?_ofMembers]
  exact ofMembers?_members _ e

end Event

/-! ## Events that are read -/

/-- The floats of the properties. -/
def Properties.floats (p : Properties) : List Float :=
  p.value :: p.max :: p.min :: p.thresholds.map ThresholdView.trigger

/-- The floats of the property. -/
def Property.floats : Property → List Float
  | .value x | .max x | .min x | .trigger _ x => [x]
  | .alarm _ _ | .available _ | .functional _ => []

/-- The floats of the event. -/
def Event.floats : Event → List Float
  | .registered _ properties => properties.floats
  | .changed _ property => property.floats
  | .removed _ => []

theorem Properties.isSome_reread?_iff (p : Properties) :
    p.reread?.isSome = true ↔ ∀ x ∈ p.floats, (Json.reread? x).isSome = true := by
  have thresholds : (p.thresholds.mapM ThresholdView.reread?).isSome = true ↔
      ∀ x ∈ p.thresholds.map ThresholdView.trigger, (Json.reread? x).isSome = true := by
    rw [isSome_mapM, List.forall_mem_map]
    simp [ThresholdView.reread?]
  unfold reread? floats
  simp only [List.forall_mem_cons, ← thresholds]
  cases Json.reread? p.value <;> cases Json.reread? p.max <;> cases Json.reread? p.min <;>
    cases p.thresholds.mapM ThresholdView.reread? <;> simp

/-- An event is read if each of its floats is. -/
theorem Event.isSome_reread?_iff (e : Event) :
    e.reread?.isSome = true ↔ ∀ x ∈ e.floats, (Json.reread? x).isSome = true := by
  cases e with
  | registered path p => exact (Option.isSome_map ..).symm ▸ p.isSome_reread?_iff
  | changed path p => cases p <;> simp [reread?, floats, Property.reread?, Property.floats]
  | removed path => simp [reread?, floats]

theorem Properties.reread?_eq_self {p : Properties}
    (all : ∀ x ∈ p.floats, Json.reread? x = some x) : p.reread? = some p := by
  unfold floats at all
  simp only [List.forall_mem_cons, List.forall_mem_map] at all
  obtain ⟨value, max, min, triggers⟩ := all
  have thresholds : p.thresholds.mapM ThresholdView.reread? = some p.thresholds :=
    mapM_eq_some_self fun t member => by
      unfold ThresholdView.reread?
      rw [triggers t member, Option.map_some]
  simp [reread?, value, max, min, thresholds]

/-- An event is read as it is if each of its floats is. -/
theorem Event.reread?_eq_self {e : Event} (all : ∀ x ∈ e.floats, Json.reread? x = some x) :
    e.reread? = some e := by
  cases e with
  | registered path p => exact congrArg (Option.map (registered path)) (p.reread?_eq_self all)
  | changed path p =>
      cases p <;> simp_all [reread?, floats, Property.reread?, Property.floats]
  | removed path => rfl

/-- Where finite floats read back to themselves, an event is read as it is if all its floats are
finite, and not at all if one is not. -/
theorem Event.reread?_eq {e : Event}
    (faithful : ∀ x ∈ e.floats, x.isFinite = true → Json.float? (.float x) = some x) :
    e.reread? = if e.floats.all (·.isFinite) then some e else none := by
  split
  · next finite =>
      exact reread?_eq_self fun x member => faithful x member (List.all_eq_true.1 finite x member)
  · next infinite =>
      obtain ⟨x, member, odd⟩ : ∃ x ∈ e.floats, x.isFinite = false := by simpa using infinite
      rw [← Option.not_isSome_iff_eq_none, e.isSome_reread?_iff]
      intro all
      have read := all x member
      rw [Json.reread?_of_not_isFinite odd] at read
      cases read

/-! ## Numbered events -/

namespace Event

theorem copyable_encodeThreshold {t : ThresholdView}
    (read : (Json.reread? t.trigger).isSome = true) (room : Nat) :
    copyable (room + 1) (encodeThreshold t) = true :=
  Json.copyable_ofMembers (by simp [Json.copyable_float read])

theorem copyable_encodeAssociation (a : Association) (room : Nat) :
    copyable (room + 1) (encodeAssociation a) = true :=
  Json.copyable_ofMembers (by simp)

theorem copyable_encodeProperties {p : Properties}
    (read : ∀ x ∈ p.floats, (Json.reread? x).isSome = true) (room : Nat) :
    copyable (room + 3) (encodeProperties p) = true := by
  simp only [Properties.floats, List.forall_mem_cons, List.forall_mem_map] at read
  obtain ⟨value, max, min, triggers⟩ := read
  have thresholds : copyable (room + 2) (.array (p.thresholds.map encodeThreshold)) = true :=
    Json.copyable_array (List.forall_mem_map.2 fun t member =>
      copyable_encodeThreshold (triggers t member) room)
  refine Json.copyable_ofMembers
    (List.forall_mem_append.2 ⟨List.forall_mem_append.2 ⟨?_, ?_⟩, ?_⟩)
  · simp [thresholds, Json.copyable_float, value, max, min]
  · cases p.mutable <;> simp [Json.optionalMember]
  · cases p.association <;> simp [Json.optionalMember, copyable_encodeAssociation]

theorem copyable_encodeProperty {p : Property}
    (read : ∀ x ∈ p.floats, (Json.reread? x).isSome = true) (room : Nat) :
    copyable (room + 2) (encodeProperty p) = true := by
  have tagged (tag : String) {content : Json} (inner : copyable (room + 1) content = true) :
      copyable (room + 2) (encodeProperty.tagged tag content) = true :=
    Json.copyable_ofMembers (by simp [inner])
  cases p with
  | value x | max x | min x =>
      exact tagged _ (Json.copyable_float (read x (List.mem_singleton_self x)) _)
  | trigger name x =>
      have float := read x (List.mem_singleton_self x)
      exact tagged _ (Json.copyable_ofMembers (by simp [Json.copyable_float float]))
  | alarm name raised => exact tagged _ (Json.copyable_ofMembers (by simp))
  | available b | functional b => exact tagged _ (Json.copyable_bool _ b)

/-- An event nests no deeper than a copy may. -/
theorem copyable_members {e : Event} (read : ∀ x ∈ e.floats, (Json.reread? x).isSome = true)
    (room : Nat) : ∀ m ∈ e.members, copyable (room + 4) m.2 = true := by
  have tagged (tag : String) {content : List (String × Json)}
      (inner : ∀ m ∈ content, copyable (room + 3) m.2 = true) :
      ∀ m ∈ [("event", Json.text tag), ("data", .ofMembers content)],
        copyable (room + 4) m.2 = true := by
    simp [Json.copyable_ofMembers inner]
  cases e with
  | registered path p => exact tagged _ (by simp [copyable_encodeProperties read])
  | changed path p => exact tagged _ (by simp [copyable_encodeProperty read])
  | removed path => exact tagged _ (by simp)

end Event

namespace NumberedEvent

/-- The number is told apart from the tag and the content. -/
theorem partition_members (seq : Nat) (e : Event) :
    List.partition (fun member => decide (member.1 = "seq")) (("seq", Json.nat seq) :: e.members) =
      ([("seq", .nat seq)], e.members) := by
  cases e <;> rfl

/-- **The text of a numbered event is read as the event** with each float as its number is
read, under its number. -/
theorem ofText?_toText {e : NumberedEvent} (fits : e.seq ≤ Json.largestSignificand) :
    ofText? e.toText = e.event.reread?.map (⟨e.seq, ·⟩) := by
  have legible : ∀ m ∈ ("seq", Json.nat e.seq) :: e.event.members, Legible m.2 :=
    List.forall_mem_cons.2 ⟨Json.legible_natural e.seq, e.event.legible_members⟩
  unfold ofText? toText encode
  rw [Json.parse?_compact (Json.legible_ofMembers legible), Option.bind_some]
  unfold decode?
  rw [Json.members?_ofMembers, Option.bind_eq_bind, Option.bind_some, partition_members]
  dsimp only
  rw [Json.natUpTo?_nat fits (Nat.le_refl _), Option.bind_eq_bind, Option.bind_some,
    Event.ofMembers?_members]
  cases read : e.event.reread? with
  | none => exact ite_self none
  | some event =>
      have all := e.event.isSome_reread?_iff.1 (read ▸ rfl)
      exact if_pos (List.all_eq_true.2 (Event.copyable_members all 122))

end NumberedEvent

/-! ## What the texts say -/

/-- **The texts of an event, alone and under any 64-bit number, are read as the event and nothing
else** if all its floats are finite, and as no event if one is not.  The numbers of its finite
floats must read back to them. -/
theorem events_are_read_back {e : Event} {seq : Nat} (numbered : seq ≤ Json.largestSignificand)
    (faithful : ∀ x ∈ e.floats, x.isFinite = true → Json.float? (.float x) = some x) :
    Event.ofText? e.toText = (if e.floats.all (·.isFinite) then some e else none) ∧
      NumberedEvent.ofText? (NumberedEvent.toText ⟨seq, e⟩) =
        if e.floats.all (·.isFinite) then some ⟨seq, e⟩ else none := by
  have reread := Event.reread?_eq faithful
  refine ⟨e.ofText?_toText.trans reread, ?_⟩
  rw [NumberedEvent.ofText?_toText numbered, reread]
  split <;> rfl

/-- A sensor with everything that properties may hold. -/
def registeredSample : Event :=
  .registered "/xyz/openbmc_project/sensors/temperature/inlet"
    { unit := "xyz.openbmc_project.Sensor.Value.Unit.DegreesC"
      value := 24.625
      max := 127
      min := -128
      thresholds := [⟨⟨.warning, .high⟩, 40, true⟩, ⟨⟨.critical, .low⟩, -0.5, false⟩]
      available := true
      functional := false
      mutable := some false
      association := some ⟨"inventory", "sensors", "/xyz/\"board\""⟩ }

theorem events_are_read_back_sample :
    let lost := Event.changed "/xyz/openbmc_project/sensors/temperature/inlet" (.value Number.nan)
    7 ≤ Json.largestSignificand ∧
      (∀ x ∈ registeredSample.floats, x.isFinite = true → Json.float? (.float x) = some x) ∧
      NumberedEvent.ofText? (NumberedEvent.toText ⟨7, registeredSample⟩) =
        some ⟨7, registeredSample⟩ ∧
      (∀ x ∈ lost.floats, x.isFinite = true → Json.float? (.float x) = some x) ∧
      Event.ofText? lost.toText = none := by
  intro lost
  have numbered : 7 ≤ Json.largestSignificand := by decide
  have faithful : ∀ x ∈ registeredSample.floats,
      x.isFinite = true → Json.float? (.float x) = some x := by decide +kernel
  have faithful' : ∀ x ∈ lost.floats, x.isFinite = true → Json.float? (.float x) = some x := by
    decide +kernel
  have finite : registeredSample.floats.all (·.isFinite) = true := by decide +kernel
  have infinite : lost.floats.all (·.isFinite) = false := by decide +kernel
  refine ⟨numbered, faithful, ?_, faithful', ?_⟩
  · have read := (events_are_read_back numbered faithful).2
    rwa [if_pos finite] at read
  · have refused := (events_are_read_back numbered faithful').1
    rwa [infinite, if_neg Bool.false_ne_true] at refused

end SensorMonitor
