/-
# Proofs.Roster.Making -- what making a live sensor does to the site

The object path of a sensor ends in the escaped name of its record, so that sensors
with different escaped names have different paths (`escape_eq_of_standsFor`).  Making a
live sensor succeeds when no other has its name, its record is fit and its paths are
free (`make_isOk`).  The sensor then makes its debut (`make_eq_ok`): it is the one that its
record and the kept edits define, and it is registered at a path that was free (`Debuts`).
-/
import SensorMonitor.Proofs.Roster.Records

namespace SensorMonitor

set_option autoImplicit false

/-! ## Object paths -/

namespace ObjectPath

theorem isElementChar_underscore : isElementChar '_' = true := by decide

theorem toList_escape (name : String) : (escape name).toList =
    name.toList.map fun c => if isElementChar c then c else '_' :=
  String.toList_ofList

theorem isElementChar_of_mem_escape {name : String} {c : Char} (member : c ∈ (escape name).toList) :
    isElementChar c = true := by
  rw [toList_escape] at member
  obtain ⟨before, -, rfl⟩ := List.mem_map.1 member
  split
  · assumption
  · exact isElementChar_underscore

/-- What is escaped needs no escaping. -/
@[simp] theorem escape_escape (name : String) : escape (escape name) = escape name := by
  apply String.toList_injective
  rw [toList_escape (escape name)]
  conv_rhs => rw [← List.map_id (escape name).toList]
  refine List.map_congr_left fun c member => ?_
  rw [if_pos (isElementChar_of_mem_escape member)]
  rfl

/-- The part of a path after the last slash. -/
def lastPart (path : String) : List Char := (path.toList.reverse.takeWhile (· ≠ '/')).reverse

@[simp] theorem lastPart_ofName (segment name : String) :
    lastPart (ofName segment name) = (escape name).toList := by
  have apart : ∀ c ∈ (escape name).toList.reverse, (decide (c ≠ '/')) = true := by
    intro c member
    have element := isElementChar_of_mem_escape (List.mem_reverse.1 member)
    refine decide_eq_true ?_
    rintro rfl
    revert element
    decide
  have split : (ofName segment name).toList.reverse =
      (escape name).toList.reverse ++ '/' :: (root ++ segment).toList.reverse := by
    simp [ofName, String.toList_append]
  rw [lastPart, split, List.takeWhile_append_of_pos apart]
  simp

/-- The path is that of a sensor with this name, whatever it measures. -/
def StandsFor (path name : String) : Prop :=
  ∃ quantity : Quantity, path = ofName quantity.segment (escape name)

theorem escape_eq_of_standsFor {path name name' : String} (stands : StandsFor path name)
    (stands' : StandsFor path name') : escape name = escape name' := by
  obtain ⟨quantity, rfl⟩ := stands
  obtain ⟨quantity', same⟩ := stands'
  have last := congrArg lastPart same
  rw [lastPart_ofName, lastPart_ofName, escape_escape, escape_escape] at last
  exact String.toList_injective last

end ObjectPath

/-! ## Registered paths -/

namespace Bus

theorem isRegistered_eq (bus : Bus) (path : String) :
    bus.isRegistered path = bus.log.toList.foldl (registeredAfter path) false :=
  (Array.foldl_toList ..).symm

theorem isRegistered_announce (bus : Bus) (path : String) (event : Event) :
    (bus.announce event).isRegistered path =
      registeredAfter path (bus.isRegistered path) event := by
  rw [isRegistered_eq, isRegistered_eq]
  simp [announce]

end Bus

namespace Site

theorem isRegistered_absorbAll (site : Site) (effects : List Sensor.Effect) (path : String) :
    (site.absorbAll effects).bus.isRegistered path =
      (Sensor.announced effects).foldl (Bus.registeredAfter path) (site.bus.isRegistered path) := by
  rw [Bus.isRegistered_eq, Bus.isRegistered_eq, log_absorbAll, List.foldl_append]

/-- An effect that keeps no edit leaves the store alone. -/
theorem store_absorbAll (site : Site) {effects : List Sensor.Effect}
    (keepsNone : ∀ e ∈ effects, ∀ configuration model t, e ≠ .keep configuration model t) :
    (site.absorbAll effects).store = site.store := by
  induction effects generalizing site with
  | nil => rfl
  | cons effect rest ih =>
      obtain ⟨first, later⟩ := List.forall_mem_cons.1 keepsNone
      have further : site.absorbAll (effect :: rest) = (site.absorb effect).absorbAll rest := rfl
      rw [further, ih _ later]
      cases effect with
      | keep configuration model t => exact absurd rfl (first configuration model t)
      | announce event | share key x | unlist key | tell hook x => rfl

/-- A sensor is published if its path is free. -/
theorem register_isOk {site : Site} {s : Sensor}
    (free : site.bus.isRegistered s.identity.path = false) : (site.register s).isOk = true := by
  simp only [register, Bus.register]
  rw [free]
  rfl

theorem create_isOk {site : Site} {d : Definition} (described : (Sensor.ofDefinition d).isOk = true)
    (free : ∀ s : Sensor, s.MadeOf d → site.bus.isRegistered s.identity.path = false) :
    (site.create d).isOk = true := by
  simp only [create]
  cases made : Sensor.ofDefinition d with
  | error failure =>
      rw [made] at described
      cases described
  | ok s => exact register_isOk (free s (Sensor.madeOf_of_ofDefinition made))

theorem createExternal_isOk {site : Site} {d : Definition} {timeout : Option Nat}
    (described : (Sensor.ofDefinition { d with settable := true, mutable := true }).isOk = true)
    (free : ∀ s : Sensor, s.MadeOf { d with settable := true, mutable := true } →
      site.bus.isRegistered s.identity.path = false) :
    (site.createExternal d timeout).isOk = true := by
  simp only [createExternal, ExternalSensor.ofDefinition]
  cases made : Sensor.ofDefinition { d with settable := true, mutable := true } with
  | error failure =>
      rw [made] at described
      cases described
  | ok s =>
      -- the hook makes no difference to the path
      let hooked : Sensor := { s with hook := some .stamp }
      have published : (site.register hooked).isOk = true :=
        register_isOk (free s (Sensor.madeOf_of_ofDefinition made))
      change Except.isOk (site.register hooked >>= _) = true
      cases outcome : site.register hooked with
      | error failure =>
          rw [outcome] at published
          cases published
      | ok pair => rfl

end Site

/-! ## What comes and goes with a sensor -/

namespace Sensor

/-- The effects by which a sensor is published, and shown to its peers. -/
def debut (s : Sensor) : List Sensor.Effect :=
  .announce (.registered s.identity.path s.properties) ::
    match s.key with
    | some key => [.share key s.value]
    | none => []

theorem announced_debut (s : Sensor) :
    announced s.debut = [.registered s.identity.path s.properties] := by
  simp only [debut]
  cases s.key <;> rfl

/-- A sensor that is registered takes leave of the bus when it ends. -/
theorem announced_retire {s : Sensor} (registered : s.registered = true) :
    announced s.retire = [.removed s.identity.path] := by
  simp only [retire]
  rw [announced_append, registered]
  cases s.key <;> rfl

end Sensor

namespace Site

theorem isRegistered_debut (site : Site) (s : Sensor) (path : String) :
    (site.absorbAll s.debut).bus.isRegistered path =
      (decide (s.identity.path = path) || site.bus.isRegistered path) := by
  rw [isRegistered_absorbAll, Sensor.announced_debut]
  change Bus.registeredAfter path _ (.registered s.identity.path s.properties) = _
  simp only [Bus.registeredAfter]
  by_cases here : s.identity.path = path <;> simp [here]

theorem isRegistered_retire (site : Site) {s : Sensor} (registered : s.registered = true)
    (path : String) : (site.retire s).bus.isRegistered path =
      (!decide (s.identity.path = path) && site.bus.isRegistered path) := by
  rw [retire, isRegistered_absorbAll, Sensor.announced_retire registered]
  change Bus.registeredAfter path _ (.removed s.identity.path) = _
  simp only [Bus.registeredAfter]
  by_cases here : s.identity.path = path <;> simp [here]

theorem store_debut (site : Site) (s : Sensor) : (site.absorbAll s.debut).store = site.store := by
  refine site.store_absorbAll ?_
  simp only [Sensor.debut]
  cases s.key <;> simp

theorem store_retire (site : Site) (s : Sensor) : (site.retire s).store = site.store := by
  refine site.store_absorbAll ?_
  simp only [Sensor.retire]
  cases s.key <;> cases s.registered <;> simp

end Site

/-! ## Making a live sensor -/

namespace Roster

open ObjectPath (StandsFor escape)

/-- The definition as a sensor of the record takes it: one that is written from outside is
settable and shows it. -/
def definitionFor (record : SensorRecord) (d : Definition) : Definition :=
  if record.isExternal then { d with settable := true, mutable := true } else d

/-- What is said about the value of a sensor is not what it is made of. -/
theorem definitionFor_eq (record : SensorRecord) (d : Definition) :
    ∃ settable mutable,
      definitionFor record d = { d with settable := settable, mutable := mutable } := by
  rw [definitionFor]
  split
  · exact ⟨true, true, rfl⟩
  · exact ⟨d.settable, d.mutable, rfl⟩

/-- The key of the sensor of a record: its escaped name, unless it is written from outside. -/
def keyOfRecord (record : SensorRecord) : Option String :=
  if record.isExternal then none else some (escape record.name)

/-- The definition of a record has its name and its thresholds, with the triggers of the kept
edits if there is a store. -/
theorem definitionOf_eq_ok {site : Site} {path : String} {record : SensorRecord} {d : Definition}
    (defined : definitionOf site path record = .ok d) :
    d.name = record.name ∧ d.configuration = path ∧
      ∃ ts, record.thresholds.mapM (·.toThreshold) = .ok ts ∧
        d.thresholds = (site.store.map fun store => (store.apply path ts).1).getD ts := by
  simp only [definitionOf, SensorRecord.toDefinition] at defined
  cases units : record.resolvedUnit with
  | none =>
      rw [units] at defined
      cases defined
  | some unit =>
      rw [units] at defined
      cases list : record.thresholds.mapM (·.toThreshold) with
      | error failure =>
          simp only [list, bind, Except.bind] at defined
          cases defined
      | ok ts =>
          simp only [list, bind, Except.bind] at defined
          cases store : site.store with
          | none =>
              rw [store] at defined
              cases defined
              exact ⟨rfl, rfl, ts, rfl, rfl⟩
          | some store' =>
              rw [store] at defined
              cases defined
              exact ⟨rfl, rfl, ts, rfl, rfl⟩

theorem standsFor_of_madeOf {site : Site} {path : String} {record : SensorRecord} {d : Definition}
    {s : Sensor} (defined : definitionOf site path record = .ok d)
    (made : s.MadeOf (definitionFor record d)) : StandsFor s.identity.path record.name := by
  obtain ⟨settable, mutable, same⟩ := definitionFor_eq record d
  rw [same] at made
  obtain ⟨quantity, stands⟩ := made.fresh.path
  exact ⟨quantity, by rw [stands, (definitionOf_eq_ok defined).1]⟩

/-- What making a live sensor comes to: a sensor that its definition describes is registered at a
path that was free, and makes its debut under the key of its record. -/
structure Debuts (before : Site) (path : String) (record : SensorRecord) (live : LiveSensor)
    (d : Definition) (s : Sensor) (after : Site) : Prop where
  defined : definitionOf before path record = .ok d
  sensor : live.sensor? = some s
  made : ({ s with key := none } : Sensor).MadeOf (definitionFor record d)
  key : s.key = keyOfRecord record
  registered : s.registered = true
  free : before.bus.isRegistered s.identity.path = false
  site : after = before.absorbAll s.debut

namespace Debuts

variable {before after : Site} {path : String} {record : SensorRecord} {live : LiveSensor}
variable {d : Definition} {s : Sensor} (debuts : Debuts before path record live d s after)

include debuts

theorem standsFor : StandsFor s.identity.path record.name := by
  -- the key makes no difference to the path
  have stands := standsFor_of_madeOf debuts.defined debuts.made
  exact stands

/-- One more path is registered. -/
theorem isRegistered (other : String) : after.bus.isRegistered other =
    (decide (s.identity.path = other) || before.bus.isRegistered other) := by
  rw [debuts.site, Site.isRegistered_debut]

theorem store : after.store = before.store := by
  rw [debuts.site, Site.store_debut]

end Debuts

theorem makeExternal_debuts {site after : Site} {path : String} {record : SensorRecord}
    {d : Definition} {live : LiveSensor} (defined : definitionOf site path record = .ok d)
    (external : record.isExternal = true) (made : makeExternal site record d = .ok (live, after)) :
    ∃ s, Debuts site path record live d s after := by
  simp only [makeExternal] at made
  obtain ⟨⟨e, published⟩, created, made⟩ := bind_eq_ok made
  obtain ⟨created, -⟩ := Site.created_of_createExternal created
  obtain ⟨quantity, thresholds, described⟩ := created.made.described
  have keyless : e.sensor.key = none := described.key
  have new : ({ e.sensor with key := none } : Sensor).MadeOf (definitionFor record d) := by
    rw [definitionFor, if_pos external, ← keyless]
    exact created.made
  have key : e.sensor.key = keyOfRecord record := by rw [keyless, keyOfRecord, if_pos external]
  have debut : published = site.absorbAll e.sensor.debut := by
    rw [created.after, Sensor.debut, keyless]
    rfl
  cases perishes : record.perishesAfter with
  | none =>
      rw [perishes] at made
      cases made
      exact ⟨e.sensor, defined, rfl, new, key, created.registered, created.free, debut⟩
  | some timeout =>
      rw [perishes] at made
      cases made
      exact ⟨e.sensor, defined, rfl, new, key, created.registered, created.free, debut⟩

theorem makePolled_debuts {site after : Site} {path : String} {record : SensorRecord}
    {d : Definition} {live : LiveSensor} (defined : definitionOf site path record = .ok d)
    (polled : record.isExternal = false) (made : makePolled site record d = .ok (live, after)) :
    (Hwmon.Source.ofRecord record).isOk = true ∧
      ∃ s, Debuts site path record live d s after := by
  simp only [makePolled] at made
  obtain ⟨source, found, made⟩ := bind_eq_ok made
  obtain ⟨⟨s, published⟩, created, made⟩ := bind_eq_ok made
  have created := Site.created_of_create created
  obtain ⟨quantity, thresholds, described⟩ := created.made.described
  cases made
  refine ⟨by rw [found]; rfl, { s with key := some s.identity.name }, defined, rfl, ?_, ?_,
    created.registered, created.free, ?_⟩
  · rw [definitionFor, polled, ← described.key]
    exact created.made
  · simp [keyOfRecord, polled, described.identity, (definitionOf_eq_ok defined).1]
  · rw [created.after]
    rfl

/-! ## Records that are fit -/

theorem isOk_iff {α : Type} (x : Except Failure α) : x.isOk = true ↔ ∃ a, x = .ok a := by
  cases x with
  | ok a => exact ⟨fun _ => ⟨a, rfl⟩, fun _ => rfl⟩
  | error failure => exact ⟨nofun, nofun⟩

theorem exists_madeOf_iff (d : Definition) :
    (∃ s : Sensor, s.MadeOf d) ↔ (Sensor.ofDefinition d).isOk = true := by
  rw [isOk_iff]
  constructor
  · rintro ⟨s, made⟩
    exact ⟨_, made⟩
  · rintro ⟨s, made⟩
    exact ⟨s, Sensor.madeOf_of_ofDefinition made⟩

theorem isOk_map {α β : Type} (x : Except Failure α) (f : α → β) : (x.map f).isOk = x.isOk := by
  cases x <;> rfl

/-- A record is fit if it has a definition that describes a sensor, and a source if the sensor is
read. -/
theorem isOk_sensorOf_iff (site : Site) (path : String) (record : SensorRecord) :
    (sensorOf site path record).isOk = true ↔
      ∃ d, definitionOf site path record = .ok d ∧
        (∃ s : Sensor, s.MadeOf (definitionFor record d)) ∧
        (record.isExternal = false → (Hwmon.Source.ofRecord record).isOk = true) := by
  simp only [sensorOf]
  cases defined : definitionOf site path record with
  | error failure =>
      constructor
      · intro fit
        cases fit
      · rintro ⟨d, same, -⟩
        cases same
  | ok d =>
      change Except.isOk (if record.isExternal then _ else _) = true ↔ _
      simp only [Except.ok.injEq, exists_eq_left', exists_madeOf_iff, definitionFor]
      cases record.isExternal with
      | true =>
          simp only [ExternalSensor.ofDefinition, if_true, isOk_map, Bool.true_eq_false,
            false_implies, and_true]
      | false =>
          simp only [Bool.false_eq_true, if_false, forall_const]
          cases Hwmon.Source.ofRecord record with
          | error failure =>
              constructor
              · intro fit
                cases fit
              · rintro ⟨-, found⟩
                cases found
          | ok source => exact (and_iff_left rfl).symm

/-- **A live sensor that was made has a name of its own and a record that is fit, and makes its
debut.** -/
theorem make_eq_ok {r : Roster} {path : String} {record : SensorRecord} {live : LiveSensor}
    {after : Site} (made : r.make path record = .ok (live, after)) :
    r.holderOf? path record.name = none ∧ (sensorOf r.site path record).isOk = true ∧
      ∃ d s, Debuts r.site path record live d s after := by
  simp only [make] at made
  cases holder : r.holderOf? path record.name with
  | some holder' =>
      rw [holder] at made
      cases made
  | none =>
      rw [holder] at made
      obtain ⟨d, defined, made⟩ := bind_eq_ok made
      refine ⟨rfl, ?_⟩
      rw [isOk_sensorOf_iff]
      split at made
      · next external =>
          obtain ⟨s, debuts⟩ := makeExternal_debuts defined external made
          exact ⟨⟨d, defined, ⟨_, debuts.made⟩, fun polled => by simp [polled] at external⟩,
            d, s, debuts⟩
      · next polled =>
          obtain ⟨found, s, debuts⟩ := makePolled_debuts defined (by simpa using polled) made
          exact ⟨⟨d, defined, ⟨_, debuts.made⟩, fun _ => found⟩, d, s, debuts⟩

/-- **Making succeeds** when no other has the name, the record is fit and no path of that
name is taken. -/
theorem make_isOk {r : Roster} {path : String} {record : SensorRecord}
    (unheld : r.holderOf? path record.name = none)
    (fit : (sensorOf r.site path record).isOk = true)
    (free : ∀ p, StandsFor p record.name → r.site.bus.isRegistered p = false) :
    (r.make path record).isOk = true := by
  obtain ⟨d, defined, described, found⟩ := (isOk_sensorOf_iff ..).1 fit
  have free : ∀ s : Sensor, s.MadeOf (definitionFor record d) →
      r.site.bus.isRegistered s.identity.path = false :=
    fun s made => free _ (standsFor_of_madeOf defined made)
  rw [exists_madeOf_iff] at described
  simp only [make]
  rw [unheld]
  dsimp only
  rw [defined]
  change Except.isOk (if record.isExternal then _ else _) = true
  rw [definitionFor] at described free
  split
  · next external =>
      rw [if_pos external] at described free
      obtain ⟨pair, created⟩ := (isOk_iff _).1 (Site.createExternal_isOk described free)
      simp only [makeExternal]
      rw [created]
      rfl
  · next polled =>
      rw [if_neg polled] at described free
      obtain ⟨source, found⟩ := (isOk_iff _).1 (found (by simpa using polled))
      obtain ⟨pair, created⟩ := (isOk_iff _).1 (Site.create_isOk described free)
      simp only [makePolled]
      rw [found]
      change Except.isOk (r.site.create d >>= _) = true
      rw [created]
      rfl

end Roster

end SensorMonitor
