/-
# Proofs.Roster.Triggers -- edited triggers outlive their sensors

An accepted edit moves the trigger of a live sensor and goes into the store, whatever
becomes of the save.  When the sensor ends and another is made under its path, the edit is
taken from the store again.  So through configurations, the end of all sensors, and whatever
else happens, each trigger is that of the last accepted edit for its path and slot; where
there was none, that of the last edit in the store as it was opened; or else the configured
one (`edits_outlive_sensors`).

* `Attuned`: store and sensors agree on every trigger;
* `Attuned.undergo`: each episode leaves them so, with its own edit on top.
-/
import SensorMonitor.Proofs.Roster.Bookkeeping
import SensorMonitor.Proofs.Sensor.Triggers
import SensorMonitor.Proofs.TriggerEdits

namespace SensorMonitor

set_option autoImplicit false

/-! ## Accepted edits -/

/-- An edit of a trigger that a sensor has accepted, with its configuration path. -/
structure AcceptedEdit where
  path : String
  slot : Slot
  value : Float
  deriving DecidableEq

namespace AcceptedEdit

/-- The value of the last edit for a path and a slot. -/
def last? (path : String) (slot : Slot) (edits : List AcceptedEdit) : Option Float :=
  (edits.reverse.find? fun e => e.path = path && e.slot = slot).map (·.value)

theorem last?_append (path : String) (slot : Slot) (edits more : List AcceptedEdit) :
    last? path slot (edits ++ more) = (last? path slot more).or (last? path slot edits) := by
  unfold last?
  rw [List.reverse_append, List.find?_append, Option.map_or]

end AcceptedEdit

/-! ## What a record configures -/

/-- The slot that a configured threshold names. -/
def ThresholdRecord.slot? (r : ThresholdRecord) : Option Slot := do
  let level ← Level.ofSeverity? r.severity
  let direction ← Direction.ofComparison? r.direction
  some ⟨level, direction⟩

theorem ThresholdRecord.toThreshold_eq_ok {r : ThresholdRecord} {t : Threshold}
    (described : r.toThreshold = .ok t) : r.slot? = some t.slot ∧ t.trigger = r.value := by
  unfold toThreshold at described
  unfold slot?
  cases level : Level.ofSeverity? r.severity with
  | none => simp [level] at described
  | some level' =>
      cases direction : Direction.ofComparison? r.direction with
      | none => simp [level, direction] at described
      | some direction' =>
          rw [level, direction] at described
          cases hysteresis : r.hysteresis with
          | none =>
              rw [hysteresis] at described
              cases described
              exact ⟨rfl, rfl⟩
          | some h =>
              rw [hysteresis] at described
              cases described
              exact ⟨rfl, rfl⟩

/-- Where a list is worked through without failure, each of its items is. -/
theorem exists_of_mapM_eq_ok {α β : Type} {f : α → Except Failure β} {list : List α} {out : List β}
    (done : list.mapM f = .ok out) {a : α} (member : a ∈ list) : ∃ b ∈ out, f a = .ok b := by
  induction list generalizing out with
  | nil => cases member
  | cons first rest ih =>
      rw [List.mapM_cons] at done
      obtain ⟨b, made, done⟩ := bind_eq_ok done
      obtain ⟨bs, later, done⟩ := bind_eq_ok done
      cases done
      rcases List.mem_cons.1 member with rfl | member
      · exact ⟨b, List.mem_cons_self, made⟩
      · obtain ⟨b', there, same⟩ := ih later member
        exact ⟨b', List.mem_cons_of_mem b there, same⟩

/-! ## The store -/

namespace Site

/-- An edit goes into the store, whatever becomes of the save. -/
theorem store_keep (site : Site) (configuration model : String) (t : Threshold) :
    (site.keep configuration model t).store = site.store.map fun store =>
      ⟨store.path, store.edits.upsert configuration (TriggerEdit.ofThreshold model t)⟩ := by
  unfold keep
  cases there : site.store with
  | none => exact there
  | some store => rfl

end Site

/-- The trigger that the kept edits give to a slot under a path. -/
def EditStore.trigger? (store : EditStore) (path : String) (slot : Slot) : Option Float :=
  TriggerEdits.lastFor slot (store.edits.under path)

namespace Roster

/-- The thresholds that a record configures under a path have the known triggers, or else the
configured ones. -/
def AttunedTo (known : Slot → Option Float) (record : SensorRecord) (s : Sensor) : Prop :=
  ∀ configured ∈ record.thresholds, ∃ slot, configured.slot? = some slot ∧
    s.thresholds.trigger? slot = some ((known slot).getD configured.value)

/-- The store and the live sensors agree on what is known of the triggers. -/
structure Attuned (r : Roster) (known : String → Slot → Option Float) : Prop where
  kept : ∃ store, r.site.store = some store ∧
    ∀ path slot, store.trigger? path slot = known path slot
  live : ∀ path entry, r.live[path]? = some entry → ∃ s, entry.live.sensor? = some s ∧
    s.identity.configuration = path ∧ AttunedTo (known path) entry.record s

/-! ## Making a sensor -/

/-- A sensor that is made has the triggers of its definition. -/
theorem Debuts.triggers {before after : Site} {path : String} {record : SensorRecord}
    {live : LiveSensor} {d : Definition} {s : Sensor}
    (debuts : Debuts before path record live d s after) :
    s.identity.configuration = d.configuration ∧ (d.thresholds.map (·.slot)).Nodup ∧
      ∀ t ∈ d.thresholds, s.thresholds.trigger? t.slot = some t.trigger := by
  obtain ⟨settable, mutable, same⟩ := definitionFor_eq record d
  have made := debuts.made
  rw [same] at made
  exact made.triggers

variable {r : Roster} {known : String → Slot → Option Float}

/-- **A sensor that is made is attuned**: it takes from the store what is known. -/
theorem attunedTo_make (attuned : r.Attuned known) {path : String} {record : SensorRecord}
    {live : LiveSensor} {after : Site} (made : r.make path record = .ok (live, after)) :
    ∃ s, live.sensor? = some s ∧ s.identity.configuration = path ∧
      AttunedTo (known path) record s := by
  obtain ⟨store, there, kept⟩ := attuned.kept
  obtain ⟨-, -, d, s, debuts⟩ := make_eq_ok made
  obtain ⟨configuration, distinct, triggers⟩ := debuts.triggers
  obtain ⟨-, placed, ts, described, applied⟩ := definitionOf_eq_ok debuts.defined
  rw [there] at applied
  have applied : d.thresholds = (TriggerEdits.applyAll (store.edits.under path) ts).1 := applied
  rw [applied, TriggerEdits.map_slot_applyAll] at distinct
  rw [TriggerEdits.applyAll_eq_map _ distinct] at applied
  refine ⟨s, debuts.sensor, configuration.trans placed, fun configured member => ?_⟩
  obtain ⟨t, given, same⟩ := exists_of_mapM_eq_ok described member
  obtain ⟨slot, trigger⟩ := ThresholdRecord.toThreshold_eq_ok same
  refine ⟨t.slot, slot, ?_⟩
  have retriggered : TriggerEdits.retrigger (store.edits.under path) t ∈ d.thresholds := by
    rw [applied]
    exact List.mem_map_of_mem given
  have shown := triggers _ retriggered
  show s.thresholds.trigger? t.slot = some ((known path t.slot).getD configured.value)
  rw [← kept, ← trigger]
  exact shown

namespace Attuned

/-- Another roster with the same store and the same live sensors. -/
theorem around {r' : Roster} (attuned : r.Attuned known) (store : r'.site.store = r.site.store)
    (live : r'.live = r.live) : r'.Attuned known := by
  obtain ⟨kept, alive⟩ := attuned
  constructor
  · rwa [store]
  · rwa [live]

theorem retire (attuned : r.Attuned known) (path : String) : (r.retire path).Attuned known := by
  cases there : r.live[path]? with
  | none =>
      have same : r.retire path = r := by rw [Roster.retire, there]
      rwa [same]
  | some entry =>
      obtain ⟨s, present, -⟩ := attuned.live path entry there
      rw [retire_eq_of_some there present]
      refine ⟨?_, fun other entry' found => ?_⟩
      · show ∃ store, (r.site.retire s).store = some store ∧ _
        rw [Site.store_retire]
        exact attuned.kept
      · exact attuned.live other entry' (getElem?_erase_eq_some_iff.1 found).2

theorem put (attuned : r.Attuned known) (path : String) (record : SensorRecord) :
    (r.put path record).Attuned known := by
  have store := r.store_put path record
  refine ⟨by rw [store]; exact attuned.kept, ?_⟩
  intro other entry found
  unfold Roster.put at found
  cases made : r.make path record with
  | error failure =>
      rw [made] at found
      exact attuned.live other entry found
  | ok pair =>
      rw [made] at found
      rcases getElem?_insert_eq_some_iff.1 found with ⟨rfl, rfl⟩ | ⟨-, found⟩
      · exact attunedTo_make attuned made
      · exact attuned.live other entry found

theorem bring (attuned : r.Attuned known) (path : String) (record : SensorRecord) :
    (r.bring path record).Attuned known := by
  unfold Roster.bring
  cases r.live[path]? with
  | none => exact attuned.put path record
  | some entry =>
      dsimp only
      split
      · exact attuned
      · exact (attuned.retire path).put path record

theorem foldl_retire (attuned : r.Attuned known) (paths : List String) :
    (paths.foldl Roster.retire r).Attuned known := by
  induction paths generalizing r with
  | nil => exact attuned
  | cons path rest ih => exact ih (attuned.retire path)

theorem apply (attuned : r.Attuned known) (conf : Configuration) :
    (r.apply conf).1.Attuned known := by
  have all : ∀ (entries : List (String × SensorRecord)) {r : Roster}, r.Attuned known →
      (r.bringAll entries).Attuned known := by
    intro entries
    induction entries with
    | nil => exact id
    | cons e rest ih => exact fun attuned => ih (attuned.bring e.1 e.2)
  rw [apply_fst]
  exact all conf.toList (attuned.foldl_retire (r.goneFrom conf))

/-! ### Living -/

/-- A sensor that stays steady stays attuned, and so does the store. -/
theorem lives (attuned : r.Attuned known) {path : String} {entry : RosterEntry}
    (there : r.live[path]? = some entry) {live : LiveSensor} {site : Site}
    (governed : Governed Sensor.Steady r.site entry.live.sensor? live.sensor? site) :
    (r.withLive path entry (live, site)).Attuned known := by
  obtain ⟨s, present, configuration, triggers⟩ := attuned.live path entry there
  rw [present] at governed
  generalize after : live.sensor? = sensor at governed
  cases governed with
  | there steady =>
      refine ⟨?_, fun other entry' found => ?_⟩
      · show ∃ store, (r.site.absorbAll _).store = some store ∧ _
        rw [Site.store_absorbAll _ steady.keepsNone]
        exact attuned.kept
      · rcases getElem?_insert_eq_some_iff.1 found with ⟨rfl, rfl⟩ | ⟨-, found⟩
        · refine ⟨_, after, steady.configuration.trans configuration, fun configured member => ?_⟩
          obtain ⟨slot, named, trigger⟩ := triggers configured member
          exact ⟨slot, named, (steady.triggers slot).trans trigger⟩
        · exact attuned.live other entry' found

theorem run (attuned : r.Attuned known) (ms : Nat) : (r.run ms).Attuned known :=
  run_invariant (P := (Attuned · known)) (fun _ attuned => attuned.around rfl rfl)
    (fun attuned there => attuned.lives there
      (LiveSensor.governed_step Sensor.law_steady _ _ _)) attuned ms

end Attuned

/-! ## Episodes -/

/-- The episode swaps no definitions of a live sensor. -/
def Episode.KeepsDefinitions : Episode → Prop
  | .perform _ op => ∀ ts, op ≠ .replaceThresholds ts
  | _ => True

/-- The edit of a trigger that is made in an episode, if it is accepted. -/
def editOf? (r : Roster) : Episode → Option AcceptedEdit
  | .perform path (.setTrigger slot x) =>
      if (r.perform path (.setTrigger slot x)).2 = some .done then some ⟨path, slot, x⟩ else none
  | _ => none

/-- The accepted edits of one episode after another. -/
def edits (r : Roster) : List Episode → List AcceptedEdit
  | [] => []
  | episode :: rest => (r.editOf? episode).toList ++ (r.undergo episode).edits rest

/-- What is known of the triggers after more edits. -/
def knownAfter (known : String → Slot → Option Float) (edits : List AcceptedEdit) (path : String)
    (slot : Slot) : Option Float :=
  (AcceptedEdit.last? path slot edits).or (known path slot)

theorem knownAfter_append (known : String → Slot → Option Float) (edits more : List AcceptedEdit) :
    knownAfter known (edits ++ more) = knownAfter (knownAfter known edits) more := by
  funext path slot
  unfold knownAfter
  rw [AcceptedEdit.last?_append, Option.or_assoc]

/-- An accepted edit is what is known from then on. -/
theorem knownAfter_edit (known : String → Slot → Option Float) (e : AcceptedEdit) (path : String)
    (slot : Slot) : knownAfter known [e] path slot =
      if e.path = path ∧ e.slot = slot then some e.value else known path slot := by
  unfold knownAfter AcceptedEdit.last?
  by_cases here : e.path = path ∧ e.slot = slot
  · simp [here]
  · simp [here]

/-- What an operation does to a live sensor, its site and whoever asks. -/
theorem performed_of_there {path : String} {entry : RosterEntry}
    (there : r.live[path]? = some entry) {s : Sensor} (present : entry.live.sensor? = some s)
    (op : Sensor.Op) : ∃ live site,
      r.perform path op =
        (r.withLive path entry (live, site), some (s.perform r.site.conditions op).reply) ∧
      live.sensor? = some (s.perform r.site.conditions op).sensor ∧
      site = r.site.absorbAll (s.perform r.site.conditions op).effects := by
  obtain ⟨sensor, absorbed⟩ := entry.live.perform_spec r.now r.site op
  have reply := entry.live.perform_reply r.now r.site op
  rw [present] at sensor absorbed reply
  refine ⟨_, _, ?_, sensor, absorbed⟩
  have answer : some (s.perform r.site.conditions op).reply =
      (entry.live.perform r.now r.site op).2.2 := reply.symm
  rw [Roster.perform, there, answer]

namespace Attuned

/-- An accepted edit is known from then on, in the sensor and in the store alike. -/
theorem edited (attuned : r.Attuned known) {path : String} {entry : RosterEntry}
    (there : r.live[path]? = some entry) {s s' : Sensor} (present : entry.live.sensor? = some s)
    {slot : Slot} {x : Float} {t : Threshold} (named : t.slot = slot) (moved : t.trigger = x)
    (identity : s'.identity = s.identity)
    (triggers : ∀ other, s'.thresholds.trigger? other =
      if other = slot then some x else s.thresholds.trigger? other)
    {live : LiveSensor} {site : Site} (after : live.sensor? = some s') {event : Event}
    (absorbed : site = r.site.absorbAll
      [.keep s.identity.configuration s.identity.model t, .announce event]) :
    (r.withLive path entry (live, site)).Attuned (knownAfter known [⟨path, slot, x⟩]) := by
  obtain ⟨store, holds, kept⟩ := attuned.kept
  obtain ⟨s₀, present', configuration, settled⟩ := attuned.live path entry there
  obtain rfl : s = s₀ := Option.some.inj (present.symm.trans present')
  refine ⟨⟨⟨store.path, store.edits.upsert path (TriggerEdit.ofThreshold s.identity.model t)⟩,
    ?_, fun other slot' => ?_⟩, fun other entry' found => ?_⟩
  · show site.store = _
    rw [absorbed]
    show (r.site.keep s.identity.configuration s.identity.model t).store = _
    rw [Site.store_keep, holds, configuration]
    rfl
  · unfold EditStore.trigger?
    rw [knownAfter_edit, TriggerEdits.under_upsert]
    by_cases here : path = other
    · subst here
      rw [if_pos rfl, TriggerEdits.lastFor_put, TriggerEdit.slot?_ofThreshold, named, ← kept]
      simp [TriggerEdit.ofThreshold, moved, EditStore.trigger?]
    · rw [if_neg here, if_neg (fun both => here both.1), ← kept]
      rfl
  · rcases getElem?_insert_eq_some_iff.1 found with ⟨rfl, rfl⟩ | ⟨apart, found⟩
    · refine ⟨s', after, by rw [identity, configuration], fun configured member => ?_⟩
      obtain ⟨slot', named', trigger⟩ := settled configured member
      refine ⟨slot', named', ?_⟩
      rw [triggers, knownAfter_edit]
      by_cases here : slot' = slot
      · rw [if_pos here, if_pos ⟨rfl, here.symm⟩]
        rfl
      · rw [if_neg here, if_neg (fun both => here both.2.symm)]
        exact trigger
    · have same : knownAfter known [⟨path, slot, x⟩] other = known other := by
        funext slot'
        rw [knownAfter_edit, if_neg (fun both => apart both.1)]
      rw [same]
      exact attuned.live other entry' found

/-- An edit of a trigger is known from then on if it is accepted. -/
theorem perform_setTrigger (attuned : r.Attuned known) (path : String) (slot : Slot) (x : Float) :
    (r.perform path (.setTrigger slot x)).1.Attuned
      (knownAfter known (r.editOf? (.perform path (.setTrigger slot x))).toList) := by
  have edit : r.editOf? (.perform path (.setTrigger slot x)) =
      if (r.perform path (.setTrigger slot x)).2 = some .done then some ⟨path, slot, x⟩
      else none := rfl
  rw [edit]
  cases there : r.live[path]? with
  | none =>
      have absent : r.perform path (.setTrigger slot x) = (r, none) := by rw [Roster.perform, there]
      rw [absent]
      exact attuned
  | some entry =>
      obtain ⟨s, present, -⟩ := attuned.live path entry there
      obtain ⟨live, site, performed, sensor, absorbed⟩ := performed_of_there there present
        (.setTrigger slot x)
      have spec := s.setTrigger_spec r.site.conditions slot x
      rw [performed]
      generalize s.perform r.site.conditions (.setTrigger slot x) = outcome at *
      cases spec with
      | refused failure =>
          have governed : Governed Sensor.Steady r.site entry.live.sensor? live.sensor? site := by
            rw [present, sensor, absorbed]
            exact .there (.refl s)
          exact attuned.lives there governed
      | accepted named moved identity triggers =>
          exact attuned.edited there present named moved identity triggers sensor absorbed

/-- An operation on a sensor is an edit of a trigger, or leaves the sensor steady. -/
theorem perform (attuned : r.Attuned known) (path : String) {op : Sensor.Op}
    (unswapped : ∀ ts, op ≠ .replaceThresholds ts) :
    (r.perform path op).1.Attuned (knownAfter known (r.editOf? (.perform path op)).toList) := by
  by_cases edit : ∃ slot x, op = .setTrigger slot x
  · obtain ⟨slot, x, rfl⟩ := edit
    exact attuned.perform_setTrigger path slot x
  · have unedited : r.editOf? (.perform path op) = none := by
      cases op with
      | setTrigger slot x => exact absurd ⟨slot, x, rfl⟩ edit
      | _ => rfl
    rw [unedited]
    show (r.perform path op).1.Attuned known
    cases there : r.live[path]? with
    | none =>
        have absent : r.perform path op = (r, none) := by rw [Roster.perform, there]
        rwa [absent]
    | some entry =>
        obtain ⟨s, present, -⟩ := attuned.live path entry there
        obtain ⟨live, site, performed, sensor, absorbed⟩ := performed_of_there there present op
        have steady := s.steady_perform r.site.conditions
          (fun slot x asked => edit ⟨slot, x, asked⟩) unswapped
        rw [performed]
        have governed : Governed Sensor.Steady r.site entry.live.sensor? live.sensor? site := by
          rw [present, sensor, absorbed]
          exact .there steady
        exact attuned.lives there governed

/-- **Every episode keeps the store and the sensors in tune**, with its own edit on top. -/
theorem undergo (attuned : r.Attuned known) {episode : Episode} (keeps : episode.KeepsDefinitions) :
    (r.undergo episode).Attuned (knownAfter known (r.editOf? episode).toList) := by
  cases episode with
  | apply conf => exact attuned.apply conf
  | shutdown => exact attuned.foldl_retire r.live.keys
  | perform path op => exact attuned.perform path keeps
  | conditions conditions => exact attuned.around rfl rfl
  | files files => exact attuned.around rfl rfl
  | pass ms => exact attuned.run ms

theorem undergoAll (attuned : r.Attuned known) {episodes : List Episode}
    (keep : ∀ episode ∈ episodes, episode.KeepsDefinitions) :
    (r.undergoAll episodes).Attuned (knownAfter known (r.edits episodes)) := by
  induction episodes generalizing r known with
  | nil => exact attuned
  | cons episode rest ih =>
      obtain ⟨here, later⟩ := List.forall_mem_cons.1 keep
      rw [edits, knownAfter_append]
      exact ih (attuned.undergo here) later

end Attuned

/-! ## The last edit decides -/

/-- **Edited triggers outlive their sensors.**  Through configurations, the end of all sensors,
whatever operations but new definitions, and whatever becomes of the files: each threshold that
the record of a live sensor configures has the trigger of the last edit that any sensor under
this path has accepted for its slot; where there was none, that of the last edit in the store as
it was opened; or else the configured one. -/
theorem edits_outlive_sensors (site : Site) (store : EditStore) (episodes : List Episode)
    (keep : ∀ episode ∈ episodes, episode.KeepsDefinitions) :
    let start := ofSite { site with store := some store }
    ∀ path entry, (start.undergoAll episodes).live[path]? = some entry →
      ∃ s, entry.live.sensor? = some s ∧
        ∀ configured ∈ entry.record.thresholds, ∃ slot, configured.slot? = some slot ∧
          s.thresholds.trigger? slot =
            some (((AcceptedEdit.last? path slot (start.edits episodes)).or
              (store.trigger? path slot)).getD configured.value) := by
  intro start path entry there
  have fresh : start.Attuned store.trigger? := by
    refine ⟨⟨store, rfl, fun _ _ => rfl⟩, fun other entry' found => ?_⟩
    have nobody : start.live[other]? = none := Std.TreeMap.getElem?_emptyc
    cases nobody.symm.trans found
  obtain ⟨s, present, -, triggers⟩ := (fresh.undergoAll keep).live path entry there
  exact ⟨s, present, triggers⟩

/-- A threshold that warns above 40. -/
def warningAbove40 : ThresholdRecord := ⟨none, 0, "greater than", 40, none⟩

/-- A sensor with one threshold. -/
def warnedRecord : SensorRecord := { namedRecord "Inlet" with thresholds := [warningAbove40] }

/-- A store with an edit of the threshold. -/
def sampleStore : EditStore :=
  ⟨"edits.json", TriggerEdits.empty.upsert "/inv/a" ⟨"", 0, "greater than", 30⟩⟩

/-- The sensor comes, its trigger is edited, all end, and it comes again. -/
def warnedEpisodes : List Episode :=
  [.apply (Std.TreeMap.ofList [("/inv/a", warnedRecord)]),
    .perform "/inv/a" (.setTrigger ⟨.warning, .high⟩ 50), .shutdown,
    .apply (Std.TreeMap.ofList [("/inv/a", warnedRecord)])]

theorem edits_outlive_sensors_sample :
    (∀ episode ∈ warnedEpisodes, episode.KeepsDefinitions) ∧
      let start := ofSite { Site.fresh with store := some sampleStore }
      (start.undergoAll warnedEpisodes).record? "/inv/a" = some warnedRecord ∧
        ∃ s, occupant (start.undergoAll warnedEpisodes).live "/inv/a" = some s ∧
          s.thresholds.trigger? ⟨.warning, .high⟩ = some 50 := by
  have keep : ∀ episode ∈ warnedEpisodes, episode.KeepsDefinitions := by
    simp [warnedEpisodes, Episode.KeepsDefinitions]
  refine ⟨keep, ?_⟩
  intro start
  have live : (start.undergoAll warnedEpisodes).record? "/inv/a" = some warnedRecord := by
    decide +kernel
  have edited : start.edits warnedEpisodes = [⟨"/inv/a", ⟨.warning, .high⟩, 50⟩] := by
    decide +kernel
  obtain ⟨entry, there, same⟩ := (record?_eq_some_iff ..).1 live
  obtain ⟨s, present, triggers⟩ :=
    edits_outlive_sensors .fresh sampleStore warnedEpisodes keep "/inv/a" entry there
  rw [same] at triggers
  obtain ⟨slot, named, trigger⟩ := triggers warningAbove40 (List.mem_singleton_self _)
  obtain rfl : ⟨.warning, .high⟩ = slot := Option.some.inj named
  rw [edited] at trigger
  exact ⟨live, s, (occupant_of_there there).trans present, trigger⟩

end Roster

end SensorMonitor
