/-
# Proofs.Roster.Soundness -- what is always true of the live sensors

A roster that started on a quiet site is sound (`Sound`): every live sensor is there and is
registered at the path of its name, the registered paths are those of the live sensors, no
two of them share a name, and each was made of a record that is fit.  Bringing one path in
line with a record keeps that, and `bring_spec` says what is live afterwards: the old
record if it is equal, else the new one if its name is not held and it is fit.
-/
import SensorMonitor.Proofs.Roster.Making

namespace SensorMonitor.Roster

set_option autoImplicit false

open ObjectPath (StandsFor escape escape_eq_of_standsFor)

/-- The record of the live sensor under a path. -/
def record? (r : Roster) (path : String) : Option SensorRecord := r.live[path]?.map (·.record)

/-- What is true of the live sensors at any time. -/
structure Sound (r : Roster) : Prop where
  present : ∀ (path : String) (entry : RosterEntry), r.live[path]? = some entry →
    ∃ s, entry.live.sensor? = some s ∧ StandsFor s.identity.path entry.record.name ∧
      s.registered = true
  registered : ∀ at_ : String, r.site.bus.isRegistered at_ = true ↔
    ∃ (path : String) (entry : RosterEntry) (s : Sensor),
      r.live[path]? = some entry ∧ entry.live.sensor? = some s ∧ s.identity.path = at_
  distinct : ∀ (path path' : String) (entry entry' : RosterEntry), r.live[path]? = some entry →
    r.live[path']? = some entry' → escape entry.record.name = escape entry'.record.name →
    path = path'
  fit : ∀ (path : String) (entry : RosterEntry), r.live[path]? = some entry →
    (sensorOf r.site path entry.record).isOk = true

theorem getElem?_erase (live : Std.TreeMap String RosterEntry) (path other : String) :
    (live.erase path)[other]? = if path = other then none else live[other]? := by
  rw [Std.TreeMap.getElem?_erase]
  simp only [Std.LawfulEqCmp.compare_eq_iff_eq]

theorem getElem?_insert (live : Std.TreeMap String RosterEntry) (path other : String)
    (entry : RosterEntry) :
    (live.insert path entry)[other]? = if path = other then some entry else live[other]? := by
  rw [Std.TreeMap.getElem?_insert]
  simp only [Std.LawfulEqCmp.compare_eq_iff_eq]

theorem getElem?_erase_eq_some_iff {live : Std.TreeMap String RosterEntry} {path other : String}
    {entry : RosterEntry} : (live.erase path)[other]? = some entry ↔
      path ≠ other ∧ live[other]? = some entry := by
  rw [getElem?_erase]
  split
  · next same => simp [same]
  · next apart => simp [apart]

theorem getElem?_insert_eq_some_iff {live : Std.TreeMap String RosterEntry}
    {path other : String} {new entry : RosterEntry} : (live.insert path new)[other]? = some entry ↔
      path = other ∧ new = entry ∨ path ≠ other ∧ live[other]? = some entry := by
  rw [getElem?_insert]
  split
  · next same => simp [same]
  · next apart => simp [apart]

theorem record?_eq_some_iff (r : Roster) (path : String) (record : SensorRecord) :
    r.record? path = some record ↔ ∃ entry, r.live[path]? = some entry ∧ entry.record = record := by
  simp only [record?]
  exact Option.map_eq_some_iff

theorem record?_eq_none_iff (r : Roster) (path : String) :
    r.record? path = none ↔ r.live[path]? = none := by
  simp only [record?]
  exact Option.map_eq_none_iff

/-- Of the site only the store matters to what is made of a record. -/
theorem sensorOf_congr {site site' : Site} (same : site.store = site'.store) (path : String)
    (record : SensorRecord) : sensorOf site path record = sensorOf site' path record := by
  simp only [sensorOf, definitionOf]
  rw [same]

/-- No other live sensor has the name. -/
def Unheld (r : Roster) (path : String) (record : SensorRecord) : Prop :=
  ∀ other ≠ path, ∀ old, r.record? other = some old → escape old.name ≠ escape record.name

theorem holderOf?_eq_none_iff (r : Roster) (path : String) (record : SensorRecord) :
    r.holderOf? path record.name = none ↔ r.Unheld path record := by
  simp only [holderOf?, Unheld]
  simp only [Option.map_eq_none_iff, List.find?_eq_none, Bool.and_eq_true, decide_eq_true_eq,
    not_and, Prod.forall, Std.TreeMap.mem_toList_iff_getElem?_eq_some, record?_eq_some_iff]
  constructor
  · rintro unheld other apart old ⟨entry, present, rfl⟩
    exact unheld other entry present apart
  · intro unheld other entry present apart
    exact unheld other apart entry.record ⟨entry, present, rfl⟩

/-! ## Ending a live sensor -/

/-- Ending the live sensor under a path: what is left. -/
theorem retire_eq_of_some {r : Roster} {path : String} {entry : RosterEntry} {s : Sensor}
    (there : r.live[path]? = some entry) (present : entry.live.sensor? = some s) :
    r.retire path = { r with site := r.site.retire s, live := r.live.erase path } := by
  simp only [retire, LiveSensor.retire]
  rw [there]
  dsimp only
  rw [present]

theorem record?_retire (r : Roster) (path other : String) :
    (r.retire path).record? other = if path = other then none else r.record? other := by
  simp only [retire]
  cases there : r.live[path]? with
  | none =>
      dsimp only
      by_cases here : path = other
      · subst here
        rw [if_pos rfl, record?, there]
        rfl
      · rw [if_neg here]
  | some entry =>
      simp only [record?]
      rw [getElem?_erase]
      split <;> rfl

theorem Sound.store_retire {r : Roster} (sound : r.Sound) (path : String) :
    (r.retire path).site.store = r.site.store := by
  cases there : r.live[path]? with
  | none =>
      simp only [retire]
      rw [there]
  | some entry =>
      obtain ⟨s, present, -⟩ := sound.present path entry there
      rw [retire_eq_of_some there present]
      exact r.site.store_retire s

/-- Live sensors at one object path are under one path. -/
theorem Sound.path_eq {r : Roster} (sound : r.Sound) {path path' : String}
    {entry entry' : RosterEntry} {s s' : Sensor} (there : r.live[path]? = some entry)
    (there' : r.live[path']? = some entry') (present : entry.live.sensor? = some s)
    (present' : entry'.live.sensor? = some s') (same : s.identity.path = s'.identity.path) :
    path = path' := by
  obtain ⟨t, found, stands, -⟩ := sound.present path entry there
  obtain ⟨t', found', stands', -⟩ := sound.present path' entry' there'
  rw [present] at found
  rw [present'] at found'
  cases found
  cases found'
  exact sound.distinct path path' entry entry' there there'
    (escape_eq_of_standsFor (same ▸ stands) stands')

theorem Sound.registered_retire {r : Roster} (sound : r.Sound) {path : String}
    {entry : RosterEntry} {s : Sensor} (there : r.live[path]? = some entry)
    (present : entry.live.sensor? = some s) (at_ : String) :
    (r.site.retire s).bus.isRegistered at_ = true ↔
      ∃ (other : String) (entry' : RosterEntry) (s' : Sensor),
        (r.live.erase path)[other]? = some entry' ∧ entry'.live.sensor? = some s' ∧
          s'.identity.path = at_ := by
  obtain ⟨t, found, -, registered⟩ := sound.present path entry there
  obtain rfl : s = t := Option.some.inj (present.symm.trans found)
  rw [Site.isRegistered_retire _ registered, Bool.and_eq_true, Bool.not_eq_true',
    decide_eq_false_iff_not, sound.registered]
  simp only [getElem?_erase_eq_some_iff]
  constructor
  · rintro ⟨apart, other, entry', s', there', present', same⟩
    refine ⟨other, entry', s', ⟨?_, there'⟩, present', same⟩
    rintro rfl
    rw [there] at there'
    cases there'
    rw [present] at present'
    cases present'
    exact apart same
  · rintro ⟨other, entry', s', ⟨apart, there'⟩, present', rfl⟩
    exact ⟨fun same => apart (sound.path_eq there there' present present' same), other, entry', s',
      there', present', rfl⟩

/-- **Ending a live sensor keeps a roster sound.** -/
theorem Sound.retire {r : Roster} (sound : r.Sound) (path : String) : (r.retire path).Sound := by
  cases there : r.live[path]? with
  | none =>
      simp only [Roster.retire]
      rw [there]
      exact sound
  | some entry =>
      obtain ⟨s, present, -⟩ := sound.present path entry there
      rw [retire_eq_of_some there present]
      refine ⟨?_, sound.registered_retire there present, ?_, ?_⟩
      · intro other entry' found
        exact sound.present other entry' (getElem?_erase_eq_some_iff.1 found).2
      · intro other other' entry' entry'' found found' same
        exact sound.distinct other other' entry' entry'' (getElem?_erase_eq_some_iff.1 found).2
          (getElem?_erase_eq_some_iff.1 found').2 same
      · intro other entry' found
        have same := sensorOf_congr (r.site.store_retire s) other entry'.record
        exact same ▸ sound.fit other entry' (getElem?_erase_eq_some_iff.1 found).2

/-! ## Making one in its place -/

/-- Makes the live sensor of a record if that succeeds. -/
def put (r : Roster) (path : String) (record : SensorRecord) : Roster :=
  match r.make path record with
  | .ok (live, site) => { r with site := site, live := r.live.insert path ⟨record, live⟩ }
  | .error _ => r

/-- The record is fit to make a sensor of. -/
def Fit (r : Roster) (path : String) (record : SensorRecord) : Prop :=
  (sensorOf r.site path record).isOk = true

theorem Sound.registered_put {r : Roster} (sound : r.Sound) {path : String}
    (absent : r.live[path]? = none) {entry : RosterEntry} {s : Sensor} {after : Site}
    (present : entry.live.sensor? = some s)
    (registered : ∀ at_, after.bus.isRegistered at_ =
      (decide (s.identity.path = at_) || r.site.bus.isRegistered at_)) (at_ : String) :
    after.bus.isRegistered at_ = true ↔
      ∃ (other : String) (entry' : RosterEntry) (s' : Sensor),
        (r.live.insert path entry)[other]? = some entry' ∧ entry'.live.sensor? = some s' ∧
          s'.identity.path = at_ := by
  rw [registered, Bool.or_eq_true, decide_eq_true_eq, sound.registered]
  simp only [getElem?_insert_eq_some_iff]
  constructor
  · rintro (same | ⟨other, entry', s', found, present', same⟩)
    · exact ⟨path, entry, s, Or.inl ⟨rfl, rfl⟩, present, same⟩
    · refine ⟨other, entry', s', Or.inr ⟨?_, found⟩, present', same⟩
      rintro rfl
      rw [absent] at found
      cases found
  · rintro ⟨other, entry', s', ⟨rfl, rfl⟩ | ⟨-, found⟩, present', same⟩
    · rw [present] at present'
      cases present'
      exact Or.inl same
    · exact Or.inr ⟨other, entry', s', found, present', same⟩

/-- **Making a live sensor keeps a roster sound.** -/
theorem Sound.put {r : Roster} (sound : r.Sound) {path : String} (absent : r.live[path]? = none)
    (record : SensorRecord) : (r.put path record).Sound := by
  simp only [Roster.put]
  cases made : r.make path record with
  | error failure => exact sound
  | ok pair =>
      obtain ⟨live, after⟩ := pair
      obtain ⟨unheld, fit, d, s, debuts⟩ := make_eq_ok made
      rw [holderOf?_eq_none_iff] at unheld
      have apart : ∀ (other : String) (entry : RosterEntry), path ≠ other →
          r.live[other]? = some entry → escape entry.record.name ≠ escape record.name :=
        fun other entry ne found =>
          unheld other ne.symm entry.record ((record?_eq_some_iff ..).2 ⟨entry, found, rfl⟩)
      refine ⟨?_, sound.registered_put absent debuts.sensor debuts.isRegistered, ?_, ?_⟩
      · intro other entry found
        rcases getElem?_insert_eq_some_iff.1 found with ⟨rfl, rfl⟩ | ⟨-, found⟩
        · exact ⟨s, debuts.sensor, debuts.standsFor, debuts.registered⟩
        · exact sound.present other entry found
      · intro other other' entry entry' found found' same
        rcases getElem?_insert_eq_some_iff.1 found with ⟨rfl, rfl⟩ | ⟨ne, old⟩
        · rcases getElem?_insert_eq_some_iff.1 found' with ⟨rfl, rfl⟩ | ⟨ne', old'⟩
          · rfl
          · exact absurd same.symm (apart other' entry' ne' old')
        · rcases getElem?_insert_eq_some_iff.1 found' with ⟨rfl, rfl⟩ | ⟨ne', old'⟩
          · exact absurd same (apart other entry ne old)
          · exact sound.distinct other other' entry entry' old old' same
      · intro other entry found
        rcases getElem?_insert_eq_some_iff.1 found with ⟨rfl, rfl⟩ | ⟨-, found⟩
        · exact (sensorOf_congr debuts.store path record).symm ▸ fit
        · exact (sensorOf_congr debuts.store other entry.record).symm ▸ sound.fit other entry found

theorem store_put (r : Roster) (path : String) (record : SensorRecord) :
    (r.put path record).site.store = r.site.store := by
  simp only [put]
  cases made : r.make path record with
  | error failure => rfl
  | ok pair =>
      obtain ⟨-, -, d, s, debuts⟩ := make_eq_ok made
      exact debuts.store

theorem record?_put_of_ne (r : Roster) {path other : String} (apart : path ≠ other)
    (record : SensorRecord) : (r.put path record).record? other = r.record? other := by
  simp only [put]
  cases r.make path record with
  | error failure => rfl
  | ok pair =>
      simp only [record?]
      rw [getElem?_insert, if_neg apart]

/-- **A live sensor is made where the name is not held and the record is fit.** -/
theorem Sound.record?_put {r : Roster} (sound : r.Sound) {path : String}
    (absent : r.live[path]? = none) (record : SensorRecord) :
    ((r.Unheld path record ∧ r.Fit path record) ∧
        (r.put path record).record? path = some record) ∨
      (¬ (r.Unheld path record ∧ r.Fit path record) ∧ (r.put path record).record? path = none) := by
  simp only [Roster.put]
  cases made : r.make path record with
  | error failure =>
      have refused : ¬ (r.Unheld path record ∧ r.Fit path record) := by
        rintro ⟨unheld, fit⟩
        have free : ∀ p, StandsFor p record.name → r.site.bus.isRegistered p = false := by
          intro p stands
          by_contra taken
          obtain ⟨other, entry, s, found, present, rfl⟩ :=
            (sound.registered p).1 (Bool.of_not_eq_false taken)
          obtain ⟨s', present', stands', -⟩ := sound.present other entry found
          rw [present] at present'
          cases present'
          have same := escape_eq_of_standsFor stands' stands
          refine unheld other ?_ entry.record ((record?_eq_some_iff ..).2 ⟨entry, found, rfl⟩) same
          rintro rfl
          rw [absent] at found
          cases found
        have ok := make_isOk ((holderOf?_eq_none_iff r path record).2 unheld) fit free
        rw [made] at ok
        cases ok
      exact Or.inr ⟨refused, (record?_eq_none_iff r path).2 absent⟩
  | ok pair =>
      obtain ⟨unheld, fit, -⟩ := make_eq_ok made
      refine Or.inl ⟨⟨(holderOf?_eq_none_iff r path record).1 unheld, fit⟩, ?_⟩
      simp only [record?]
      rw [getElem?_insert, if_pos rfl]
      rfl

/-! ## One path -/

/-- Brings one path in line with its record. -/
def bring (r : Roster) (path : String) (record : SensorRecord) : Roster :=
  match r.live[path]? with
  | none => r.put path record
  | some entry => if entry.record == record then r else (r.retire path).put path record

/-- What is counted does not matter to what is done. -/
theorem applyRecord_fst (r : Roster) (stats : ApplyStats) (path : String) (record : SensorRecord) :
    (r.applyRecord stats path record).1 = r.bring path record := by
  have installed : ∀ (r : Roster) (stats made : ApplyStats),
      (r.install stats made path record).1 = r.put path record := by
    intro r stats made
    simp only [install, put]
    cases r.make path record <;> rfl
  simp only [applyRecord, bring]
  cases r.live[path]? with
  | none => exact installed ..
  | some entry =>
      dsimp only
      split
      · rfl
      · exact installed ..

/-- What one path was brought to: the old record stays if it is equal; else the new one
is live just where its name is not held and it is fit. -/
structure Brought (r : Roster) (path : String) (record : SensorRecord) (r' : Roster) : Prop where
  sound : r'.Sound
  store : r'.site.store = r.site.store
  elsewhere : ∀ other, path ≠ other → r'.record? other = r.record? other
  here : (∃ old, r.record? path = some old ∧ (old == record) = true ∧ r'.record? path = some old) ∨
    (∀ old, r.record? path = some old → (old == record) = false) ∧
      (((r.Unheld path record ∧ r.Fit path record) ∧ r'.record? path = some record) ∨
        (¬ (r.Unheld path record ∧ r.Fit path record) ∧ r'.record? path = none))

/-- **Bringing a path in line with its record.** -/
theorem bring_spec {r : Roster} (sound : r.Sound) (path : String) (record : SensorRecord) :
    Brought r path record (r.bring path record) := by
  simp only [bring]
  cases there : r.live[path]? with
  | none =>
      have absent := (record?_eq_none_iff r path).2 there
      refine ⟨sound.put there record, store_put r path record, ?_, Or.inr ⟨?_, ?_⟩⟩
      · intro other apart
        exact r.record?_put_of_ne apart record
      · intro old live
        rw [absent] at live
        cases live
      · exact sound.record?_put there record
  | some entry =>
      have old := (record?_eq_some_iff r path entry.record).2 ⟨entry, there, rfl⟩
      dsimp only
      split
      · next same => exact ⟨sound, rfl, fun _ _ => rfl, Or.inl ⟨entry.record, old, same, old⟩⟩
      · next differs =>
          have sound' := sound.retire path
          have gone : (r.retire path).record? path = none := by rw [record?_retire, if_pos rfl]
          have absent := (record?_eq_none_iff ..).1 gone
          have left : ∀ other, path ≠ other → (r.retire path).record? other = r.record? other := by
            intro other apart
            rw [record?_retire, if_neg apart]
          have unheld : (r.retire path).Unheld path record ↔ r.Unheld path record :=
            forall₂_congr fun other apart => by rw [left other (Ne.symm apart)]
          have fit : (r.retire path).Fit path record ↔ r.Fit path record := by
            simp only [Fit]
            rw [sensorOf_congr (sound.store_retire path)]
          refine ⟨sound'.put absent record, ?_, ?_, Or.inr ⟨?_, ?_⟩⟩
          · exact (store_put _ path record).trans (sound.store_retire path)
          · intro other apart
            rw [record?_put_of_ne _ apart, left other apart]
          · rw [old]
            rintro _ ⟨⟩
            simpa using differs
          · rw [← unheld, ← fit]
            exact sound'.record?_put absent record

end SensorMonitor.Roster
