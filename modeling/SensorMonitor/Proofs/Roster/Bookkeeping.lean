/-
# Proofs.Roster.Bookkeeping -- four views of one roster

What is live is known in four places: in the roster, by configuration path; on the bus, by
object path; in the directory, by name; and in the counts of each call.  They stay in step
(`views_in_step`) through configurations, the end of all sensors, and whatever the sensors
live through in between, as long as nobody else writes to the bus and the directory.

* `Books`: the bus and the directory are as the live sensors have it;
* `Spared`: what applying a configuration leaves alone.
-/
import SensorMonitor.Proofs.Roster.Counting
import SensorMonitor.Proofs.Roster.Living

namespace SensorMonitor.Roster

set_option autoImplicit false

open ObjectPath (escape)
open Function (update)

/-! ## The books -/

/-- The bus and the directory are as the live sensors have it, each of which has the key of its
record, and no two records share a name. -/
structure Books (r : Roster) : Prop where
  standing : Standing r.site.bus (occupant r.live)
  listed : Listed r.site.directory (occupant r.live)
  keyed : ∀ (path : String) (entry : RosterEntry), r.live[path]? = some entry →
    ∃ s, entry.live.sensor? = some s ∧ s.key = keyOfRecord entry.record
  distinct : ∀ (path path' : String) (entry entry' : RosterEntry), r.live[path]? = some entry →
    r.live[path']? = some entry' → escape entry.record.name = escape entry'.record.name →
    path = path'

theorem occupant_of_there {live : Std.TreeMap String RosterEntry} {path : String}
    {entry : RosterEntry} (there : live[path]? = some entry) :
    occupant live path = entry.live.sensor? := by
  rw [occupant, there]
  rfl

theorem occupant_of_absent {live : Std.TreeMap String RosterEntry} {path : String}
    (absent : live[path]? = none) : occupant live path = none := by
  rw [occupant, absent]
  rfl

theorem occupant_eq_some_iff {live : Std.TreeMap String RosterEntry} {path : String} {s : Sensor} :
    occupant live path = some s ↔
      ∃ entry, live[path]? = some entry ∧ entry.live.sensor? = some s :=
  Option.bind_eq_some_iff

namespace Books

variable {r : Roster}

/-- The books of a roster whose bus, directory and live sensors are the same. -/
theorem congr {r' : Roster} (books : r.Books) (bus : r'.site.bus = r.site.bus)
    (directory : r'.site.directory = r.site.directory) (live : r'.live = r.live) : r'.Books := by
  obtain ⟨standing, listed, keyed, distinct⟩ := books
  constructor
  · rwa [bus, live]
  · rwa [directory, live]
  · rwa [live]
  · rwa [live]

/-! ### Ending and making -/

theorem retire (books : r.Books) (path : String) : (r.retire path).Books := by
  cases there : r.live[path]? with
  | none =>
      have same : r.retire path = r := by rw [Roster.retire, there]
      rw [same]
      exact books
  | some entry =>
      obtain ⟨s, present, -⟩ := books.keyed path entry there
      have here : occupant r.live path = some s := (occupant_of_there there).trans present
      rw [retire_eq_of_some there present]
      refine ⟨?_, ?_, ?_, ?_⟩
      · rw [occupant_erase]
        exact books.standing.ends here
      · rw [occupant_erase]
        exact Listed.ends books.listed here
      · exact fun other entry' found =>
          books.keyed other entry' (getElem?_erase_eq_some_iff.1 found).2
      · exact fun other other' entry' entry'' found found' same =>
          books.distinct other other' entry' entry'' (getElem?_erase_eq_some_iff.1 found).2
            (getElem?_erase_eq_some_iff.1 found').2 same

/-- A name that no other record has is not listed. -/
theorem unlisted (books : r.Books) {path : String} {record : SensorRecord}
    (absent : r.live[path]? = none) (unheld : r.Unheld path record) {key : String}
    (here : keyOfRecord record = some key) : r.site.directory.lookup key = none := by
  have name : escape record.name = key := by
    rw [keyOfRecord] at here
    split at here
    · cases here
    · exact Option.some.inj here
  by_contra taken
  obtain ⟨other, left⟩ := (Covers.marked_iff books.listed key).1 (Option.isSome_iff_ne_none.2 taken)
  obtain ⟨s, present, held⟩ := Option.bind_eq_some_iff.1 left
  obtain ⟨entry, there, sensor⟩ := occupant_eq_some_iff.1 present
  obtain ⟨s', sensor', keyed⟩ := books.keyed other entry there
  obtain rfl : s = s' := Option.some.inj (sensor.symm.trans sensor')
  have apart : other ≠ path := by
    rintro rfl
    cases absent.symm.trans there
  refine unheld other apart entry.record ((record?_eq_some_iff ..).2 ⟨entry, there, rfl⟩) ?_
  rw [name]
  rw [keyed, keyOfRecord] at held
  split at held
  · cases held
  · exact Option.some.inj held

theorem put (books : r.Books) {path : String} (absent : r.live[path]? = none)
    (record : SensorRecord) : (r.put path record).Books := by
  simp only [Roster.put]
  cases made : r.make path record with
  | error failure => exact books
  | ok pair =>
      obtain ⟨live, after⟩ := pair
      obtain ⟨unheld, -, d, s, debuts⟩ := make_eq_ok made
      obtain rfl := debuts.site
      rw [holderOf?_eq_none_iff] at unheld
      have empty := occupant_of_absent absent
      have apart : ∀ (other : String) (entry : RosterEntry), path ≠ other →
          r.live[other]? = some entry → escape entry.record.name ≠ escape record.name :=
        fun other entry ne found =>
          unheld other ne.symm entry.record ((record?_eq_some_iff ..).2 ⟨entry, found, rfl⟩)
      refine ⟨?_, ?_, ?_, ?_⟩
      · rw [occupant_insert, debuts.sensor]
        exact books.standing.starts empty debuts.free debuts.registered
      · rw [occupant_insert, debuts.sensor]
        exact Listed.starts books.listed empty fun k here =>
          books.unlisted absent unheld (debuts.key.symm.trans here)
      · intro other entry found
        rcases getElem?_insert_eq_some_iff.1 found with ⟨rfl, rfl⟩ | ⟨-, found⟩
        · exact ⟨s, debuts.sensor, debuts.key⟩
        · exact books.keyed other entry found
      · intro other other' entry entry' found found' same
        rcases getElem?_insert_eq_some_iff.1 found with ⟨rfl, rfl⟩ | ⟨ne, old⟩ <;>
          rcases getElem?_insert_eq_some_iff.1 found' with ⟨rfl, rfl⟩ | ⟨ne', old'⟩
        · rfl
        · exact absurd same.symm (apart other' entry' ne' old')
        · exact absurd same (apart other entry ne old)
        · exact books.distinct other other' entry entry' old old' same

theorem bring (books : r.Books) (path : String) (record : SensorRecord) :
    (r.bring path record).Books := by
  simp only [Roster.bring]
  cases there : r.live[path]? with
  | none => exact books.put there record
  | some entry =>
      dsimp only
      split
      · exact books
      · exact (books.retire path).put ((getElem?_retire ..).trans (if_pos rfl)) record

theorem bringAll (books : r.Books) (entries : List (String × SensorRecord)) :
    (r.bringAll entries).Books := by
  induction entries generalizing r with
  | nil => exact books
  | cons e rest ih => exact ih (books.bring e.1 e.2)

theorem foldl_retire (books : r.Books) (paths : List String) :
    (paths.foldl Roster.retire r).Books := by
  induction paths generalizing r with
  | nil => exact books
  | cons path rest ih => exact ih (books.retire path)

theorem apply (books : r.Books) (conf : Configuration) : (r.apply conf).1.Books := by
  rw [apply_fst]
  exact (books.foldl_retire (r.goneFrom conf)).bringAll conf.toList

/-! ### Living -/

theorem lives (books : r.Books) {path : String} {entry : RosterEntry}
    (there : r.live[path]? = some entry) {live : LiveSensor} {site : Site}
    (lived : Lived r.site entry.live.sensor? live.sensor? site) :
    ({ r with
      site := site
      live := r.live.insert path { entry with live := live } } : Roster).Books := by
  have here := lived
  rw [← occupant_of_there there] at here
  have keeps : ∀ (other : String) (entry' : RosterEntry),
      (r.live.insert path { entry with live := live })[other]? = some entry' →
      ∃ old, r.live[other]? = some old ∧ old.record = entry'.record := by
    intro other entry' found
    rcases getElem?_insert_eq_some_iff.1 found with ⟨rfl, rfl⟩ | ⟨-, found⟩
    · exact ⟨entry, there, rfl⟩
    · exact ⟨entry', found, rfl⟩
  refine ⟨?_, ?_, ?_, ?_⟩
  · rw [occupant_insert]
    exact books.standing.goes here.went
  · rw [occupant_insert]
    exact Listed.goes books.listed here
  · intro other entry' found
    rcases getElem?_insert_eq_some_iff.1 found with ⟨rfl, rfl⟩ | ⟨-, found⟩
    · obtain ⟨s, present, key⟩ := books.keyed path entry there
      rw [present] at lived
      generalize live.sensor? = after at lived ⊢
      cases lived with
      | there contained => exact ⟨_, rfl, contained.key.trans key⟩
    · exact books.keyed other entry' found
  · intro other other' entry' entry'' found found' same
    obtain ⟨old, before, record⟩ := keeps other entry' found
    obtain ⟨old', before', record'⟩ := keeps other' entry'' found'
    rw [← record, ← record'] at same
    exact books.distinct other other' old old' before before' same

end Books

/-- The sensors live on: the books stay in order, and every record stays where it is. -/
structure LivesOn (r r' : Roster) : Prop where
  books : r.Books → r'.Books
  records : ∀ path, r'.record? path = r.record? path

namespace LivesOn

variable {r r' r'' : Roster}

theorem refl (r : Roster) : LivesOn r r := ⟨id, fun _ => rfl⟩

theorem trans (first : LivesOn r r') (second : LivesOn r' r'') : LivesOn r r'' :=
  ⟨second.books ∘ first.books, fun path => (second.records path).trans (first.records path)⟩

/-- The surroundings change, and so does the time. -/
theorem around (bus : r'.site.bus = r.site.bus) (directory : r'.site.directory = r.site.directory)
    (live : r'.live = r.live) : LivesOn r r' :=
  ⟨fun books => books.congr bus directory live, fun path => by rw [record?, live, record?]⟩

/-- One of the sensors lives on. -/
theorem of_lived {path : String} {entry : RosterEntry} (there : r.live[path]? = some entry)
    {live : LiveSensor} {site : Site}
    (lived : Lived r.site entry.live.sensor? live.sensor? site) :
    LivesOn r { r with site := site, live := r.live.insert path { entry with live := live } } := by
  refine ⟨fun books => books.lives there lived, fun other => ?_⟩
  rw [record?, getElem?_insert]
  split
  · next here =>
      subst here
      rw [record?, there]
      rfl
  · rfl

theorem perform (r : Roster) (path : String) {op : Sensor.Op} (keeps : ∀ key, op ≠ .attach key) :
    LivesOn r (r.perform path op).1 := by
  simp only [Roster.perform]
  cases there : r.live[path]? with
  | none => exact .refl r
  | some entry => exact .of_lived there (entry.live.lived_perform r.now r.site keeps)

/-- **Through all the time that passes the sensors live on.** -/
theorem run (r : Roster) (ms : Nat) : LivesOn r (r.run ms) :=
  run_invariant (P := LivesOn r) (fun _ livesOn => livesOn.trans (.around rfl rfl rfl))
    (fun livesOn there => livesOn.trans (.of_lived there (LiveSensor.lived_step _ _ _)))
    (.refl r) ms

end LivesOn

/-! ## What is left alone -/

/-- The live sensor under a path is left alone: it and its record are the same, and so are the
events at its object path and what is listed under its key. -/
structure Spared (path : String) (s : Sensor) (r r' : Roster) : Prop where
  live : r'.live[path]? = r.live[path]?
  events : r'.site.bus.eventsAt s.identity.path = r.site.bus.eventsAt s.identity.path
  listed : ∀ key, s.key = some key →
    r'.site.directory.lookup key = r.site.directory.lookup key

theorem Spared.refl (path : String) (s : Sensor) (r : Roster) : Spared path s r r :=
  ⟨rfl, rfl, fun _ _ => rfl⟩

theorem Spared.trans {path : String} {s : Sensor} {r r' r'' : Roster} (first : Spared path s r r')
    (second : Spared path s r' r'') : Spared path s r r'' :=
  ⟨second.live.trans first.live, second.events.trans first.events,
    fun key here => (second.listed key here).trans (first.listed key here)⟩

namespace Books

variable {r : Roster} {path other : String} {s : Sensor}

theorem spared_retire (books : r.Books) (here : occupant r.live path = some s)
    (apart : other ≠ path) : Spared path s r (r.retire other) := by
  cases there : r.live[other]? with
  | none =>
      have same : r.retire other = r := by rw [Roster.retire, there]
      rw [same]
      exact .refl path s r
  | some entry =>
      obtain ⟨t, present, -⟩ := books.keyed other entry there
      have here' : occupant r.live other = some t := (occupant_of_there there).trans present
      have known := books.standing.known other t here'
      have paths : t.identity.path ≠ s.identity.path := fun same =>
        apart (books.standing.covers.once other path t.identity.path
          (pathOf_eq_some_iff.2 ⟨t, here', rfl⟩) (pathOf_eq_some_iff.2 ⟨s, here, same.symm⟩))
      have keys : ∀ key, s.key = some key → t.key ≠ some key := fun key mine theirs =>
        apart (Covers.once books.listed other path key (by rw [keyOf, here']; exact theirs)
          (by rw [keyOf, here]; exact mine))
      rw [retire_eq_of_some there present]
      refine ⟨(getElem?_erase ..).trans (if_neg apart), ?_, fun key mine => ?_⟩
      · simp only [Site.retire, Site.bus_absorbAll, Sensor.announced_retire known, List.foldl_cons,
          List.foldl_nil]
        exact Bus.eventsAt_announce_of_ne paths
      · rw [Site.lookup_retire, if_neg (keys key mine)]

theorem spared_put (books : r.Books) (here : occupant r.live path = some s) (apart : other ≠ path)
    (absent : r.live[other]? = none) (record : SensorRecord) :
    Spared path s r (r.put other record) := by
  simp only [Roster.put]
  cases made : r.make other record with
  | error failure => exact .refl path s r
  | ok pair =>
      obtain ⟨live, after⟩ := pair
      obtain ⟨unheld, -, d, t, debuts⟩ := make_eq_ok made
      obtain rfl := debuts.site
      rw [holderOf?_eq_none_iff] at unheld
      have paths : t.identity.path ≠ s.identity.path := by
        intro same
        have free := debuts.free
        rw [same, books.standing.registered here] at free
        cases free
      have keys : ∀ k, s.key = some k → t.key ≠ some k := by
        intro k mine theirs
        have listed := (Covers.marked_iff books.listed k).2 ⟨path, by rw [keyOf, here]; exact mine⟩
        rw [books.unlisted absent unheld (debuts.key.symm.trans theirs)] at listed
        cases listed
      refine ⟨(getElem?_insert ..).trans (if_neg apart), ?_, fun k mine => ?_⟩
      · simp only [Site.bus_absorbAll, Sensor.announced_debut, List.foldl_cons, List.foldl_nil]
        exact Bus.eventsAt_announce_of_ne paths
      · rw [Site.lookup_debut, if_neg (keys k mine)]

/-- The sensor is still there after what spared it. -/
theorem occupant_of_spared {r' : Roster} (here : occupant r.live path = some s)
    (spared : Spared path s r r') : occupant r'.live path = some s := by
  rw [occupant, spared.live]
  exact here

theorem spared_bring (books : r.Books) (here : occupant r.live path = some s)
    (apart : other ≠ path) (record : SensorRecord) : Spared path s r (r.bring other record) := by
  simp only [Roster.bring]
  cases there : r.live[other]? with
  | none => exact books.spared_put here apart there record
  | some entry =>
      dsimp only
      split
      · exact .refl path s r
      · have retired := books.spared_retire here apart
        have absent : (r.retire other).live[other]? = none := (getElem?_retire ..).trans (if_pos rfl)
        exact retired.trans
          ((books.retire other).spared_put (occupant_of_spared here retired) apart absent record)

theorem spared_bringAll (books : r.Books) (here : occupant r.live path = some s)
    {entries : List (String × SensorRecord)} (apart : ∀ e ∈ entries, e.1 ≠ path) :
    Spared path s r (r.bringAll entries) := by
  induction entries generalizing r with
  | nil => exact .refl path s r
  | cons e rest ih =>
      obtain ⟨first, later⟩ := List.forall_mem_cons.1 apart
      have brought := books.spared_bring here first e.2
      exact brought.trans (ih (books.bring e.1 e.2) (occupant_of_spared here brought) later)

theorem spared_foldl_retire (books : r.Books) (here : occupant r.live path = some s)
    {paths : List String} (apart : ∀ other ∈ paths, other ≠ path) :
    Spared path s r (paths.foldl Roster.retire r) := by
  induction paths generalizing r with
  | nil => exact .refl path s r
  | cons other rest ih =>
      obtain ⟨first, later⟩ := List.forall_mem_cons.1 apart
      have retired := books.spared_retire here first
      exact retired.trans (ih (books.retire other) (occupant_of_spared here retired) later)

/-- **A configuration leaves alone each live sensor whose record is equal to its own.** -/
theorem spared_apply (books : r.Books) {entry : RosterEntry} {record : SensorRecord}
    {conf : Configuration} (there : r.live[path]? = some entry)
    (present : entry.live.sensor? = some s) (known : conf[path]? = some record)
    (same : (entry.record == record) = true) : Spared path s r (r.apply conf).1 := by
  have here : occupant r.live path = some s := (occupant_of_there there).trans present
  have gone : ∀ other ∈ r.goneFrom conf, other ≠ path := by
    rintro other member rfl
    have missing := (List.mem_filter.1 member).2
    rw [Std.TreeMap.contains_eq_isSome_getElem?, known] at missing
    cases missing
  -- what goes and what is brought before and after has other paths; its own record asks for nothing
  obtain ⟨before, after, split, earlier, later⟩ := exists_split known
  have discarded := books.spared_foldl_retire here gone
  have books₁ := books.foldl_retire (r.goneFrom conf)
  have here₁ := occupant_of_spared here discarded
  have brought := books₁.spared_bringAll here₁ earlier
  have books₂ := books₁.bringAll before
  have here₂ := occupant_of_spared here₁ brought
  have there₂ : ((r.discard conf).bringAll before).live[path]? = some entry :=
    brought.live.trans (discarded.live.trans there)
  have kept : ((r.discard conf).bringAll before).bring path record =
      (r.discard conf).bringAll before := by
    rw [Roster.bring, there₂]
    exact if_pos same
  rw [apply_fst, split, bringAll_append]
  change Spared path s r ((((r.discard conf).bringAll before).bring path record).bringAll after)
  rw [kept]
  exact (discarded.trans brought).trans (books₂.spared_bringAll here₂ later)

end Books

/-! ## Episodes -/

/-- What can happen to a roster: a call, an operation on one of its sensors, a change of power
and access or of the files, and the time that passes. -/
inductive Episode where
  | apply (conf : Configuration)
  | shutdown
  | perform (path : String) (op : Sensor.Op)
  | conditions (conditions : Conditions)
  | files (files : Files)
  | pass (ms : Nat)

/-- The roster after an episode. -/
def undergo (r : Roster) : Episode → Roster
  | .apply conf => (r.apply conf).1
  | .shutdown => r.shutdown
  | .perform path op => (r.perform path op).1
  | .conditions conditions => { r with site := { r.site with conditions := conditions } }
  | .files files => { r with site := { r.site with files := files } }
  | .pass ms => r.run ms

/-- The roster after one episode and another. -/
def undergoAll (r : Roster) (episodes : List Episode) : Roster := episodes.foldl undergo r

/-- The configuration that was applied last, where `before` was applied before. -/
def Episode.appliedAfter (before : Configuration) : Episode → Configuration
  | .apply conf => conf
  | _ => before

/-- The configuration that was applied last. -/
def lastApplied (episodes : List Episode) : Configuration :=
  episodes.foldl Episode.appliedAfter ∅

/-- The episode gives no sensor a key of another's choice. -/
def Episode.Unshared : Episode → Prop
  | .perform _ op => ∀ key, op ≠ .attach key
  | _ => True

/-- Each live record is one of a configuration. -/
def Within (r : Roster) (conf : Configuration) : Prop :=
  ∀ path old, r.record? path = some old →
    ∃ record, conf[path]? = some record ∧ SameRecord old record

theorem record?_shutdown (r : Roster) (path : String) : r.shutdown.record? path = none := by
  rw [record?, shutdown, getElem?_foldl_retire]
  split
  · rfl
  · next absent =>
      rw [Std.TreeMap.mem_keys] at absent
      rw [Std.TreeMap.getElem?_eq_none absent]
      rfl

section Episodes

variable {r : Roster}

theorem LivesOn.within {r' : Roster} (livesOn : LivesOn r r') {conf : Configuration}
    (within : r.Within conf) : r'.Within conf :=
  fun path old there => within path old ((livesOn.records path).symm.trans there)

theorem undergo_keeps (books : r.Books) {conf : Configuration} (within : r.Within conf)
    {episode : Episode} (unshared : episode.Unshared) :
    (r.undergo episode).Books ∧ (r.undergo episode).Within (episode.appliedAfter conf) := by
  have lives : ∀ {r'}, LivesOn r r' → r'.Books ∧ r'.Within conf :=
    fun livesOn => ⟨livesOn.books books, livesOn.within within⟩
  cases episode with
  | apply conf' =>
      refine ⟨books.apply conf', fun path old live => ?_⟩
      obtain ⟨entry, there, rfl⟩ := (record?_eq_some_iff ..).1 live
      exact sameRecord_apply there
  | shutdown =>
      refine ⟨books.foldl_retire r.live.keys, fun path old live => ?_⟩
      cases (r.record?_shutdown path).symm.trans live
  | perform path op => exact lives (.perform r path unshared)
  | conditions conditions => exact lives (.around rfl rfl rfl)
  | files files => exact lives (.around rfl rfl rfl)
  | pass ms => exact lives (.run r ms)

theorem undergoAll_keeps (books : r.Books) {conf : Configuration} (within : r.Within conf)
    {episodes : List Episode} (unshared : ∀ episode ∈ episodes, episode.Unshared) :
    (r.undergoAll episodes).Books ∧
      (r.undergoAll episodes).Within (episodes.foldl Episode.appliedAfter conf) := by
  induction episodes generalizing r conf with
  | nil => exact ⟨books, within⟩
  | cons episode rest ih =>
      obtain ⟨here, later⟩ := List.forall_mem_cons.1 unshared
      obtain ⟨books', within'⟩ := undergo_keeps books within here
      exact ih books' within' later

end Episodes

theorem books_quiet (site : Site) : (ofSite (quiet site)).Books := by
  have nobody : ∀ path, (ofSite (quiet site)).live[path]? = none :=
    fun path => Std.TreeMap.getElem?_emptyc
  have nowhere : ∀ path, occupant (ofSite (quiet site)).live path = none :=
    fun path => occupant_of_absent (nobody path)
  refine ⟨.of_nobody nowhere, Listed.of_nobody nowhere, ?_, ?_⟩
  · intro path entry there
    cases (nobody path).symm.trans there
  · intro path path' entry entry' there
    cases (nobody path).symm.trans there

/-! ## Four views -/

/-- The roster, the bus and the directory are in step with each other and with a
configuration. -/
structure InStep (r : Roster) (conf : Configuration) : Prop where
  /-- Each live path is in the configuration, with an equal record. -/
  records : ∀ (path : String) (entry : RosterEntry), r.live[path]? = some entry →
    ∃ record, conf[path]? = some record ∧ SameRecord entry.record record
  /-- The escaped names of live records differ. -/
  names : ∀ (path path' : String) (entry entry' : RosterEntry), r.live[path]? = some entry →
    r.live[path']? = some entry' → escape entry.record.name = escape entry'.record.name →
    path = path'
  /-- The registered object paths are those of the live sensors. -/
  registered : ∀ at_, r.site.bus.isRegistered at_ = true ↔
    ∃ (path : String) (entry : RosterEntry) (s : Sensor), r.live[path]? = some entry ∧
      entry.live.sensor? = some s ∧ s.identity.path = at_
  /-- No two live sensors share an object path. -/
  apart : ∀ path path' s s', occupant r.live path = some s → occupant r.live path' = some s' →
    s.identity.path = s'.identity.path → path = path'
  /-- Each object path is registered once. -/
  once : ∀ at_, (r.site.bus.eventsAt at_).countP Event.isRegistration =
    (r.site.bus.eventsAt at_).countP Event.isRemoval + (r.site.bus.isRegistered at_).toNat
  /-- The keys of the directory are the escaped names of the live records that are read. -/
  keys : ∀ key, key ∈ r.site.directory.keys ↔
    ∃ (path : String) (entry : RosterEntry), r.live[path]? = some entry ∧
      entry.record.isExternal = false ∧ escape entry.record.name = key

/-- A call that applies a configuration counts right, and spares what has not changed. -/
structure Accounted (r : Roster) (conf : Configuration) (stats : ApplyStats) : Prop where
  seen : stats.created + stats.replaced + stats.unchanged + stats.failed = conf.size
  removed : stats.removed = (r.live.keys.filter fun path => !conf.contains path).length
  alive : (r.apply conf).1.live.size = stats.created + stats.replaced + stats.unchanged
  spared : ∀ (path : String) (entry : RosterEntry) (record : SensorRecord),
    r.live[path]? = some entry → conf[path]? = some record → (entry.record == record) = true →
    ∃ s, entry.live.sensor? = some s ∧ Spared path s r (r.apply conf).1

theorem Books.keys_iff {r : Roster} (books : r.Books) (key : String) :
    key ∈ r.site.directory.keys ↔ ∃ (path : String) (entry : RosterEntry),
      r.live[path]? = some entry ∧ entry.record.isExternal = false ∧
        escape entry.record.name = key := by
  rw [Directory.keys, Std.TreeMap.mem_keys, Std.TreeMap.mem_iff_isSome_getElem?]
  refine (Covers.marked_iff books.listed key).trans (exists_congr fun path => ?_)
  constructor
  · intro left
    obtain ⟨s, present, here⟩ := Option.bind_eq_some_iff.1 left
    obtain ⟨entry, there, sensor⟩ := occupant_eq_some_iff.1 present
    obtain ⟨s', sensor', keyed⟩ := books.keyed path entry there
    obtain rfl : s = s' := Option.some.inj (sensor.symm.trans sensor')
    rw [here, keyOfRecord] at keyed
    split at keyed
    · cases keyed
    · next read => exact ⟨entry, there, by simpa using read, (Option.some.inj keyed).symm⟩
  · rintro ⟨entry, there, read, rfl⟩
    obtain ⟨s, sensor, keyed⟩ := books.keyed path entry there
    rw [keyOf, occupant_of_there there, sensor, Option.bind_some, keyed, keyOfRecord, read]
    rfl

theorem Books.inStep {r : Roster} (books : r.Books) {conf : Configuration}
    (within : r.Within conf) : r.InStep conf where
  records path entry there := within path entry.record ((record?_eq_some_iff ..).2 ⟨entry, there, rfl⟩)
  names := books.distinct
  registered at_ := by
    rw [books.standing.covers.marked_iff]
    simp only [pathOf_eq_some_iff, occupant_eq_some_iff]
    constructor
    · rintro ⟨path, s, ⟨entry, there, sensor⟩, here⟩
      exact ⟨path, entry, s, there, sensor, here⟩
    · rintro ⟨path, entry, s, there, sensor, here⟩
      exact ⟨path, s, ⟨entry, there, sensor⟩, here⟩
  apart path path' s s' there there' same :=
    books.standing.covers.once path path' s.identity.path
      (pathOf_eq_some_iff.2 ⟨s, there, rfl⟩) (pathOf_eq_some_iff.2 ⟨s', there', same.symm⟩)
  once at_ := (books.standing.bracketed at_).registrations
  keys := books.keys_iff

theorem Books.accounted {r : Roster} (books : r.Books) (conf : Configuration) :
    r.Accounted conf (r.apply conf).2 := by
  obtain ⟨seen, removed, alive⟩ := counts_apply r conf
  refine ⟨seen, removed, alive, fun path entry record there known same => ?_⟩
  obtain ⟨s, sensor, -⟩ := books.keyed path entry there
  exact ⟨s, sensor, books.spared_apply there sensor known same⟩

/-- **Four views of one roster stay in step.**  After whatever configurations, and whatever the
sensors lived through, as long as nobody else writes to the bus and the directory: what is live
has the records of the last configuration, under names of their own; the bus and the directory
hold just what is live; and each call counts right and spares what has not changed. -/
theorem views_in_step (site : Site) (episodes : List Episode)
    (unshared : ∀ episode ∈ episodes, episode.Unshared) :
    let r := (ofSite (quiet site)).undergoAll episodes
    r.InStep (lastApplied episodes) ∧ ∀ conf, r.Accounted conf (r.apply conf).2 := by
  intro r
  have within : (ofSite (quiet site)).Within ∅ := by
    intro path old there
    cases (record?_ofSite (quiet site) path).symm.trans there
  obtain ⟨books, within⟩ := undergoAll_keeps (books_quiet site) within unshared
  exact ⟨books.inStep within, books.accounted⟩

/-- Two sensors come, one is written, all end and the two come again. -/
def sampleEpisodes : List Episode :=
  [.apply (namesAt "Inlet" "Outlet"), .perform "/inv/a" (.write 20), .shutdown,
    .apply (namesAt "Inlet" "Outlet")]

theorem views_in_step_sample :
    (∀ episode ∈ sampleEpisodes, episode.Unshared) ∧
      let r := (ofSite (quiet .fresh)).undergoAll sampleEpisodes
      r.live.size = 2 ∧ r.InStep (namesAt "Inlet" "Outlet") ∧
        r.Accounted (namesAt "Inlet" "Vent") (r.apply (namesAt "Inlet" "Vent")).2 := by
  have unshared : ∀ episode ∈ sampleEpisodes, episode.Unshared := by
    simp [sampleEpisodes, Episode.Unshared]
  obtain ⟨inStep, accounted⟩ := views_in_step .fresh sampleEpisodes unshared
  exact ⟨unshared, by decide +kernel, inStep, accounted _⟩

end SensorMonitor.Roster
