/-
# Proofs.Roster.Reload -- what a configuration comes to, and when history matters

A fresh roster brings to life, of the records with one escaped name, the first in the
order of paths that is fit (`First`, `record?_bringAll_fresh`).  A roster that has lived
does so too, except where a live sensor further on holds the name of such a record: its
own record is looked at later, but its name is taken until then.  Such a sensor is an
obstruction, and without one, and only without one, a reload leaves live what a fresh
start does (`reload_iff_unobstructed`).

* `Sound.apply`: applying a configuration keeps a roster sound;
* `reload_iff_unobstructed`: what is live after a reload;
* `reload_is_obstructed`: two configurations where the first of two records with one name
  is left out.
-/
import SensorMonitor.Proofs.Roster.Soundness

namespace SensorMonitor.Roster

set_option autoImplicit false

open ObjectPath (escape)

/-! ## Records one after another -/

/-- Brings paths in line with their records, one after another. -/
def bringAll (r : Roster) (entries : List (String × SensorRecord)) : Roster :=
  entries.foldl (fun r e => r.bring e.1 e.2) r

/-- Ends the live sensors that a configuration does not have. -/
def discard (r : Roster) (c : Configuration) : Roster := (r.goneFrom c).foldl Roster.retire r

theorem apply_fst (r : Roster) (c : Configuration) :
    (r.apply c).1 = (r.discard c).bringAll c.toList := by
  simp only [apply, bringAll]
  change (c.toList.foldl _ (r.discard c, _)).1 = _
  generalize (⟨0, 0, (r.goneFrom c).length, 0, 0⟩ : ApplyStats) = stats
  generalize r.discard c = kept
  induction c.toList generalizing kept stats with
  | nil => rfl
  | cons e rest ih =>
      rw [List.foldl_cons, List.foldl_cons, ← applyRecord_fst kept stats e.1 e.2]
      exact ih ..

theorem bringAll_append (r : Roster) (before after : List (String × SensorRecord)) :
    r.bringAll (before ++ after) = (r.bringAll before).bringAll after :=
  List.foldl_append

/-- What records do to the roster, whatever they are. -/
structure Kept (r r' : Roster) : Prop where
  sound : r'.Sound
  store : r'.site.store = r.site.store

theorem Sound.bringAll {r : Roster} (sound : r.Sound) (entries : List (String × SensorRecord)) :
    Kept r (r.bringAll entries) := by
  induction entries generalizing r with
  | nil => exact ⟨sound, rfl⟩
  | cons e rest ih =>
      have brought := bring_spec sound e.1 e.2
      have later := ih brought.sound
      exact ⟨later.sound, later.store.trans brought.store⟩

/-- Paths that are not mentioned stay as they are. -/
theorem Sound.record?_bringAll {r : Roster} (sound : r.Sound)
    {entries : List (String × SensorRecord)} {path : String}
    (absent : ∀ e ∈ entries, e.1 ≠ path) : (r.bringAll entries).record? path = r.record? path := by
  induction entries generalizing r with
  | nil => rfl
  | cons e rest ih =>
      obtain ⟨apart, later⟩ := List.forall_mem_cons.1 absent
      have brought := bring_spec sound e.1 e.2
      exact (ih brought.sound later).trans (brought.elsewhere path apart)

theorem Kept.fit_iff {r r' : Roster} (kept : Kept r r') (path : String) (record : SensorRecord) :
    r'.Fit path record ↔ r.Fit path record := by
  simp only [Fit]
  rw [sensorOf_congr kept.store]

theorem Sound.discard {r : Roster} (sound : r.Sound) (c : Configuration) :
    Kept r (r.discard c) ∧ ∀ path, (r.discard c).record? path =
      if c.contains path then r.record? path else none := by
  have each : ∀ (paths : List String) (r : Roster), r.Sound →
      Kept r (paths.foldl Roster.retire r) ∧ ∀ path, (paths.foldl Roster.retire r).record? path =
        if path ∈ paths then none else r.record? path := by
    intro paths
    induction paths with
    | nil => exact fun r sound => ⟨⟨sound, rfl⟩, fun path => (if_neg List.not_mem_nil).symm⟩
    | cons first rest ih =>
        intro r sound
        obtain ⟨kept, left⟩ := ih (r.retire first) (sound.retire first)
        refine ⟨⟨kept.sound, kept.store.trans (sound.store_retire first)⟩, ?_⟩
        intro path
        rw [List.foldl_cons, left, record?_retire]
        by_cases here : first = path
        · subst here
          simp
        · simp [here, Ne.symm here]
  obtain ⟨kept, left⟩ := each (r.goneFrom c) r sound
  refine ⟨kept, ?_⟩
  intro path
  change ((r.goneFrom c).foldl Roster.retire r).record? path = _
  rw [left]
  simp only [goneFrom]
  simp only [List.mem_filter, Std.TreeMap.mem_keys, Bool.not_eq_true']
  cases known : c.contains path with
  | true => simp
  | false =>
      by_cases live : path ∈ r.live
      · simp [live]
      · have gone : r.record? path = none := by
          rw [record?_eq_none_iff]
          exact Std.TreeMap.getElem?_eq_none live
        simp [live, gone]

/-- **Applying a configuration keeps a roster sound.** -/
theorem Sound.apply {r : Roster} (sound : r.Sound) (c : Configuration) :
    Kept r (r.apply c).1 := by
  obtain ⟨discarded, -⟩ := sound.discard c
  have brought := discarded.sound.bringAll c.toList
  rw [apply_fst]
  exact ⟨brought.sound, brought.store.trans discarded.store⟩

/-! ## The first of each name -/

/-- The record is fit, and none before it in the order of paths is fit and has its name. -/
structure First (r : Roster) (entries : List (String × SensorRecord))
    (e : String × SensorRecord) : Prop where
  fit : r.Fit e.1 e.2
  first : ∀ other ∈ entries, other.1 < e.1 → r.Fit other.1 other.2 →
    escape other.2.name ≠ escape e.2.name

/-- Of the roster only the store matters to what comes first. -/
theorem first_congr {r r' : Roster} (same : r'.site.store = r.site.store)
    (entries : List (String × SensorRecord)) (e : String × SensorRecord) :
    First r' entries e ↔ First r entries e := by
  have fit : ∀ path record, r'.Fit path record ↔ r.Fit path record := by
    intro path record
    simp only [Fit]
    rw [sensorOf_congr same]
  constructor
  · rintro ⟨fit', first⟩
    exact ⟨(fit _ _).1 fit', fun other member lt there => first other member lt ((fit _ _).2 there)⟩
  · rintro ⟨fit', first⟩
    exact ⟨(fit _ _).2 fit', fun other member lt there => first other member lt ((fit _ _).1 there)⟩

/-- Where a record is fit, one of its name comes first. -/
theorem exists_first {r : Roster} {entries : List (String × SensorRecord)}
    {e : String × SensorRecord} (member : e ∈ entries) (fit : r.Fit e.1 e.2) :
    ∃ first ∈ entries, first.1 ≤ e.1 ∧ First r entries first ∧
      escape first.2.name = escape e.2.name := by
  classical
  -- the rival with the least path is the first
  let rivals := entries.toFinset.filter fun other =>
    r.Fit other.1 other.2 ∧ escape other.2.name = escape e.2.name
  have rival : ∀ other, other ∈ rivals ↔ other ∈ entries ∧ r.Fit other.1 other.2 ∧
      escape other.2.name = escape e.2.name := by
    intro other
    simp only [rivals, Finset.mem_filter, List.mem_toFinset]
  have here : e ∈ rivals := (rival e).2 ⟨member, fit, rfl⟩
  obtain ⟨first, mem, least⟩ := rivals.exists_min_image Prod.fst ⟨e, here⟩
  obtain ⟨present, fit', name⟩ := (rival first).1 mem
  refine ⟨first, present, least e here, ⟨fit', ?_⟩, name⟩
  intro other member' lt fit'' same
  have := least other ((rival other).2 ⟨member', fit'', same.trans name⟩)
  exact absurd lt (not_lt.2 this)

/-! ## Without obstructions -/

/-- Paths ascend. -/
abbrev Ascending (entries : List (String × SensorRecord)) : Prop :=
  entries.Pairwise fun a b => a.1 < b.1

/-- No live sensor further on holds the name of a record that comes first. -/
def Clear (r : Roster) (entries : List (String × SensorRecord)) : Prop :=
  ∀ e ∈ entries, First r entries e → ∀ path old, e.1 < path → r.record? path = some old →
    escape old.name ≠ escape e.2.name

/-- A roster to which entries can be brought without one standing in another's way: what
is live is under the path of an entry, and no name is held further on. -/
structure Unhindered (r : Roster) (entries : List (String × SensorRecord)) : Prop where
  sound : r.Sound
  ascending : Ascending entries
  clear : r.Clear entries
  held : ∀ path old, r.record? path = some old → ∃ e ∈ entries, e.1 = path

/-- The entry was brought to what it should be: live just if it comes first, with its own
record or with an equal one that was live before. -/
def Settled (r : Roster) (entries : List (String × SensorRecord)) (r' : Roster)
    (e : String × SensorRecord) : Prop :=
  (First r entries e ∧ ∃ record, r'.record? e.1 = some record ∧
      (record = e.2 ∨ r.record? e.1 = some record ∧ (record == e.2) = true)) ∨
    (¬ First r entries e ∧ r'.record? e.1 = none)

theorem name_eq_of_settled {r : Roster} {e : String × SensorRecord} {record : SensorRecord}
    (same : record = e.2 ∨ r.record? e.1 = some record ∧ (record == e.2) = true) :
    record.name = e.2.name := by
  rcases same with rfl | ⟨-, equal⟩
  · rfl
  · exact (beq_fields equal).1

section OneEntry

variable {r : Roster} {before after : List (String × SensorRecord)}
  {e e' : String × SensorRecord}

theorem Ascending.lt (ascending : Ascending (before ++ e :: after)) (member : e' ∈ before) :
    e'.1 < e.1 :=
  (List.pairwise_append.1 ascending).2.2 e' member e List.mem_cons_self

theorem Ascending.mem_before (ascending : Ascending (before ++ e :: after))
    (member : e' ∈ before ++ e :: after) (lt : e'.1 < e.1) : e' ∈ before := by
  obtain ⟨-, tail, -⟩ := List.pairwise_append.1 ascending
  rcases List.mem_append.1 member with there | there
  · exact there
  · rcases List.mem_cons.1 there with rfl | later
    · exact absurd lt (lt_irrefl _)
    · exact absurd lt (List.rel_of_pairwise_cons tail later).asymm

/-- A record further up that is fit has a rival there, maybe itself, that comes first. -/
theorem exists_first_before (ascending : Ascending (before ++ e :: after))
    (member : e' ∈ before ++ e :: after) (lt : e'.1 < e.1) (fit : r.Fit e'.1 e'.2) :
    ∃ first ∈ before, First r (before ++ e :: after) first ∧
      escape first.2.name = escape e'.2.name := by
  obtain ⟨first, present, le, isFirst, name⟩ := exists_first member fit
  exact ⟨first, ascending.mem_before present (le.trans_lt lt), isFirst, name⟩

/-- What is live and stays comes first: its record is fit, and a rival would find its name
held further on. -/
theorem Unhindered.first_of_kept (free : Unhindered r (before ++ e :: after))
    {old : SensorRecord} (live : r.record? e.1 = some old) (equal : (old == e.2) = true) :
    First r (before ++ e :: after) e := by
  constructor
  · obtain ⟨entry, present, rfl⟩ := (record?_eq_some_iff ..).1 live
    have fit := free.sound.fit e.1 entry present
    rwa [isOk_sensorOf r.site e.1 equal] at fit
  · intro e' member lt fit same
    obtain ⟨first, present, isFirst, name⟩ := exists_first_before free.ascending member lt fit
    have lt' := free.ascending.lt present
    refine free.clear first (List.mem_append_left _ present) isFirst e.1 old lt' live ?_
    rw [(beq_fields equal).1, name, same]

/-- A record that is accepted after all before it settled comes first: a rival would be
live by now. -/
theorem Unhindered.first_of_accepted (free : Unhindered r (before ++ e :: after))
    (settled : ∀ e' ∈ before, Settled r (before ++ e :: after) (r.bringAll before) e')
    (unheld : (r.bringAll before).Unheld e.1 e.2) (fit : r.Fit e.1 e.2) :
    First r (before ++ e :: after) e := by
  refine ⟨fit, ?_⟩
  intro e' member lt fit' same
  obtain ⟨first, present, isFirst, name⟩ := exists_first_before free.ascending member lt fit'
  rcases settled first present with ⟨-, record, live, origin⟩ | ⟨notFirst, -⟩
  · have lt' := free.ascending.lt present
    refine unheld first.1 lt'.ne record live ?_
    rw [name_eq_of_settled origin, name, same]
  · exact notFirst isFirst

/-- The name of a record that comes first is not held: not before it, where all settled,
and not further on. -/
theorem Unhindered.unheld_of_first (free : Unhindered r (before ++ e :: after))
    (settled : ∀ e' ∈ before, Settled r (before ++ e :: after) (r.bringAll before) e')
    (isFirst : First r (before ++ e :: after) e) : (r.bringAll before).Unheld e.1 e.2 := by
  intro other apart old live same
  by_cases known : ∃ e' ∈ before, e'.1 = other
  · obtain ⟨e', present, rfl⟩ := known
    rcases settled e' present with ⟨first', record, live', origin⟩ | ⟨-, gone⟩
    · rw [live] at live'
      cases live'
      rw [name_eq_of_settled origin] at same
      exact isFirst.first e' (List.mem_append_left _ present) (free.ascending.lt present)
        first'.fit same
    · rw [live] at gone
      cases gone
  · have untouched : (r.bringAll before).record? other = r.record? other :=
      free.sound.record?_bringAll fun e' member there => known ⟨e', member, there⟩
    rw [untouched] at live
    obtain ⟨e', member, rfl⟩ := free.held other old live
    have gt : e.1 < e'.1 := by
      rcases lt_trichotomy e.1 e'.1 with lt | same | gt
      · exact lt
      · exact absurd same.symm apart
      · exact absurd ⟨e', free.ascending.mem_before member gt, rfl⟩ known
    have here : e ∈ before ++ e :: after := List.mem_append_right _ List.mem_cons_self
    exact free.clear e here isFirst e'.1 old gt live same

/-- One entry, after all before it are settled. -/
theorem Unhindered.settled_bring (free : Unhindered r (before ++ e :: after))
    (settled : ∀ e' ∈ before, Settled r (before ++ e :: after) (r.bringAll before) e') :
    Settled r (before ++ e :: after) ((r.bringAll before).bring e.1 e.2) e := by
  have kept := free.sound.bringAll before
  have untouched : (r.bringAll before).record? e.1 = r.record? e.1 :=
    free.sound.record?_bringAll fun e' member => (free.ascending.lt member).ne
  have brought := bring_spec kept.sound e.1 e.2
  rcases brought.here with ⟨old, live, equal, stays⟩ | ⟨-, ⟨⟨unheld, fit⟩, live⟩ | ⟨refused, gone⟩⟩
  · rw [untouched] at live
    exact Or.inl ⟨free.first_of_kept live equal, old, stays, Or.inr ⟨live, equal⟩⟩
  · rw [kept.fit_iff] at fit
    exact Or.inl ⟨free.first_of_accepted settled unheld fit, e.2, live, Or.inl rfl⟩
  · refine Or.inr ⟨fun isFirst => refused ⟨free.unheld_of_first settled isFirst, ?_⟩, gone⟩
    exact (kept.fit_iff ..).2 isFirst.fit

end OneEntry

section AllEntries

variable {r : Roster} {entries : List (String × SensorRecord)}

/-- **Without obstructions every entry settles.** -/
theorem Unhindered.settled_bringAll (free : Unhindered r entries) :
    ∀ e ∈ entries, Settled r entries (r.bringAll entries) e := by
  suffices upTo : ∀ before after, entries = before ++ after →
      ∀ e ∈ before, Settled r entries (r.bringAll before) e from
    upTo entries [] (List.append_nil _).symm
  intro before
  -- the prefix that was brought grows; entries behind it still stand as they were
  induction before using List.reverseRecOn with
  | nil => exact fun _ _ e absent => absurd absent List.not_mem_nil
  | append_singleton before last ih =>
      intro after split e member
      rw [List.append_assoc, List.singleton_append] at split
      have settled := ih (last :: after) split
      subst split
      have brought := bring_spec (free.sound.bringAll before).sound last.1 last.2
      rw [bringAll_append]
      change Settled r _ ((r.bringAll before).bring last.1 last.2) e
      rcases List.mem_append.1 member with there | there
      · have apart : last.1 ≠ e.1 := (free.ascending.lt there).ne'
        simp only [Settled]
        rw [brought.elsewhere e.1 apart]
        exact settled e there
      · rw [List.mem_singleton.1 there]
        exact free.settled_bring settled

/-- Every path is that of an entry, which settled, or nothing is live under it. -/
theorem Unhindered.settled_or_none (free : Unhindered r entries) (path : String) :
    (∃ e ∈ entries, e.1 = path ∧ Settled r entries (r.bringAll entries) e) ∨
      (∀ e ∈ entries, e.1 ≠ path) ∧ (r.bringAll entries).record? path = none := by
  by_cases known : ∃ e ∈ entries, e.1 = path
  · obtain ⟨e, member, here⟩ := known
    exact Or.inl ⟨e, member, here, free.settled_bringAll e member⟩
  · have absent : ∀ e ∈ entries, e.1 ≠ path := fun e member there => known ⟨e, member, there⟩
    refine Or.inr ⟨absent, ?_⟩
    rw [free.sound.record?_bringAll absent]
    cases live : r.record? path with
    | none => rfl
    | some old => exact absurd (free.held path old live) known

end AllEntries

/-- A sensor further on that holds the name keeps the first of that name out. -/
theorem Sound.record?_bringAll_obstructed {r : Roster} (sound : r.Sound)
    {entries : List (String × SensorRecord)} (ascending : Ascending entries)
    {e : String × SensorRecord} (member : e ∈ entries) {path : String} {old : SensorRecord}
    (further : e.1 < path) (live : r.record? path = some old)
    (name : escape old.name = escape e.2.name) : (r.bringAll entries).record? e.1 = none := by
  obtain ⟨before, after, rfl⟩ := List.append_of_mem member
  obtain ⟨-, tail, below⟩ := List.pairwise_append.1 ascending
  have kept := sound.bringAll before
  have untouched : ∀ path, e.1 ≤ path → (r.bringAll before).record? path = r.record? path :=
    fun path le => sound.record?_bringAll fun e' present =>
      ((below e' present e List.mem_cons_self).trans_le le).ne
  have brought := bring_spec kept.sound e.1 e.2
  have out : ((r.bringAll before).bring e.1 e.2).record? e.1 = none := by
    rcases brought.here with ⟨old', live', equal, -⟩ | ⟨-, ⟨⟨unheld, -⟩, -⟩ | ⟨-, gone⟩⟩
    · rw [untouched e.1 le_rfl] at live'
      obtain ⟨entry, present, rfl⟩ := (record?_eq_some_iff ..).1 live
      obtain ⟨entry', present', rfl⟩ := (record?_eq_some_iff ..).1 live'
      have same := sound.distinct path e.1 entry entry' present present'
        (name.trans (congrArg escape (beq_fields equal).1).symm)
      exact absurd same further.ne'
    · exact absurd name (unheld path further.ne' old ((untouched path further.le).trans live))
    · exact gone
  rw [bringAll_append]
  change (((r.bringAll before).bring e.1 e.2).bringAll after).record? e.1 = none
  rw [brought.sound.record?_bringAll, out]
  intro e' later
  exact (List.rel_of_pairwise_cons tail later).ne'

/-! ## Rosters and fresh starts -/

/-- The site with a bus and a directory of its own on which nothing has happened yet. -/
def quiet (site : Site) : Site := { site with bus := .empty, directory := .empty }

/-- The roster that starts on a quiet site and is given configurations one after another. -/
def ofConfigurations (site : Site) (cs : List Configuration) : Roster :=
  cs.foldl (fun r c => (r.apply c).1) (ofSite (quiet site))

/-- A fresh start with the same store. -/
def renewed (r : Roster) : Roster := ofSite (quiet r.site)

/-- The same paths are live, with equal records. -/
def SameLive (r r' : Roster) : Prop := ∀ path,
  match r.record? path, r'.record? path with
  | none, none => True
  | some record, some record' => record = record' ∨ (record == record') = true
  | _, _ => False

theorem not_sameLive {r r' : Roster} {path : String} {record : SensorRecord}
    (out : r.record? path = none) (live : r'.record? path = some record) : ¬ SameLive r r' := by
  intro same
  have here := same path
  rw [out, live] at here
  exact here

/-- No record that is live on a fresh start has the name of a live sensor further on whose
own record is still to come. -/
def Unobstructed (r : Roster) (c : Configuration) : Prop :=
  ∀ path record, (r.renewed.apply c).1.record? path = some record →
    ∀ other old, path < other → c.contains other = true → r.record? other = some old →
      escape old.name ≠ escape record.name

@[simp] theorem record?_ofSite (site : Site) (path : String) :
    (ofSite site).record? path = none := by
  rw [record?_eq_none_iff]
  exact Std.TreeMap.getElem?_emptyc

theorem sound_quiet (site : Site) : (ofSite (quiet site)).Sound := by
  have none_ : ∀ (path : String) (entry : RosterEntry),
      (ofSite (quiet site)).live[path]? ≠ some entry := by
    intro path entry there
    change (∅ : Std.TreeMap String RosterEntry)[path]? = _ at there
    rw [Std.TreeMap.getElem?_emptyc] at there
    cases there
  refine ⟨?_, ?_, ?_, ?_⟩
  · exact fun path entry there => absurd there (none_ path entry)
  · intro at_
    have silent : (ofSite (quiet site)).site.bus.isRegistered at_ = false := rfl
    rw [silent]
    constructor
    · nofun
    · rintro ⟨path, entry, s, there, -⟩
      exact absurd there (none_ path entry)
  · exact fun path _ entry _ there => absurd there (none_ path entry)
  · exact fun path entry there => absurd there (none_ path entry)

theorem sound_ofConfigurations (site : Site) (cs : List Configuration) :
    (ofConfigurations site cs).Sound := by
  simp only [ofConfigurations]
  have started := sound_quiet site
  generalize ofSite (quiet site) = r at started
  induction cs generalizing r with
  | nil => exact started
  | cons c rest ih => exact ih _ (started.apply c).sound

theorem ascending_toList (c : Configuration) : Ascending c.toList :=
  (Std.TreeMap.ordered_keys_toList (t := c)).imp fun lt => compare_lt_iff_lt.1 lt

theorem record?_renewed_discard (r : Roster) (c : Configuration) (path : String) :
    (r.renewed.discard c).record? path = none := by
  obtain ⟨-, left⟩ := (sound_quiet r.site).discard c
  refine (left path).trans ?_
  rw [record?_ofSite, ite_self]

/-- On a fresh start nothing is in the way. -/
theorem unhindered_renewed (r : Roster) (c : Configuration) :
    Unhindered (r.renewed.discard c) c.toList := by
  obtain ⟨discarded, -⟩ := (sound_quiet r.site).discard c
  refine ⟨discarded.sound, ascending_toList c, ?_, ?_⟩
  · intro e _ _ other old _ live
    rw [record?_renewed_discard] at live
    cases live
  · intro path old live
    rw [record?_renewed_discard] at live
    cases live

/-- On a fresh start just the first of each name is live. -/
theorem record?_renewed_apply (r : Roster) (c : Configuration) (path : String)
    (record : SensorRecord) : (r.renewed.apply c).1.record? path = some record ↔
      (path, record) ∈ c.toList ∧ First r c.toList (path, record) := by
  have free := unhindered_renewed r c
  obtain ⟨discarded, -⟩ := (sound_quiet r.site).discard c
  have first_iff := first_congr (r := r) discarded.store c.toList
  rw [apply_fst]
  constructor
  · intro live
    rcases free.settled_or_none path with ⟨e, member, rfl, settled⟩ | ⟨-, gone⟩
    · rcases settled with ⟨isFirst, record', live', rfl | ⟨before, -⟩⟩ | ⟨-, gone⟩
      · rw [live] at live'
        cases live'
        exact ⟨member, (first_iff e).1 isFirst⟩
      · rw [record?_renewed_discard] at before
        cases before
      · rw [live] at gone
        cases gone
    · rw [live] at gone
      cases gone
  · rintro ⟨member, isFirst⟩
    rcases free.settled_bringAll (path, record) member with
      ⟨-, record', live, rfl | ⟨before, -⟩⟩ | ⟨notFirst, -⟩
    · exact live
    · rw [record?_renewed_discard] at before
      cases before
    · exact absurd ((first_iff _).2 isFirst) notFirst

/-- Being fit is being made on a fresh start. -/
theorem fit_iff_make (r : Roster) (path : String) (record : SensorRecord) :
    r.Fit path record ↔ (r.renewed.make path record).isOk = true := by
  have unheld : r.renewed.Unheld path record := by
    intro other _ old live
    rw [renewed, record?_ofSite] at live
    cases live
  have same : sensorOf r.renewed.site path record = sensorOf r.site path record :=
    sensorOf_congr rfl path record
  simp only [Fit]
  rw [← same]
  constructor
  · intro fit
    exact make_isOk ((holderOf?_eq_none_iff ..).2 unheld) fit fun _ _ => rfl
  · intro made
    obtain ⟨pair, made⟩ := (isOk_iff _).1 made
    exact (make_eq_ok made).2.1

theorem clear_iff_unobstructed {r : Roster} (sound : r.Sound) (c : Configuration) :
    (r.discard c).Clear c.toList ↔ r.Unobstructed c := by
  obtain ⟨discarded, left⟩ := sound.discard c
  have live_iff : ∀ path old, (r.discard c).record? path = some old ↔
      c.contains path = true ∧ r.record? path = some old := by
    intro path old
    rw [left]
    split
    · next known => exact ⟨fun live => ⟨known, live⟩, fun live => live.2⟩
    · next unknown => exact ⟨nofun, fun live => absurd live.1 unknown⟩
  constructor
  · intro clear path record live other old lt known live'
    obtain ⟨member, isFirst⟩ := (record?_renewed_apply r c path record).1 live
    exact clear (path, record) member ((first_congr discarded.store ..).2 isFirst) other old lt
      ((live_iff other old).2 ⟨known, live'⟩)
  · rintro free ⟨path, record⟩ member isFirst other old lt live
    obtain ⟨known, live'⟩ := (live_iff other old).1 live
    refine free path record ?_ other old lt known live'
    exact (record?_renewed_apply r c path record).2
      ⟨member, (first_congr discarded.store ..).1 isFirst⟩

theorem Sound.unhindered {r : Roster} (sound : r.Sound) {c : Configuration}
    (free : r.Unobstructed c) : Unhindered (r.discard c) c.toList := by
  obtain ⟨discarded, left⟩ := sound.discard c
  refine ⟨discarded.sound, ascending_toList c, (clear_iff_unobstructed sound c).2 free, ?_⟩
  intro path old live
  rw [left] at live
  split at live
  · next known =>
      rw [Std.TreeMap.contains_iff_mem, Std.TreeMap.mem_iff_isSome_getElem?,
        Option.isSome_iff_exists] at known
      obtain ⟨record, there⟩ := known
      exact ⟨(path, record), Std.TreeMap.mem_toList_iff_getElem?_eq_some.2 there, rfl⟩
  · cases live

theorem Sound.sameLive_of_unobstructed {r : Roster} (sound : r.Sound) {c : Configuration}
    (free : r.Unobstructed c) : SameLive (r.apply c).1 (r.renewed.apply c).1 := by
  obtain ⟨discarded, left⟩ := sound.discard c
  have first_iff := first_congr (r := r) discarded.store c.toList
  intro path
  rw [apply_fst r c]
  rcases (sound.unhindered free).settled_or_none path with
    ⟨e, member, rfl, settled⟩ | ⟨absent, gone⟩
  · rcases settled with ⟨isFirst, record, live, origin⟩ | ⟨notFirst, gone⟩
    · have live' := (record?_renewed_apply r c e.1 e.2).2 ⟨member, (first_iff e).1 isFirst⟩
      rw [live, live']
      refine origin.imp_right ?_
      rintro ⟨-, equal⟩
      exact equal
    · rw [gone]
      cases live' : (r.renewed.apply c).1.record? e.1 with
      | none => trivial
      | some record =>
          obtain ⟨member', isFirst⟩ := (record?_renewed_apply r c e.1 record).1 live'
          have same : record = e.2 := by
            have here := Std.TreeMap.mem_toList_iff_getElem?_eq_some.1 member
            rw [Std.TreeMap.mem_toList_iff_getElem?_eq_some.1 member'] at here
            exact Option.some.inj here
          subst same
          exact notFirst ((first_iff e).2 isFirst)
  · rw [gone]
    cases live' : (r.renewed.apply c).1.record? path with
    | none => trivial
    | some record =>
        obtain ⟨member, -⟩ := (record?_renewed_apply r c path record).1 live'
        exact absurd rfl (absent (path, record) member)

theorem Sound.unobstructed_of_sameLive {r : Roster} (sound : r.Sound) {c : Configuration}
    (same : SameLive (r.apply c).1 (r.renewed.apply c).1) : r.Unobstructed c := by
  obtain ⟨discarded, left⟩ := sound.discard c
  intro path record live other old lt known live' name
  obtain ⟨member, isFirst⟩ := (record?_renewed_apply r c path record).1 live
  have out : (r.apply c).1.record? path = none := by
    rw [apply_fst]
    refine discarded.sound.record?_bringAll_obstructed (ascending_toList c) member lt ?_ name
    rw [left, if_pos known]
    exact live'
  exact not_sameLive out live same

/-- **When history matters.**  After any configurations, a reload leaves live what a fresh
start does exactly if there is no obstruction; and a fresh start leaves live the records of
which a sensor can be made, of one escaped name the first in the order of paths. -/
theorem reload_iff_unobstructed (site : Site) (cs : List Configuration) (conf : Configuration) :
    let r := ofConfigurations site cs
    (SameLive (r.apply conf).1 (r.renewed.apply conf).1 ↔ r.Unobstructed conf) ∧
      ∀ path record, (r.renewed.apply conf).1.record? path = some record ↔
        conf[path]? = some record ∧ (r.renewed.make path record).isOk = true ∧
          ∀ path' record', path' < path → conf[path']? = some record' →
            (r.renewed.make path' record').isOk = true →
            escape record'.name ≠ escape record.name := by
  intro r
  have sound : r.Sound := sound_ofConfigurations site cs
  refine ⟨⟨sound.unobstructed_of_sameLive, sound.sameLive_of_unobstructed⟩, ?_⟩
  intro path record
  rw [record?_renewed_apply, Std.TreeMap.mem_toList_iff_getElem?_eq_some, ← fit_iff_make]
  refine and_congr_right fun _ => ⟨?_, ?_⟩
  · rintro ⟨fit, first⟩
    refine ⟨fit, fun path' record' lt there made => ?_⟩
    exact first (path', record') (Std.TreeMap.mem_toList_iff_getElem?_eq_some.2 there) lt
      ((fit_iff_make r path' record').2 made)
  · rintro ⟨fit, first⟩
    refine ⟨fit, ?_⟩
    rintro ⟨path', record'⟩ member lt fit'
    exact first path' record' lt (Std.TreeMap.mem_toList_iff_getElem?_eq_some.1 member)
      ((fit_iff_make r path' record').1 fit')

/-! ## Two sensors that exchange names -/

/-- A sensor that is written from outside, of which nothing but the name is configured. -/
def namedRecord (name : String) : SensorRecord :=
  { name := name, model := SensorRecord.externalModel, unit := some "DegreesC"
    min := none, max := none, thresholds := [], mutable := false, settable := false
    power := .always, pollRate := none, offset := 0, scale := 1, path := none, timeout := none
    errorLimit := none, statistics := false }

/-- Two sensors under their paths. -/
def namesAt (a b : String) : Configuration :=
  Std.TreeMap.ofList [("/inv/a", namedRecord a), ("/inv/b", namedRecord b)]

/-- **History does matter.**  Where two sensors exchange names the first is left out, since
the second still has the name that it is to get; on a fresh start it is live. -/
theorem reload_is_obstructed :
    let r := ofConfigurations .fresh [namesAt "Inlet" "Outlet"]
    let conf := namesAt "Outlet" "Inlet"
    ¬ SameLive (r.apply conf).1 (r.renewed.apply conf).1 := by
  intro r conf
  have out : (r.apply conf).1.record? "/inv/a" = none := by decide +kernel
  have live : (r.renewed.apply conf).1.record? "/inv/a" = some (namedRecord "Outlet") := by
    decide +kernel
  exact not_sameLive out live

end SensorMonitor.Roster
