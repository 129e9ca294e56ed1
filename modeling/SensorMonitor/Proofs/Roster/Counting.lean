/-
# Proofs.Roster.Counting -- what is live after a configuration, and how it was counted

Bringing a path in line with its record changes what is live under that path and nowhere
else, and counts one of five outcomes (`counts_applyRecord`).  Over a whole configuration,
each of its records is counted once and each live sensor was made, replaced or left as it
was (`counts_apply`), and what is live has the record that was asked for
(`sameRecord_apply`).
-/
import SensorMonitor.Proofs.Roster.Reload

namespace SensorMonitor

namespace Roster

set_option autoImplicit false

/-! ## Paths apart -/

section Apart

variable {path other : String}

theorem live_retire (r : Roster) (path : String) : (r.retire path).live = r.live.erase path ∨
    r.live[path]? = none ∧ r.retire path = r := by
  simp only [retire]
  cases r.live[path]? with
  | none => exact Or.inr ⟨rfl, rfl⟩
  | some entry => exact Or.inl rfl

theorem getElem?_retire (r : Roster) (path other : String) :
    (r.retire path).live[other]? = if path = other then none else r.live[other]? := by
  rcases r.live_retire path with erased | ⟨absent, same⟩
  · rw [erased, getElem?_erase]
  · rw [same]
    split
    · next here => rw [← here, absent]
    · rfl

theorem getElem?_put_of_ne (apart : path ≠ other) (r : Roster) (record : SensorRecord) :
    (r.put path record).live[other]? = r.live[other]? := by
  simp only [put]
  cases r.make path record with
  | error failure => rfl
  | ok pair => exact (getElem?_insert ..).trans (if_neg apart)

theorem getElem?_bring_of_ne (apart : path ≠ other) (r : Roster) (record : SensorRecord) :
    (r.bring path record).live[other]? = r.live[other]? := by
  simp only [bring]
  cases r.live[path]? with
  | none => exact getElem?_put_of_ne apart r record
  | some entry =>
      dsimp only
      split
      · rfl
      · rw [getElem?_put_of_ne apart, getElem?_retire, if_neg apart]

theorem getElem?_bringAll_of_ne {entries : List (String × SensorRecord)}
    (apart : ∀ e ∈ entries, e.1 ≠ other) (r : Roster) :
    (r.bringAll entries).live[other]? = r.live[other]? := by
  induction entries generalizing r with
  | nil => rfl
  | cons e rest ih =>
      obtain ⟨here, later⟩ := List.forall_mem_cons.1 apart
      exact (ih later (r.bring e.1 e.2)).trans (getElem?_bring_of_ne here r e.2)

theorem getElem?_foldl_retire (paths : List String) (r : Roster) (other : String) :
    (paths.foldl retire r).live[other]? = if other ∈ paths then none else r.live[other]? := by
  induction paths generalizing r with
  | nil => exact (if_neg List.not_mem_nil).symm
  | cons path rest ih =>
      rw [List.foldl_cons, ih, getElem?_retire]
      by_cases here : path = other
      · simp [here]
      · simp [here, Ne.symm here]

theorem getElem?_discard (r : Roster) (c : Configuration) (other : String) :
    (r.discard c).live[other]? = if c.contains other then r.live[other]? else none := by
  rw [discard, getElem?_foldl_retire]
  simp only [goneFrom, List.mem_filter, Std.TreeMap.mem_keys, Bool.not_eq_true']
  cases known : c.contains other with
  | true => simp
  | false =>
      by_cases live : other ∈ r.live
      · simp [live]
      · simp [live]

end Apart

/-! ## Records -/

/-- The records are the same, or equal as records are compared. -/
def SameRecord (a b : SensorRecord) : Prop := a = b ∨ (a == b) = true

/-- What was made has the record that it was made of. -/
theorem record_of_put {r : Roster} {path : String} {record : SensorRecord} {entry : RosterEntry}
    (absent : r.live[path]? = none) (there : (r.put path record).live[path]? = some entry) :
    entry.record = record := by
  simp only [put] at there
  cases made : r.make path record with
  | error failure =>
      rw [made] at there
      cases absent.symm.trans there
  | ok pair =>
      rw [made] at there
      have here : (r.live.insert path ⟨record, pair.1⟩)[path]? = some entry := there
      rw [getElem?_insert, if_pos rfl] at here
      cases here
      rfl

theorem sameRecord_bring {r : Roster} {path : String} {record : SensorRecord} {entry : RosterEntry}
    (there : (r.bring path record).live[path]? = some entry) : SameRecord entry.record record := by
  simp only [bring] at there
  cases before : r.live[path]? with
  | none =>
      rw [before] at there
      exact Or.inl (record_of_put before there)
  | some old =>
      rw [before] at there
      dsimp only at there
      split at there
      · next same =>
          cases before.symm.trans there
          exact Or.inr same
      · exact Or.inl (record_of_put ((getElem?_retire ..).trans (if_pos rfl)) there)

/-- A record among others of other paths. -/
theorem exists_split {conf : Configuration} {path : String} {record : SensorRecord}
    (known : conf[path]? = some record) : ∃ before after,
      conf.toList = before ++ (path, record) :: after ∧ (∀ e ∈ before, e.1 ≠ path) ∧
        ∀ e ∈ after, e.1 ≠ path := by
  obtain ⟨before, after, split⟩ :=
    List.append_of_mem (Std.TreeMap.mem_toList_iff_getElem?_eq_some.2 known)
  have ascending := ascending_toList conf
  rw [split] at ascending
  obtain ⟨-, later, earlier⟩ := List.pairwise_append.1 ascending
  refine ⟨before, after, split, fun e member => ?_, fun e member => ?_⟩
  · exact (earlier e member (path, record) List.mem_cons_self).ne
  · exact ((List.pairwise_cons.1 later).1 e member).ne'

/-- What a configuration leaves live has the record that it asks for. -/
theorem sameRecord_apply {r : Roster} {conf : Configuration} {path : String} {entry : RosterEntry}
    (there : (r.apply conf).1.live[path]? = some entry) :
    ∃ record, conf[path]? = some record ∧ SameRecord entry.record record := by
  rw [apply_fst] at there
  cases known : conf[path]? with
  | none =>
      have apart : ∀ e ∈ conf.toList, e.1 ≠ path := by
        rintro ⟨other, record⟩ member rfl
        cases known.symm.trans (Std.TreeMap.mem_toList_iff_getElem?_eq_some.1 member)
      rw [getElem?_bringAll_of_ne apart, getElem?_discard,
        Std.TreeMap.contains_eq_isSome_getElem?, known] at there
      cases there
  | some record =>
      obtain ⟨before, after, split, -, later⟩ := exists_split known
      rw [split, bringAll_append] at there
      change ((((r.discard conf).bringAll before).bring path record).bringAll after).live[path]? = _
        at there
      rw [getElem?_bringAll_of_ne later] at there
      exact ⟨record, rfl, sameRecord_bring there⟩

end Roster

/-! ## Counts -/

namespace ApplyStats

/-- The records that were seen to. -/
def seen (stats : ApplyStats) : Nat :=
  stats.created + stats.replaced + stats.unchanged + stats.failed

/-- The records of which a sensor is live then. -/
def alive (stats : ApplyStats) : Nat := stats.created + stats.replaced + stats.unchanged

/-- One more record was seen to, and its sensor is live. -/
structure OneMore (stats stats' : ApplyStats) : Prop where
  seen : stats'.seen = stats.seen + 1
  removed : stats'.removed = stats.removed
  alive : stats'.alive = stats.alive + 1

theorem oneMore_created (stats : ApplyStats) :
    OneMore stats { stats with created := stats.created + 1 } :=
  ⟨by simp only [seen]; omega, rfl, by simp only [alive]; omega⟩

theorem oneMore_replaced (stats : ApplyStats) :
    OneMore stats { stats with replaced := stats.replaced + 1 } :=
  ⟨by simp only [seen]; omega, rfl, by simp only [alive]; omega⟩

theorem oneMore_unchanged (stats : ApplyStats) :
    OneMore stats { stats with unchanged := stats.unchanged + 1 } :=
  ⟨by simp only [seen]; omega, rfl, by simp only [alive]; omega⟩

end ApplyStats

namespace Roster

/-- A number of records were seen to, among them those of a number of live sensors.  Each was
counted, and what is live was counted as made, replaced or unchanged. -/
structure Counted (r : Roster) (stats : ApplyStats) (records there : Nat)
    (after : Roster × ApplyStats) : Prop where
  seen : after.2.seen = stats.seen + records
  removed : after.2.removed = stats.removed
  alive : after.1.size + there + stats.alive = r.size + after.2.alive

section Counts

variable {r : Roster} {stats : ApplyStats}

theorem Counted.trans {records records' there there' : Nat} {after after' : Roster × ApplyStats}
    (first : Counted r stats records there after)
    (second : Counted after.1 after.2 records' there' after') :
    Counted r stats (records + records') (there + there') after' := by
  obtain ⟨seen, removed, alive⟩ := first
  obtain ⟨seen', removed', alive'⟩ := second
  exact ⟨by omega, by omega, by omega⟩

theorem contains_eq_true {path : String} {entry : RosterEntry}
    (there : r.live[path]? = some entry) : r.live.contains path = true := by
  rw [Std.TreeMap.contains_eq_isSome_getElem?, there]
  rfl

theorem contains_eq_false {path : String} (absent : r.live[path]? = none) :
    r.live.contains path = false := by
  rw [Std.TreeMap.contains_eq_isSome_getElem?, absent]
  rfl

theorem counts_install {made : ApplyStats} {path : String} (absent : r.live[path]? = none)
    (more : stats.OneMore made) (record : SensorRecord) :
    Counted r stats 1 0 (r.install stats made path record) := by
  obtain ⟨seen, removed, alive⟩ := more
  simp only [install]
  cases r.make path record with
  | error failure => exact ⟨by simp only [ApplyStats.seen]; omega, rfl, by simp [ApplyStats.alive]⟩
  | ok pair =>
      refine ⟨seen, removed, ?_⟩
      have grown : (r.live.insert path ⟨record, pair.1⟩).size = r.live.size + 1 := by
        rw [Std.TreeMap.size_insert, contains_eq_false absent]
        rfl
      simp only [size]
      omega

theorem size_retire {path : String} {entry : RosterEntry} (there : r.live[path]? = some entry) :
    (r.retire path).size + 1 = r.size := by
  have known := contains_eq_true there
  have nonempty : 0 < r.live.size := by
    rw [← Std.TreeMap.length_keys]
    exact List.length_pos_of_mem (Std.TreeMap.mem_keys.2 (Std.TreeMap.mem_iff_contains.2 known))
  rcases r.live_retire path with erased | ⟨absent, -⟩
  · rw [size, size, erased, Std.TreeMap.size_erase, if_pos known]
    omega
  · cases there.symm.trans absent

/-- **One record is counted once**, as what became of it. -/
theorem counts_applyRecord (r : Roster) (stats : ApplyStats) (path : String)
    (record : SensorRecord) : Counted r stats 1 (if r.live.contains path then 1 else 0)
      (r.applyRecord stats path record) := by
  simp only [applyRecord]
  cases there : r.live[path]? with
  | none =>
      rw [contains_eq_false there]
      exact counts_install there stats.oneMore_created record
  | some entry =>
      rw [contains_eq_true there, if_pos rfl]
      dsimp only
      split
      · obtain ⟨seen, removed, alive⟩ := stats.oneMore_unchanged
        exact ⟨seen, removed, by dsimp only; omega⟩
      · have absent : (r.retire path).live[path]? = none := (getElem?_retire ..).trans (if_pos rfl)
        obtain ⟨seen, removed, alive⟩ := counts_install absent stats.oneMore_replaced record
        have fewer := size_retire there
        exact ⟨seen, removed, by omega⟩

/-- Records of different paths, one after another. -/
theorem counts_foldl {entries : List (String × SensorRecord)}
    (nodup : (entries.map Prod.fst).Nodup) (r : Roster) (stats : ApplyStats) :
    Counted r stats entries.length (entries.countP fun e => r.live.contains e.1)
      (entries.foldl (fun (r, stats) (path, record) => r.applyRecord stats path record)
        (r, stats)) := by
  induction entries generalizing r stats with
  | nil => exact ⟨rfl, rfl, Nat.add_right_comm ..⟩
  | cons e rest ih =>
      obtain ⟨path, record⟩ := e
      obtain ⟨fresh, later⟩ := List.nodup_cons.1 nodup
      have first := counts_applyRecord r stats path record
      have further := ih later (r.applyRecord stats path record).1
        (r.applyRecord stats path record).2
      -- no later record has this path, so as many of them are of live sensors as before
      have same : rest.countP (fun e => (r.applyRecord stats path record).1.live.contains e.1) =
          rest.countP fun e => r.live.contains e.1 := by
        refine List.countP_congr fun e member => ?_
        have apart : path ≠ e.1 :=
          fun here => fresh (List.mem_map.2 ⟨e, member, here.symm⟩)
        rw [applyRecord_fst, Std.TreeMap.contains_eq_isSome_getElem?,
          Std.TreeMap.contains_eq_isSome_getElem?, getElem?_bring_of_ne apart]
      rw [same] at further
      have both := first.trans further
      rw [List.length_cons, List.countP_cons, Nat.add_comm rest.length,
        Nat.add_comm (rest.countP _)]
      exact both

/-- What is live under paths of a configuration, counted along the configuration. -/
theorem countP_contains {live : Std.TreeMap String RosterEntry} {conf : Configuration}
    (within : ∀ path, live.contains path = true → conf.contains path = true) :
    (conf.toList.countP fun e => live.contains e.1) = live.size := by
  have same : (conf.keys.filter live.contains).Perm live.keys := by
    refine (List.perm_ext_iff_of_nodup (Std.TreeMap.nodup_keys.filter _)
      Std.TreeMap.nodup_keys).2 fun path => ?_
    simp only [List.mem_filter, Std.TreeMap.mem_keys, Std.TreeMap.mem_iff_contains]
    exact ⟨And.right, fun there => ⟨within path there, there⟩⟩
  calc (conf.toList.countP fun e => live.contains e.1)
      = (conf.toList.map Prod.fst).countP live.contains := by rw [List.countP_map]; rfl
    _ = (conf.keys.filter live.contains).length := by
        rw [Std.TreeMap.map_fst_toList_eq_keys, List.countP_eq_length_filter]
    _ = live.size := by rw [same.length_eq, Std.TreeMap.length_keys]

/-- **Every record of a configuration is counted once**, what is live afterwards was counted
as made, replaced or unchanged, and what was removed are the live paths that the configuration
does not have. -/
theorem counts_apply (r : Roster) (conf : Configuration) :
    (r.apply conf).2.seen = conf.size ∧ (r.apply conf).2.removed = (r.goneFrom conf).length ∧
      (r.apply conf).1.size = (r.apply conf).2.alive := by
  have nodup : (conf.toList.map Prod.fst).Nodup := by
    rw [Std.TreeMap.map_fst_toList_eq_keys]
    exact Std.TreeMap.nodup_keys
  have counted := counts_foldl nodup (r.discard conf) ⟨0, 0, (r.goneFrom conf).length, 0, 0⟩
  have within : ∀ path, (r.discard conf).live.contains path = true →
      conf.contains path = true := by
    intro path there
    rw [Std.TreeMap.contains_eq_isSome_getElem?, getElem?_discard] at there
    split at there
    · assumption
    · cases there
  rw [countP_contains within, Std.TreeMap.length_toList] at counted
  obtain ⟨seen, removed, alive⟩ := counted
  refine ⟨seen.trans (Nat.zero_add _), removed, ?_⟩
  have alive : (r.apply conf).1.size + (r.discard conf).size + 0 =
      (r.discard conf).size + (r.apply conf).2.alive := alive
  omega

end Counts

end Roster

end SensorMonitor
