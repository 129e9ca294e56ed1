/-
# Proofs.TriggerEdits.LastWriter -- edits in any order that keeps those for one slot

A new edit makes room by the severity and the direction as they are written, an applied edit
finds its threshold by the slot that they name.  The two agree, since a slot is written in one
way only (`slot?_eq_some_iff`).  So what an applied list does is told by two things: the last
edit for each slot and how many edits find a threshold (`applyAll_eq`).  Lists that agree on
both are `Interchangeable`; edits for different severities and directions may come in either
order (`interchangeable_put_put`), also in the middle of a longer row of edits.
-/
import SensorMonitor.Proofs.TriggerEdits

namespace SensorMonitor

set_option autoImplicit false

/-! ## What is written and what is meant -/

theorem Direction.comparison_of_ofComparison? {words : String} {direction : Direction}
    (read : ofComparison? words = some direction) : direction.comparison = words := by
  unfold ofComparison? at read
  split at read <;> simp_all [comparison] <;> subst read <;> rfl

namespace TriggerEdit

/-- **An edit names a slot exactly when it is written as that slot is.** -/
theorem slot?_eq_some_iff (e : TriggerEdit) (slot : Slot) :
    e.slot? = some slot ↔
      e.isFor slot.level.severity slot.direction.comparison = true := by
  simp only [isFor, Bool.and_eq_true, decide_eq_true_eq]
  constructor
  · intro named
    unfold slot? at named
    obtain ⟨level, ofLevel, named⟩ := Option.bind_eq_some_iff.1 named
    obtain ⟨direction, ofDirection, named⟩ := Option.bind_eq_some_iff.1 named
    cases named
    exact ⟨(Level.severity_of_ofSeverity? ofLevel).symm,
      (Direction.comparison_of_ofComparison? ofDirection).symm⟩
  · rintro ⟨severity, direction⟩
    unfold slot?
    rw [severity, direction, Level.ofSeverity?_severity, Direction.ofComparison?_comparison]
    rfl

/-- Edits that name one slot are for the same severity and direction. -/
theorem sameTarget_of_slot? {a b : TriggerEdit} {slot : Slot} (first : a.slot? = some slot)
    (second : b.slot? = some slot) : a.sameTarget b = true := by
  have written := (slot?_eq_some_iff a slot).1 first
  have other := (slot?_eq_some_iff b slot).1 second
  simp only [isFor, sameTarget, Bool.and_eq_true, decide_eq_true_eq] at written other ⊢
  exact ⟨written.1.trans other.1.symm, written.2.trans other.2.symm⟩

theorem sameTarget_comm (a b : TriggerEdit) : a.sameTarget b = b.sameTarget a := by
  unfold sameTarget
  congr 1 <;> exact decide_eq_decide.2 eq_comm

/-- The edit names one of the slots. -/
def finds (slots : List Slot) (e : TriggerEdit) : Bool := slots.any (e.slot? = some ·)

end TriggerEdit

namespace TriggerEdits

/-! ## What applied edits come to -/

theorem applyOne_snd (e : TriggerEdit) (ts : List Threshold) :
    (applyOne e ts).2 = e.finds (ts.map (·.slot)) := by
  unfold TriggerEdit.finds
  induction ts with
  | nil => rfl
  | cons t rest ih =>
      unfold applyOne
      rw [List.map_cons, List.any_cons]
      by_cases here : e.slot? = some t.slot
      · simp [here]
      · simpa [here] using ih

/-- Applied edits count those that name the slot of a threshold. -/
theorem applyAll_snd (edits : List TriggerEdit) (ts : List Threshold) :
    (applyAll edits ts).2 = edits.countP (·.finds (ts.map (·.slot))) := by
  induction edits using List.reverseRecOn with
  | nil => rfl
  | append_singleton edits e ih =>
      have last : (applyAll (edits ++ [e]) ts).2 =
          if (applyOne e (applyAll edits ts).1).2 then (applyAll edits ts).2 + 1
          else (applyAll edits ts).2 := by
        unfold applyAll
        rw [List.foldl_concat]
      rw [last, applyOne_snd, map_slot_applyAll, ih, List.countP_append, List.countP_singleton]
      split <;> rfl

/-- The last edit for each slot and the number of those that find a threshold are all there is
to an applied list. -/
theorem applyAll_eq (edits : List TriggerEdit) {ts : List Threshold}
    (distinct : (ts.map (·.slot)).Nodup) : applyAll edits ts =
      (ts.map (retrigger edits), edits.countP (·.finds (ts.map (·.slot)))) :=
  Prod.ext (applyAll_eq_map edits distinct) (applyAll_snd edits ts)

theorem retrigger_retrigger (edits : List TriggerEdit) (t : Threshold) :
    retrigger edits (retrigger edits t) = retrigger edits t := by
  unfold retrigger
  cases lastFor t.slot edits <;> rfl

/-- **Edits that are applied once more change nothing**, and find as many thresholds again. -/
theorem applyAll_applyAll (edits : List TriggerEdit) {ts : List Threshold}
    (distinct : (ts.map (·.slot)).Nodup) :
    applyAll edits (applyAll edits ts).1 = applyAll edits ts := by
  have slots : (ts.map (retrigger edits)).map (·.slot) = ts.map (·.slot) := by
    rw [← applyAll_eq_map edits distinct, map_slot_applyAll]
  have changed : ((ts.map (retrigger edits)).map (·.slot)).Nodup := by rwa [slots]
  rw [applyAll_eq edits distinct, applyAll_eq edits changed, slots, List.map_map]
  congr 1
  exact List.map_congr_left fun t _ => retrigger_retrigger edits t

/-! ## Lists that do the same -/

/-- The same edits, with the same last one for each slot. -/
structure Interchangeable (xs ys : List TriggerEdit) : Prop where
  perm : xs.Perm ys
  last : ∀ slot, lastFor slot xs = lastFor slot ys

namespace Interchangeable

variable {xs ys : List TriggerEdit}

theorem refl (xs : List TriggerEdit) : Interchangeable xs xs := ⟨.refl xs, fun _ => rfl⟩

theorem put (alike : Interchangeable xs ys) (e : TriggerEdit) :
    Interchangeable (put xs e) (put ys e) where
  perm := (alike.perm.filter _).append_right [e]
  last slot := by rw [lastFor_put, lastFor_put, alike.last]

theorem applyAll_eq (alike : Interchangeable xs ys) {ts : List Threshold}
    (distinct : (ts.map (·.slot)).Nodup) : applyAll xs ts = applyAll ys ts := by
  have triggers : ts.map (retrigger xs) = ts.map (retrigger ys) :=
    List.map_congr_left fun t _ => by unfold retrigger; rw [alike.last]
  rw [TriggerEdits.applyAll_eq xs distinct, TriggerEdits.applyAll_eq ys distinct, triggers,
    alike.perm.countP_eq]

end Interchangeable

theorem put_put_of_apart (edits : List TriggerEdit) {a b : TriggerEdit}
    (apart : a.sameTarget b = false) : put (put edits a) b =
      (edits.filter fun other => !other.sameTarget b && !other.sameTarget a) ++ [a] ++ [b] := by
  unfold put
  rw [List.filter_append, List.filter_filter]
  simp [apart]

/-- **Edits for different severities or directions may come in either order.** -/
theorem interchangeable_put_put (edits : List TriggerEdit) {a b : TriggerEdit}
    (apart : a.sameTarget b = false) :
    Interchangeable (put (put edits a) b) (put (put edits b) a) where
  perm := by
    have apart' : b.sameTarget a = false := by rwa [TriggerEdit.sameTarget_comm]
    rw [put_put_of_apart edits apart, put_put_of_apart edits apart', List.append_assoc,
      List.append_assoc]
    simp only [Bool.and_comm]
    exact (List.Perm.swap b a []).append_left _
  last slot := by
    simp only [lastFor_put]
    by_cases first : a.slot? = some slot
    · -- not both of them are for the slot
      have other : b.slot? ≠ some slot := by
        intro second
        rw [TriggerEdit.sameTarget_of_slot? first second] at apart
        cases apart
      rw [if_neg other, if_neg other]
    · rw [if_neg first, if_neg first]

/-! ## Edits one after another -/

theorem under_upsert_ne (edits : TriggerEdits) {path other : String} (ne : path ≠ other)
    (e : TriggerEdit) : (edits.upsert path e).under other = edits.under other := by
  rw [under_upsert, if_neg ne]

theorem under_upsert_self (edits : TriggerEdits) (path : String) (e : TriggerEdit) :
    (edits.upsert path e).under path = put (edits.under path) e := by
  rw [under_upsert, if_pos rfl]

theorem upsertAll_append (edits : TriggerEdits) (before after : List (String × TriggerEdit)) :
    edits.upsertAll (before ++ after) = (edits.upsertAll before).upsertAll after :=
  List.foldl_append ..

/-- The last edit for a slot is the one added last, or the last one that was there before. -/
theorem lastFor_under_upsertAll (edits : TriggerEdits) (added : List (String × TriggerEdit))
    (path : String) (slot : Slot) : lastFor slot ((edits.upsertAll added).under path) =
      ((lastAdded path slot.level.severity slot.direction.comparison added).map (·.value)).or
        (lastFor slot (edits.under path)) := by
  induction added using List.reverseRecOn with
  | nil => rfl
  | append_singleton added a ih =>
      obtain ⟨other, e⟩ := a
      rw [upsertAll_concat]
      unfold lastAdded at ih ⊢
      rw [List.reverse_concat, List.find?_cons]
      by_cases here : other = path
      · subst here
        rw [under_upsert_self, lastFor_put]
        by_cases named : e.slot? = some slot
        · simp [named, (TriggerEdit.slot?_eq_some_iff e slot).1 named]
        · simp [named, mt (TriggerEdit.slot?_eq_some_iff e slot).2 named, ih]
      · rw [under_upsert_ne _ here, ih]
        simp [here]

/-- Under every path the tables have interchangeable edits. -/
def Alike (first second : TriggerEdits) : Prop :=
  ∀ path, Interchangeable (first.under path) (second.under path)

theorem Alike.upsert {first second : TriggerEdits} (alike : first.Alike second) (path : String)
    (e : TriggerEdit) : (first.upsert path e).Alike (second.upsert path e) := by
  intro other
  by_cases here : path = other
  · subst here
    rw [under_upsert_self, under_upsert_self]
    exact (alike path).put e
  · rw [under_upsert_ne _ here, under_upsert_ne _ here]
    exact alike other

theorem Alike.upsertAll {first second : TriggerEdits} (alike : first.Alike second)
    (added : List (String × TriggerEdit)) :
    (first.upsertAll added).Alike (second.upsertAll added) := by
  induction added generalizing first second with
  | nil => exact alike
  | cons a added ih => exact ih (alike.upsert a.1 a.2)

/-- What an added edit is for: its path, and the severity and direction as written. -/
def key (a : String × TriggerEdit) : String × Nat × String :=
  (a.1, a.2.severity, a.2.direction)

/-- Edits that differ in what they are for may be added in either order. -/
theorem alike_upsert_upsert (edits : TriggerEdits) {a b : String × TriggerEdit}
    (apart : key a ≠ key b) :
    ((edits.upsert a.1 a.2).upsert b.1 b.2).Alike ((edits.upsert b.1 b.2).upsert a.1 a.2) := by
  obtain ⟨path, e⟩ := a
  obtain ⟨other, e'⟩ := b
  intro place
  by_cases here : path = place <;> by_cases there : other = place
  · subst here there
    have targets : e.sameTarget e' = false := by
      simpa [key, TriggerEdit.sameTarget] using apart
    simp only [under_upsert_self]
    exact interchangeable_put_put _ targets
  · subst here
    simp only [under_upsert_self, under_upsert_ne _ there]
    exact .refl _
  · subst there
    simp only [under_upsert_self, under_upsert_ne _ here]
    exact .refl _
  · simp only [under_upsert_ne _ here, under_upsert_ne _ there]
    exact .refl _

/-! ## The last writer -/

/-- What becomes of thresholds to which the edits of a path are applied, after edits were
added one after another to what the table held. -/
structure LastWriterWins (edits : TriggerEdits) (added : List (String × TriggerEdit))
    (path : String) (ts : List Threshold) : Prop where
  /-- A threshold takes the trigger that was added last for the path and for its severity and
  direction as they are written, else that of the last edit there at the start that names its
  slot; all else of it stays. -/
  triggers : ((edits.upsertAll added).apply path ts).1 = ts.map fun t =>
    { t with trigger :=
        (((lastAdded path t.slot.level.severity t.slot.direction.comparison added).or
          ((edits.under path).reverse.find? fun e => e.slot? = some t.slot)).map
            (·.value)).getD t.trigger }
  /-- An edit under another path changes nothing here. -/
  elsewhere : ∀ other e, other ≠ path →
    ((edits.upsertAll added).upsert other e).apply path ts = (edits.upsertAll added).apply path ts
  /-- Two neighbours in the row of edits that differ in what they are for may change places. -/
  commute : ∀ before a b after, added = before ++ a :: b :: after → key a ≠ key b →
    (edits.upsertAll (before ++ b :: a :: after)).apply path ts =
      (edits.upsertAll added).apply path ts
  /-- What was applied once is applied for good. -/
  again : (edits.upsertAll added).apply path ((edits.upsertAll added).apply path ts).1 =
    (edits.upsertAll added).apply path ts
  /-- A further edit is the only one for its severity and direction under its path. -/
  alone : ∀ e, (((edits.upsertAll added).upsert path e).under path).filter
    (·.isFor e.severity e.direction) = [e]

/-- **The last writer wins**, whatever the table held before, duplicates and edits that name no
slot included. -/
theorem last_writer_wins (edits : TriggerEdits) (added : List (String × TriggerEdit))
    (path : String) (ts : List Threshold) (distinct : (ts.map (·.slot)).Nodup) :
    LastWriterWins edits added path ts where
  triggers := by
    show (applyAll _ ts).1 = _
    rw [applyAll_eq_map _ distinct]
    refine List.map_congr_left fun t _ => ?_
    unfold retrigger
    rw [lastFor_under_upsertAll, Option.map_or]
    rfl
  elsewhere other e ne := by
    unfold apply
    rw [under_upsert_ne _ ne]
  commute before a b after row apart := by
    subst row
    have swapped := (alike_upsert_upsert (edits.upsertAll before) apart).upsertAll after
    rw [upsertAll_append, upsertAll_append]
    exact ((swapped path).applyAll_eq distinct).symm
  again := applyAll_applyAll _ distinct
  alone e := by
    have itself : e.isFor e.severity e.direction = true := by simp [TriggerEdit.isFor]
    rw [under_upsert_self, filter_put, if_pos itself]

/-- A table with two edits for one slot and two that name none, to which one more is added: the
first threshold has the added trigger, the second the later of two, and the third its own. -/
theorem last_writer_wins_over_duplicates :
    let stood : List TriggerEdit := [⟨"T", 1, "less than", 5⟩, ⟨"T", 9, "greater than", 1⟩,
      ⟨"T", 0, "greater than", 80⟩, ⟨"T", 1, "less than", 7⟩, ⟨"T", 0, "above", 2⟩]
    let edits : TriggerEdits := ⟨empty.entries.insert "/a" stood⟩
    let added := [("/a", ⟨"T", 0, "greater than", 90⟩), ("/b", ⟨"T", 0, "greater than", 60⟩)]
    let ts := [Threshold.ofTrigger ⟨.warning, .high⟩ 70, .ofTrigger ⟨.critical, .low⟩ 10,
      .ofTrigger ⟨.critical, .high⟩ 95]
    (ts.map (·.slot)).Nodup ∧ LastWriterWins edits added "/a" ts ∧
      (((edits.upsertAll added).apply "/a" ts).1.map (·.trigger) = [90, 7, 95]) := by
  intro stood edits added ts
  have distinct : (ts.map (·.slot)).Nodup := by decide
  exact ⟨distinct, last_writer_wins edits added "/a" ts distinct, by decide +kernel⟩

end TriggerEdits

end SensorMonitor
