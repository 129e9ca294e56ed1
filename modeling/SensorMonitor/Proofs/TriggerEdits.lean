/-
# Proofs.TriggerEdits -- the last edit decides

Whatever stands in a list of edits, the last one for a slot decides the trigger of its threshold
(`lastFor`, `applyAll_eq_map`).  A new edit is the last one for its own slot and leaves the others
as they were (`lastFor_put`), and of all edits with its severity and direction it is the only
one left (`filter_put`).  So after edits one after another each path, severity and direction has
the last of them, or what was there before (`filter_under_upsertAll`).
-/
import SensorMonitor.Proofs.Thresholds
import SensorMonitor.TriggerEdits

namespace SensorMonitor

set_option autoImplicit false

namespace TriggerEdit

/-- The edit is for this severity and direction, as they are written. -/
def isFor (severity : Nat) (direction : String) (e : TriggerEdit) : Bool :=
  e.severity = severity && e.direction = direction

theorem sameTarget_eq (a b : TriggerEdit) : a.sameTarget b = a.isFor b.severity b.direction := rfl

theorem slot?_eq_of_sameTarget {a b : TriggerEdit} (same : a.sameTarget b = true) :
    a.slot? = b.slot? := by
  simp only [sameTarget, Bool.and_eq_true, decide_eq_true_eq] at same
  unfold slot?
  rw [same.1, same.2]

end TriggerEdit

namespace TriggerEdits

/-! ## The last edit for a slot -/

/-- The trigger that the last edit for a slot gives. -/
def lastFor (slot : Slot) (edits : List TriggerEdit) : Option Float :=
  (edits.reverse.find? fun e => e.slot? = some slot).map (·.value)

theorem lastFor_concat (slot : Slot) (edits : List TriggerEdit) (e : TriggerEdit) :
    lastFor slot (edits ++ [e]) =
      if e.slot? = some slot then some e.value else lastFor slot edits := by
  unfold lastFor
  rw [List.reverse_concat, List.find?_cons]
  by_cases here : e.slot? = some slot <;> simp [here]

/-- A new edit decides its own slot and leaves the others alone. -/
theorem lastFor_put (slot : Slot) (edits : List TriggerEdit) (e : TriggerEdit) :
    lastFor slot (put edits e) =
      if e.slot? = some slot then some e.value else lastFor slot edits := by
  unfold put
  rw [lastFor_concat]
  split
  · rfl
  · next apart =>
      -- the edits that make room name the slot of the new one
      unfold lastFor
      rw [← List.filter_reverse, List.find?_filter]
      congr 2
      funext other
      by_cases here : other.slot? = some slot
      · have stays : other.sameTarget e = false := by
          by_contra same
          rw [Bool.not_eq_false] at same
          exact apart (TriggerEdit.slot?_eq_of_sameTarget same ▸ here)
        simp [here, stays]
      · simp [here]

/-- Of the edits for one severity and direction the new one is the only one left. -/
theorem filter_put (severity : Nat) (direction : String) (edits : List TriggerEdit)
    (e : TriggerEdit) : (put edits e).filter (·.isFor severity direction) =
      if e.isFor severity direction then [e] else edits.filter (·.isFor severity direction) := by
  unfold put
  rw [List.filter_append, List.filter_filter]
  by_cases here : e.isFor severity direction = true
  · have target : e.severity = severity ∧ e.direction = direction := by
      simpa [TriggerEdit.isFor] using here
    have gone : (edits.filter fun other =>
        other.isFor severity direction && !other.sameTarget e) = [] := by
      rw [List.filter_eq_nil_iff]
      intro other _
      rw [TriggerEdit.sameTarget_eq, target.1, target.2]
      simp
    rw [gone, if_pos here]
    simp [here]
  · have stays : ∀ other : TriggerEdit,
        (other.isFor severity direction && !other.sameTarget e) =
          other.isFor severity direction := by
      intro other
      simp only [TriggerEdit.isFor, TriggerEdit.sameTarget] at here ⊢
      grind
    rw [if_neg here]
    simp [stays, here]

/-! ## Edits one after another -/

/-- Adds edits under configuration paths, one after another. -/
def upsertAll (edits : TriggerEdits) (added : List (String × TriggerEdit)) : TriggerEdits :=
  added.foldl (fun edits a => edits.upsert a.1 a.2) edits

theorem upsertAll_concat (edits : TriggerEdits) (added : List (String × TriggerEdit))
    (a : String × TriggerEdit) :
    edits.upsertAll (added ++ [a]) = (edits.upsertAll added).upsert a.1 a.2 :=
  List.foldl_concat ..

/-- The last edit that was added for a path, a severity and a direction. -/
def lastAdded (path : String) (severity : Nat) (direction : String)
    (added : List (String × TriggerEdit)) : Option TriggerEdit :=
  (added.reverse.find? fun a => a.1 = path && a.2.isFor severity direction).map (·.2)

/-- **The last edit is the only one left** for its path, severity and direction; where none was
added, what was there stays. -/
theorem filter_under_upsertAll (edits : TriggerEdits) (added : List (String × TriggerEdit))
    (path : String) (severity : Nat) (direction : String) :
    ((edits.upsertAll added).under path).filter (·.isFor severity direction) =
      match lastAdded path severity direction added with
      | some e => [e]
      | none => (edits.under path).filter (·.isFor severity direction) := by
  induction added using List.reverseRecOn with
  | nil => rfl
  | append_singleton added a ih =>
      obtain ⟨other, e⟩ := a
      rw [upsertAll_concat, under_upsert]
      unfold lastAdded at ih ⊢
      rw [List.reverse_concat, List.find?_cons]
      by_cases here : other = path
      · subst here
        rw [if_pos rfl, filter_put]
        by_cases target : e.isFor severity direction = true
        · simp [target]
        · simp [target, ih]
      · simp [here, ih]

/-! ## Applied edits -/

/-- The threshold with the trigger that the edits give it. -/
def retrigger (edits : List TriggerEdit) (t : Threshold) : Threshold :=
  { t with trigger := (lastFor t.slot edits).getD t.trigger }

theorem applyOne_eq_map (e : TriggerEdit) {ts : List Threshold}
    (distinct : (ts.map (·.slot)).Nodup) : (applyOne e ts).1 =
      ts.map fun t => if e.slot? = some t.slot then { t with trigger := e.value } else t := by
  induction ts with
  | nil => rfl
  | cons t rest ih =>
      rw [List.map_cons, List.nodup_cons] at distinct
      obtain ⟨apart, distinct⟩ := distinct
      unfold applyOne
      by_cases here : e.slot? = some t.slot
      · have others : rest.map (fun t => if e.slot? = some t.slot then
            { t with trigger := e.value } else t) = rest := by
          conv_rhs => rw [← List.map_id rest]
          refine List.map_congr_left fun other member => if_neg fun same => ?_
          have slots : t.slot = other.slot := Option.some.inj (here.symm.trans same)
          exact apart (slots ▸ List.mem_map_of_mem member)
        rw [if_pos here, List.map_cons, others, if_pos here]
      · rw [if_neg here, List.map_cons, if_neg here, ← ih distinct]

theorem map_slot_applyOne (e : TriggerEdit) (ts : List Threshold) :
    (applyOne e ts).1.map (·.slot) = ts.map (·.slot) := by
  induction ts with
  | nil => rfl
  | cons t rest ih =>
      unfold applyOne
      split
      · rfl
      · simpa using ih

theorem applyAll_concat (edits : List TriggerEdit) (e : TriggerEdit) (ts : List Threshold) :
    (applyAll (edits ++ [e]) ts).1 = (applyOne e (applyAll edits ts).1).1 := by
  unfold applyAll
  rw [List.foldl_concat]

/-- Applied edits leave every slot where it is. -/
theorem map_slot_applyAll (edits : List TriggerEdit) (ts : List Threshold) :
    (applyAll edits ts).1.map (·.slot) = ts.map (·.slot) := by
  induction edits using List.reverseRecOn with
  | nil => rfl
  | append_singleton edits e ih => rw [applyAll_concat, map_slot_applyOne, ih]

/-- **Applied edits give each threshold the trigger of the last one for its slot.** -/
theorem applyAll_eq_map (edits : List TriggerEdit) {ts : List Threshold}
    (distinct : (ts.map (·.slot)).Nodup) : (applyAll edits ts).1 = ts.map (retrigger edits) := by
  induction edits using List.reverseRecOn with
  | nil => exact (List.map_id ts).symm
  | append_singleton edits e ih =>
      have slots : ((applyAll edits ts).1.map (·.slot)).Nodup := by
        rwa [map_slot_applyAll]
      rw [applyAll_concat, applyOne_eq_map e slots, ih, List.map_map]
      refine List.map_congr_left fun t _ => ?_
      show (if e.slot? = some t.slot then _ else _) = _
      unfold retrigger
      rw [lastFor_concat]
      by_cases here : e.slot? = some t.slot <;> simp [here]

end TriggerEdits

end SensorMonitor
