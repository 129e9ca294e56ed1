/-
# Proofs.Thresholds.Nesting -- alarms of one direction that rise and clear in order

Two thresholds of one direction keep their alarms apart from each other, with triggers and
bands of their own.  If one lies around the other, with its trigger and its clear point both
on the outer side (`Threshold.Encloses`), then a reading that raises the inner alarm raises
the outer one as well, and one that clears the outer alarm clears the inner one as well.
From then on no reading can leave the inner alarm raised and the outer one clear
(`Threshold.Encloses.evaluateAll`).

Where the milder levels lie around the more severe ones, the alarms of a direction can be
read as one escalation: none is raised before those below it
(`Thresholds.raised_after_milder`).
-/
import SensorMonitor.Proofs.Thresholds.Latching

namespace SensorMonitor

set_option autoImplicit false

/-! ## Two thresholds -/

namespace Threshold

/-- Where the alarm is cleared. -/
def clearPoint (t : Threshold) : Float :=
  match t.slot.direction with
  | .high => t.trigger - t.band
  | .low => t.trigger + t.band

/-- The outer threshold has the direction of the inner one and, seen from its side, neither the
trigger nor the clear point behind it. -/
def Encloses (outer inner : Threshold) : Prop :=
  outer.slot.direction = inner.slot.direction ∧
    (outer.slot.direction = .high →
      outer.trigger ≤ inner.trigger ∧ outer.clearPoint ≤ inner.clearPoint) ∧
    (outer.slot.direction = .low →
      inner.trigger ≤ outer.trigger ∧ inner.clearPoint ≤ outer.clearPoint)

instance (outer inner : Threshold) : Decidable (outer.Encloses inner) :=
  inferInstanceAs (Decidable (_ ∧ (_ → _) ∧ (_ → _)))

namespace Encloses

variable {outer inner : Threshold}

theorem raises (nested : outer.Encloses inner) {x : Float} (raised : inner.raises x = true) :
    outer.raises x = true := by
  obtain ⟨same, high, low⟩ := nested
  simp only [Threshold.raises, ← same] at raised ⊢
  cases direction : outer.slot.direction with
  | high =>
      simp only [direction, decide_eq_true_eq] at raised ⊢
      exact Number.lt_of_le_of_lt (high direction).1 raised
  | low =>
      simp only [direction, decide_eq_true_eq] at raised ⊢
      exact Number.lt_of_lt_of_le raised (low direction).1

theorem clears (nested : outer.Encloses inner) {x : Float} (cleared : outer.clears x = true) :
    inner.clears x = true := by
  obtain ⟨same, high, low⟩ := nested
  simp only [clearPoint, Threshold.clears, ← same] at high low cleared ⊢
  cases direction : outer.slot.direction with
  | high =>
      simp only [direction, decide_eq_true_eq] at high cleared ⊢
      exact Number.le_trans cleared (high trivial).2
  | low =>
      simp only [direction, decide_eq_true_eq] at low cleared ⊢
      exact Number.le_trans (low trivial).2 cleared

/-- **A reading keeps the alarms in order.**  An inner alarm that the reading raises is raised
outside too, and one that it spares it spares outside too. -/
theorem latch (nested : outer.Encloses inner) (usable : outer.Usable) (usable' : inner.Usable)
    (order : inner.active = true → outer.active = true) {x : Float}
    (raised : inner.latch x = true) : outer.latch x = true := by
  rw [usable'.latch_eq, Bool.or_eq_true, Bool.and_eq_true, Bool.not_eq_true'] at raised
  rw [usable.latch_eq, Bool.or_eq_true, Bool.and_eq_true, Bool.not_eq_true']
  rcases raised with raises | ⟨active, spared⟩
  · exact Or.inl (nested.raises raises)
  · refine Or.inr ⟨order active, ?_⟩
    by_contra cleared
    rw [nested.clears (Bool.eq_true_of_not_eq_false cleared)] at spared
    cases spared

/-- **So does any row of readings.** -/
theorem evaluateAll (nested : outer.Encloses inner) (usable : outer.Usable)
    (usable' : inner.Usable) (order : inner.active = true → outer.active = true)
    (xs : List Float) (raised : (inner.evaluateAll xs).active = true) :
    (outer.evaluateAll xs).active = true := by
  induction xs generalizing outer inner with
  | nil => exact order raised
  | cons x xs ih =>
      have later : (outer.evaluate x).Encloses (inner.evaluate x) := nested
      exact ih later (usable.evaluate x) (usable'.evaluate x)
        (nested.latch usable usable' order) raised

end Encloses

end Threshold

/-! ## Levels -/

namespace Thresholds

/-- In each direction every threshold encloses those that are more severe. -/
def NestedByLevel (ts : Thresholds) : Prop :=
  ∀ a ∈ ts.toList, ∀ b ∈ ts.toList, a.slot.direction = b.slot.direction →
    a.slot.level.severity < b.slot.level.severity → a.Encloses b

instance (ts : Thresholds) : Decidable ts.NestedByLevel :=
  inferInstanceAs (Decidable (∀ a ∈ ts.toList, ∀ b ∈ ts.toList, _ → _ → _))

variable {ts : Thresholds}

theorem Usable.evaluateAll (usable : ts.Usable) (xs : List Float) : (ts.evaluateAll xs).Usable := by
  refine ⟨usable.ordered.evaluateAll xs, fun t member => ?_⟩
  rw [toList_evaluateAll] at member
  obtain ⟨before, present, rfl⟩ := List.mem_map.1 member
  exact (usable.each before present).evaluateAll xs

theorem NestedByLevel.evaluateAll (nested : ts.NestedByLevel) (xs : List Float) :
    (ts.evaluateAll xs).NestedByLevel := by
  intro a member b member'
  rw [toList_evaluateAll] at member member'
  obtain ⟨a, present, rfl⟩ := List.mem_map.1 member
  obtain ⟨b, present', rfl⟩ := List.mem_map.1 member'
  rw [a.evaluateAll_eq, b.evaluateAll_eq]
  exact nested a present b present'

theorem mem_evaluateAll {t : Threshold} (member : t ∈ ts.toList) (xs : List Float) :
    t.evaluateAll xs ∈ (ts.evaluateAll xs).toList := by
  rw [toList_evaluateAll]
  exact List.mem_map_of_mem member

theorem Ordered.alarm_evaluateAll (ordered : ts.Ordered) {t : Threshold} (member : t ∈ ts.toList)
    (xs : List Float) : (ts.evaluateAll xs).alarm t.slot = (t.evaluateAll xs).active := by
  have found := (ordered.evaluateAll xs).alarm_eq (mem_evaluateAll member xs)
  rwa [t.evaluateAll_eq] at found

/-- Of two changes of a reading, the one of the slot before is told before. -/
theorem Ordered.mem_before (ordered : ts.Ordered) {x : Float} {before after : List AlarmEdge}
    {early late : AlarmEdge} (told : ts.edges x = before ++ late :: after)
    (member : early ∈ ts.edges x) (lt : early.slot.rank < late.slot.rank) : early ∈ before := by
  have ascending := ordered.ascending x
  rw [told] at ascending member
  obtain ⟨-, rest, -⟩ := List.pairwise_append.1 ascending
  rcases List.mem_append.1 member with first | last
  · exact first
  · rcases List.mem_cons.1 last with rfl | behind
    · omega
    · have gt := (List.pairwise_cons.1 rest).1 early behind
      omega

/-- **A raise comes after those of the milder levels.**  When a reading raises an alarm, each
milder one of its direction is raised as well: it was so before, or is told so first. -/
theorem raised_after_milder (usable : ts.Usable) (nested : ts.NestedByLevel) {x : Float}
    {before after : List AlarmEdge} {e : AlarmEdge} (told : ts.edges x = before ++ e :: after)
    (raised : e.raised = true) {a : Threshold} (member : a ∈ ts.toList)
    (same : a.slot.direction = e.slot.direction)
    (milder : a.slot.level.severity < e.slot.level.severity) :
    (ts.evaluate x).alarm a.slot = true ∧
      (ts.alarm a.slot = true ∨ ⟨a.slot, true, x, a.trigger⟩ ∈ before) := by
  have present : e ∈ ts.edges x := by simp [told]
  obtain ⟨b, member', turned, rfl⟩ := (mem_edges_iff ts x e).1 present
  -- The alarm was clear before, so that it is the reading itself that raises it.
  have clear : b.active = false := by
    cases active : b.active with
    | false => rfl
    | true => exact absurd (raised.trans active.symm) turned
  have latched : a.latch x = true := by
    refine (nested a member b member' same milder).latch (usable.each a member)
      (usable.each b member') ?_ raised
    intro active
    rw [clear] at active
    cases active
  have moved : a.evaluate x ∈ (ts.evaluate x).toList := List.mem_map_of_mem member
  refine ⟨((usable.ordered.evaluate x).alarm_eq moved).trans latched, ?_⟩
  rw [usable.ordered.alarm_eq member]
  cases active : a.active with
  | true => exact Or.inl rfl
  | false =>
      refine Or.inr (usable.ordered.mem_before told ?_ ((Slot.rank_lt_iff _ _).2 (Or.inl milder)))
      exact (mem_edges_iff ts x _).2 ⟨a, member, by simp [latched, active], by rw [latched]⟩

/-- **Nested alarms are raised in order.**  Of usable thresholds that start clear, after any row
of readings, an alarm is raised only if those around it are.  And where thresholds are nested by
level, whatever their alarms were at first, no reading in the row tells that an alarm is raised
while a milder one of its direction stays clear: that one was raised before, or is told to be
raised earlier in the same turn. -/
theorem alarms_nest (usable : ts.Usable) :
    ((∀ t ∈ ts.toList, t.active = false) →
      ∀ a ∈ ts.toList, ∀ b ∈ ts.toList, a.Encloses b →
        ∀ xs, (ts.evaluateAll xs).alarm b.slot = true →
          (ts.evaluateAll xs).alarm a.slot = true) ∧
    (ts.NestedByLevel →
      ∀ xs x before e after, (ts.evaluateAll xs).edges x = before ++ e :: after →
        e.raised = true → ∀ a ∈ ts.toList, a.slot.direction = e.slot.direction →
          a.slot.level.severity < e.slot.level.severity →
            ((ts.evaluateAll xs).evaluate x).alarm a.slot = true ∧
            ((ts.evaluateAll xs).alarm a.slot = true ∨
              ⟨a.slot, true, x, a.trigger⟩ ∈ before)) := by
  constructor
  · intro clear a member b member' nested xs raised
    rw [usable.ordered.alarm_evaluateAll member]
    rw [usable.ordered.alarm_evaluateAll member'] at raised
    refine nested.evaluateAll (usable.each a member) (usable.each b member') ?_ xs raised
    intro active
    rw [clear b member'] at active
    cases active
  · intro nested xs x before e after told raised a member same milder
    have order := raised_after_milder (usable.evaluateAll xs) (nested.evaluateAll xs) told raised
      (mem_evaluateAll member xs)
    rw [a.evaluateAll_eq] at order
    exact order same milder

/-- Two high thresholds, the milder one around the other, with a low one between them. -/
def escalating : Thresholds :=
  ⟨[.ofBand ⟨.warning, .high⟩ 80 5, .ofTrigger ⟨.warning, .low⟩ 10,
    .ofBand ⟨.critical, .high⟩ 90 2]⟩

/-- The critical alarm outlasts 89, which is within its band, and so does the warning. -/
theorem alarms_nest_sample :
    ofList escalating.toList = .ok escalating ∧
    (∀ t ∈ escalating.toList, t.active = false) ∧ escalating.NestedByLevel ∧
    (escalating.evaluateAll [85, 95, 89]).alarm ⟨.critical, .high⟩ = true ∧
    (escalating.evaluateAll [85, 95, 89]).alarm ⟨.warning, .high⟩ = true ∧
    (escalating.evaluateAll [42]).edges 95 =
      [⟨⟨.warning, .high⟩, true, 95, 80⟩, ⟨⟨.critical, .high⟩, true, 95, 90⟩] ∧
    ((escalating.evaluateAll [42]).evaluate 95).alarm ⟨.warning, .high⟩ = true := by
  have sorted : sort escalating.toList = escalating.toList :=
    List.mergeSort_of_pairwise (by decide)
  have defined : ofList escalating.toList = .ok escalating :=
    (ofList_eq_ok_iff _ _).2 ⟨by decide, by decide, by decide, by rw [sorted]⟩
  have clear : ∀ t ∈ escalating.toList, t.active = false := by decide
  have nested : escalating.NestedByLevel := by decide
  obtain ⟨order, turn⟩ := alarms_nest (usable_of_ofList defined)
  have raised : (escalating.evaluateAll [85, 95, 89]).alarm ⟨.critical, .high⟩ = true := by decide
  have told : (escalating.evaluateAll [42]).edges 95 =
      [⟨⟨.warning, .high⟩, true, 95, 80⟩] ++ ⟨⟨.critical, .high⟩, true, 95, 90⟩ :: [] := by
    decide
  refine ⟨defined, clear, nested, raised, ?_, told, ?_⟩
  · exact order clear (.ofBand ⟨.warning, .high⟩ 80 5) (by decide)
      (.ofBand ⟨.critical, .high⟩ 90 2) (by decide) (by decide) _ raised
  · exact (turn nested [42] 95 _ _ _ told rfl (.ofBand ⟨.warning, .high⟩ 80 5) (by decide) rfl
      (by decide)).1

end Thresholds

end SensorMonitor
