/-
# Proofs.Thresholds.Latching -- an alarm is what the readings so far made of it

Thresholds are put to readings one at a time, and each keeps nothing but its alarm.  What
the alarm is after a row of readings can still be said of the row as a whole: it is raised
exactly if some reading was beyond the trigger and none since was back behind the band
(`Threshold.Latched`, `Threshold.active_evaluateAll_iff`).  The changes that are told are the
turns of this latch, a threshold tells the same among others as alone, and the changes of one
reading come in the order of slots (`alarms_latch`).
-/
import SensorMonitor.Proofs.Thresholds

namespace SensorMonitor

set_option autoImplicit false

/-! ## One threshold -/

namespace Threshold

/-- A reading was beyond the trigger, and none since was back behind the band. -/
def Latched (t : Threshold) (xs : List Float) : Prop :=
  match t.slot.direction with
  | .high => ∃ before x after, xs = before ++ x :: after ∧ t.trigger < x ∧
      ∀ y ∈ after, ¬ y ≤ t.trigger - t.band
  | .low => ∃ before x after, xs = before ++ x :: after ∧ x < t.trigger ∧
      ∀ y ∈ after, ¬ t.trigger + t.band ≤ y

/-- The threshold after a row of readings. -/
def evaluateAll (t : Threshold) (xs : List Float) : Threshold := xs.foldl evaluate t

variable {t : Threshold}

theorem latched_iff (t : Threshold) (xs : List Float) : t.Latched xs ↔
    ∃ before x after, xs = before ++ x :: after ∧ t.raises x = true ∧
      ∀ y ∈ after, t.clears y = false := by
  cases direction : t.slot.direction <;>
    simp only [Latched, raises, clears, direction, decide_eq_true_eq, decide_eq_false_iff_not]

theorem not_latched_nil (t : Threshold) : ¬ t.Latched [] := by
  rw [latched_iff]
  rintro ⟨before, x, after, split, -⟩
  simp at split

/-- One more reading raises the alarm, or leaves a raised one unless it clears it. -/
theorem latched_concat (t : Threshold) (xs : List Float) (x : Float) :
    t.Latched (xs ++ [x]) ↔ t.raises x = true ∨ t.Latched xs ∧ t.clears x = false := by
  simp only [latched_iff]
  constructor
  · rintro ⟨before, y, after, split, raises, spared⟩
    rcases List.eq_nil_or_concat' after with rfl | ⟨earlier, last, rfl⟩
    · obtain ⟨-, same⟩ := List.append_inj' split rfl
      cases same
      exact Or.inl raises
    · rw [← List.cons_append, ← List.append_assoc] at split
      obtain ⟨rfl, same⟩ := List.append_inj' split rfl
      cases same
      exact Or.inr ⟨⟨before, y, earlier, rfl, raises, fun z member =>
        spared z (List.mem_append_left _ member)⟩, spared x (by simp)⟩
  · rintro (raises | ⟨⟨before, y, after, rfl, raises, spared⟩, spares⟩)
    · exact ⟨xs, x, [], rfl, raises, List.forall_mem_nil _⟩
    · refine ⟨before, y, after ++ [x], by simp, raises, ?_⟩
      intro z member
      rcases List.mem_append.1 member with early | late
      · exact spared z early
      · rwa [List.mem_singleton.1 late]

/-- No direction needs to be told apart, nor lost readings: these neither raise nor clear. -/
theorem Usable.latch_eq (usable : t.Usable) (x : Float) :
    t.latch x = (t.raises x || t.active && !t.clears x) := by
  cases lost : x.isNaN with
  | true =>
      have unmoved : t.raises x = false ∧ t.clears x = false := by
        simp only [raises, clears]
        cases t.slot.direction <;> simp only [decide_eq_false_iff_not, Number.lt_iff,
          Number.le_iff] <;> rw [lost] <;> simp
      rw [latch_of_isNaN t x lost, unmoved.1, unmoved.2]
      simp
  | false =>
      simp only [latch]
      rw [lost]
      cases active : t.active with
      | false => simp
      | true =>
          cases clears : t.clears x with
          | false => simp
          | true => simp [not_raises_of_clears usable clears]

theorem Usable.evaluate (usable : t.Usable) (x : Float) : (t.evaluate x).Usable :=
  ⟨usable.finite, usable.nonneg⟩

theorem evaluateAll_concat (t : Threshold) (xs : List Float) (x : Float) :
    t.evaluateAll (xs ++ [x]) = (t.evaluateAll xs).evaluate x :=
  List.foldl_concat ..

/-- Readings move the alarm and nothing else. -/
theorem evaluateAll_eq (t : Threshold) (xs : List Float) :
    t.evaluateAll xs = { t with active := (t.evaluateAll xs).active } := by
  induction xs using List.reverseRecOn with
  | nil => rfl
  | append_singleton xs x ih =>
      rw [evaluateAll_concat, Threshold.evaluate, ih]

theorem Usable.evaluateAll (usable : t.Usable) (xs : List Float) : (t.evaluateAll xs).Usable := by
  rw [evaluateAll_eq]
  exact ⟨usable.finite, usable.nonneg⟩

/-- **A threshold that starts clear is raised exactly if its readings latched it.** -/
theorem active_evaluateAll_iff (usable : t.Usable) (clear : t.active = false) (xs : List Float) :
    (t.evaluateAll xs).active = true ↔ t.Latched xs := by
  induction xs using List.reverseRecOn with
  | nil =>
      have start : (t.evaluateAll []).active = false := clear
      simp [start, not_latched_nil]
  | append_singleton xs x ih =>
      have same : (t.evaluateAll xs).raises x = t.raises x ∧
          (t.evaluateAll xs).clears x = t.clears x := by
        rw [evaluateAll_eq]
        exact ⟨rfl, rfl⟩
      calc (t.evaluateAll (xs ++ [x])).active = true
          ↔ (t.evaluateAll xs).latch x = true := by rw [evaluateAll_concat, Threshold.evaluate]
        _ ↔ t.raises x = true ∨ (t.evaluateAll xs).active = true ∧ t.clears x = false := by
            rw [(usable.evaluateAll xs).latch_eq, same.1, same.2]
            simp
        _ ↔ t.Latched (xs ++ [x]) := by rw [ih, latched_concat]

end Threshold

/-! ## Many thresholds -/

theorem Slot.rank_lt_iff (a b : Slot) : a.rank < b.rank ↔
    a.level.severity < b.level.severity ∨
      a.level = b.level ∧ a.direction = .high ∧ b.direction = .low := by
  rcases a with ⟨l, d⟩
  rcases b with ⟨l', d'⟩
  cases l <;> cases d <;> cases l' <;> cases d' <;> decide

namespace Thresholds

/-- Slots are distinct and in ascending order, and every threshold is usable. -/
structure Usable (ts : Thresholds) : Prop where
  ordered : ts.Ordered
  each : ∀ t ∈ ts.toList, t.Usable

/-- **Whatever a list defines is usable.**  A hysteresis that is not set counts as zero. -/
theorem usable_of_ofList {given : List Threshold} {ts : Thresholds}
    (defined : ofList given = .ok ts) : ts.Usable := by
  obtain ⟨-, allValid, distinct, rfl⟩ := (ofList_eq_ok_iff given ts).1 defined
  refine ⟨ordered_sort distinct, ?_⟩
  intro t member
  have present : t ∈ given := (List.mergeSort_perm given _).mem_iff.1 member
  have valid := allValid t present
  rw [Thresholds.valid, Bool.and_eq_true] at valid
  refine ⟨valid.1, ?_⟩
  simp only [Threshold.band]
  cases unset : t.hysteresis.isNaN with
  | true => exact (by decide : (0 : Float) ≤ 0)
  | false => exact nonneg_of_usable valid.2 unset

/-- The thresholds after a row of readings. -/
def evaluateAll (ts : Thresholds) (xs : List Float) : Thresholds := xs.foldl evaluate ts

/-- All the changes that a row of readings makes, in order. -/
def edgesAll (ts : Thresholds) : List Float → List AlarmEdge
  | [] => []
  | x :: xs => ts.edges x ++ (ts.evaluate x).edgesAll xs

/-- A threshold without any other. -/
def alone (t : Threshold) : Thresholds := ⟨[t]⟩

theorem toList_evaluateAll (ts : Thresholds) (xs : List Float) :
    (ts.evaluateAll xs).toList = ts.toList.map (·.evaluateAll xs) := by
  induction xs generalizing ts with
  | nil => exact (List.map_id ts.toList).symm
  | cons x xs ih =>
      change ((ts.evaluate x).evaluateAll xs).toList = _
      rw [ih, evaluate, List.map_map]
      rfl

section Edges

variable {ts : Thresholds} {t : Threshold}

theorem mem_edges_iff (ts : Thresholds) (x : Float) (e : AlarmEdge) : e ∈ ts.edges x ↔
    ∃ t ∈ ts.toList, t.latch x ≠ t.active ∧ e = ⟨t.slot, t.latch x, x, t.trigger⟩ := by
  simp only [edges, List.mem_filterMap, Threshold.edge?_eq_some_iff]

theorem Ordered.evaluate (ordered : ts.Ordered) (x : Float) : (ts.evaluate x).Ordered :=
  ordered_map _ (fun _ => rfl) ordered

theorem Ordered.evaluateAll (ordered : ts.Ordered) (xs : List Float) :
    (ts.evaluateAll xs).Ordered := by
  induction xs generalizing ts with
  | nil => exact ordered
  | cons x xs ih => exact ih (ordered.evaluate x)

/-- The changes of a reading come in the order of slots. -/
theorem Ordered.ascending (ordered : ts.Ordered) (x : Float) :
    (ts.edges x).Pairwise fun a b => a.slot.rank < b.slot.rank := by
  refine List.Pairwise.filterMap _ ?_ ordered
  intro t t' lt e told e' told'
  obtain ⟨-, rfl⟩ := (t.edge?_eq_some_iff x e).1 told
  obtain ⟨-, rfl⟩ := (t'.edge?_eq_some_iff x e').1 told'
  exact lt

theorem edges_alone (t : Threshold) (x : Float) : (alone t).edges x = (t.edge? x).toList := by
  change [t].filterMap (·.edge? x) = _
  rw [List.filterMap_cons]
  cases t.edge? x <;> rfl

/-- Only the threshold of a slot tells changes of it. -/
theorem Ordered.filter_edges (ordered : ts.Ordered) (member : t ∈ ts.toList) (x : Float) :
    (ts.edges x).filter (·.slot = t.slot) = (alone t).edges x := by
  have own : ts.toList.filter (·.slot = t.slot) = [t] := by
    obtain ⟨before, after, split⟩ := List.append_of_mem member
    have ascending : ts.toList.Pairwise _ := ordered
    rw [split] at ascending ⊢
    obtain ⟨-, later, earlier⟩ := List.pairwise_append.1 ascending
    have apart : ∀ o ∈ before, o.slot ≠ t.slot := fun o early same =>
      absurd (earlier o early t List.mem_cons_self) (by rw [same]; omega)
    have apart' : ∀ o ∈ after, o.slot ≠ t.slot := fun o late same =>
      absurd ((List.pairwise_cons.1 later).1 o late) (by rw [same]; omega)
    rw [List.filter_append, List.filter_cons_of_pos (by simp),
      List.filter_eq_nil_iff.2 (by simpa using apart),
      List.filter_eq_nil_iff.2 (by simpa using apart')]
    rfl
  have through : (ts.edges x).filter (·.slot = t.slot) =
      (ts.toList.filter (·.slot = t.slot)).filterMap (·.edge? x) := by
    rw [edges, List.filter_filterMap, List.filterMap_filter]
    refine List.filterMap_congr fun o _ => ?_
    simp only [Threshold.edge?]
    by_cases same : o.latch x = o.active <;> by_cases here : o.slot = t.slot <;> simp [same, here]
  rw [through, own]
  rfl

/-- **A threshold tells the same among others as alone.** -/
theorem Ordered.filter_edgesAll (ordered : ts.Ordered) (member : t ∈ ts.toList)
    (xs : List Float) : (ts.edgesAll xs).filter (·.slot = t.slot) = (alone t).edgesAll xs := by
  induction xs generalizing ts t with
  | nil => rfl
  | cons x xs ih =>
      have moved : t.evaluate x ∈ (ts.evaluate x).toList := List.mem_map_of_mem member
      rw [edgesAll, List.filter_append, ordered.filter_edges member]
      exact congrArg _ (ih (ordered.evaluate x) moved)

/-- What a threshold tells of its alarm alternates. -/
theorem isChain_edgesAll (t : Threshold) (xs : List Float) :
    (t.active :: ((alone t).edgesAll xs).map (·.raised)).IsChain (· ≠ ·) := by
  induction xs generalizing t with
  | nil => exact List.isChain_singleton _
  | cons x xs ih =>
      have later := ih (t.evaluate x)
      rw [edgesAll, edges_alone]
      change (_ :: (_ ++ (alone (t.evaluate x)).edgesAll xs).map _).IsChain _
      by_cases same : t.latch x = t.active
      · rw [Threshold.edge?, if_pos same]
        change (t.latch x :: _).IsChain _ at later
        rwa [same] at later
      · rw [Threshold.edge?, if_neg same]
        exact List.isChain_cons_cons.2 ⟨Ne.symm same, later⟩

end Edges

/-! ## The latch -/

section Latch

variable {ts : Thresholds}

theorem latched_iff_active (usable : ts.Usable) (clear : ∀ t ∈ ts.toList, t.active = false)
    {t : Threshold} (member : t ∈ ts.toList) (xs : List Float) :
    (t.evaluateAll xs).active = true ↔ t.Latched xs :=
  Threshold.active_evaluateAll_iff (usable.each t member) (clear t member) xs

/-- **A reading tells the turns of the latches, and nothing else.** -/
theorem mem_edges_evaluateAll_iff (usable : ts.Usable)
    (clear : ∀ t ∈ ts.toList, t.active = false) (xs : List Float) (x : Float) (e : AlarmEdge) :
    e ∈ (ts.evaluateAll xs).edges x ↔ ∃ t ∈ ts.toList, e.slot = t.slot ∧ e.reading = x ∧
      e.trigger = t.trigger ∧ (e.raised = true ↔ t.Latched (xs ++ [x])) ∧
      (e.raised = true ↔ ¬ t.Latched xs) := by
  rw [mem_edges_iff, toList_evaluateAll]
  simp only [List.mem_map, exists_exists_and_eq_and]
  refine exists_congr fun t => and_congr_right fun member => ?_
  obtain ⟨slot, raised, reading, trigger⟩ := e
  have now : (t.evaluateAll xs).latch x = true ↔ t.Latched (xs ++ [x]) := by
    rw [← latched_iff_active usable clear member, Threshold.evaluateAll_concat, Threshold.evaluate]
  have before := latched_iff_active usable clear member xs
  have unmoved : (t.evaluateAll xs).slot = t.slot ∧ (t.evaluateAll xs).trigger = t.trigger := by
    rw [Threshold.evaluateAll_eq]
    exact ⟨rfl, rfl⟩
  rw [unmoved.1, unmoved.2, ← now, ← before]
  simp only [AlarmEdge.mk.injEq]
  cases raised <;> cases (t.evaluateAll xs).latch x <;> cases (t.evaluateAll xs).active <;>
    simp

/-- **Every alarm is the latch of the readings so far.**  For thresholds that start clear, after
any row of readings: each is raised exactly if the row latched it; what was told of its slot is
what it tells alone, and alternates, beginning with a raise; a further reading tells exactly the
turns of the latches, by level and high before low. -/
theorem alarms_latch (usable : ts.Usable) (clear : ∀ t ∈ ts.toList, t.active = false)
    (xs : List Float) :
    (∀ t ∈ ts.toList,
      (∃ active, (ts.evaluateAll xs).get? t.slot = some { t with active := active } ∧
        (active = true ↔ t.Latched xs)) ∧
      (ts.edgesAll xs).filter (·.slot = t.slot) = (alone t).edgesAll xs ∧
      (false :: ((alone t).edgesAll xs).map (·.raised)).IsChain (· ≠ ·)) ∧
    ∀ x,
      (∀ e, e ∈ (ts.evaluateAll xs).edges x ↔ ∃ t ∈ ts.toList, e.slot = t.slot ∧
        e.reading = x ∧ e.trigger = t.trigger ∧ (e.raised = true ↔ t.Latched (xs ++ [x])) ∧
        (e.raised = true ↔ ¬ t.Latched xs)) ∧
      ((ts.evaluateAll xs).edges x).Pairwise fun a b =>
        a.slot.level.severity < b.slot.level.severity ∨
          a.slot.level = b.slot.level ∧ a.slot.direction = .high ∧ b.slot.direction = .low := by
  constructor
  · intro t member
    refine ⟨⟨(t.evaluateAll xs).active, ?_, latched_iff_active usable clear member xs⟩,
      usable.ordered.filter_edgesAll member xs, ?_⟩
    · rw [get?_eq_some_iff (usable.ordered.evaluateAll xs), toList_evaluateAll,
        ← Threshold.evaluateAll_eq]
      refine ⟨List.mem_map_of_mem member, ?_⟩
      rw [Threshold.evaluateAll_eq]
    · rw [← clear t member]
      exact isChain_edgesAll t xs
  · intro x
    refine ⟨mem_edges_evaluateAll_iff usable clear xs x, ?_⟩
    exact ((usable.ordered.evaluateAll xs).ascending x).imp fun lt => (Slot.rank_lt_iff _ _).1 lt

/-- Given out of order; the first has no hysteresis of its own. -/
def twoSided : List Threshold := [.ofTrigger ⟨.critical, .low⟩ 10, .ofBand ⟨.warning, .high⟩ 80 2]

/-- A high alarm is raised by 81 and outlasts 79, which is within the band, and a lost reading. -/
theorem alarms_latch_sample : ∃ ts, ofList twoSided = .ok ts ∧
    (∀ t ∈ ts.toList, t.active = false) ∧ Threshold.ofBand ⟨.warning, .high⟩ 80 2 ∈ ts.toList ∧
    ∃ active, (ts.evaluateAll [81, 79, Number.nan]).get? ⟨.warning, .high⟩ =
        some ⟨⟨.warning, .high⟩, 80, 2, active⟩ ∧
      (active = true ↔ (Threshold.ofBand ⟨.warning, .high⟩ 80 2).Latched [81, 79, Number.nan]) ∧
      (Threshold.ofBand ⟨.warning, .high⟩ 80 2).Latched [81, 79, Number.nan] := by
  have defined : ofList twoSided = .ok ⟨sort twoSided⟩ :=
    (ofList_eq_ok_iff _ _).2 ⟨by decide, by decide, by decide, rfl⟩
  have same : ∀ t, t ∈ sort twoSided ↔ t ∈ twoSided := fun t =>
    (List.mergeSort_perm twoSided _).mem_iff
  have clear : ∀ t ∈ sort twoSided, t.active = false := fun t member =>
    (by decide : ∀ t ∈ twoSided, t.active = false) t ((same t).1 member)
  have member : Threshold.ofBand ⟨.warning, .high⟩ 80 2 ∈ sort twoSided :=
    (same _).2 (by decide)
  obtain ⟨⟨active, found, latched⟩, -, -⟩ :=
    (alarms_latch (usable_of_ofList defined) clear [81, 79, Number.nan]).1 _ member
  exact ⟨_, defined, clear, member, active, found, latched,
    [], 81, [79, Number.nan], rfl, by decide, by decide⟩

end Latch

end Thresholds

end SensorMonitor
