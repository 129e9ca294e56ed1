/-
# Proofs.ExternalSensor.Expiry -- how a value perishes

Time alone takes the viability of a value away, and only a write gives it back (`Ages`).  The
first check that finds the value perished takes it away and says so; it leaves a mark, and
until the next write the mark keeps the checks from saying it again.  That the mark is there
means just this, that a check of the run found the value perished and nothing was written
since (`stale_run_iff`).  Hence what a check does can be told from the run alone
(`value_perishes`).
-/
import SensorMonitor.Proofs.ExternalSensor.Outpost

namespace SensorMonitor.Outpost

set_option autoImplicit false

variable {o : Outpost}

/-- Nothing is written among the occasions. -/
def Unwritten (cs : List Occasion) : Prop := ∀ x, .write x ∉ cs

/-- The time that is left to the value, if it perishes at all. -/
def remaining? (o : Outpost) : Option Nat := o.external.remaining? o.now

/-! ## Viability -/

/-- A value that perishes is viable as long as there is time left to it. -/
theorem isViable_iff_remaining? {timeout : Nat} (perishes : o.external.timeout = some timeout) :
    o.isViable = true ↔ ∃ left, o.remaining? = some left ∧ 0 < left := by
  simp only [isViable, remaining?, ExternalSensor.isViable, ExternalSensor.remaining?]
  rw [perishes]
  cases o.external.age? o.now with
  | none => simp
  | some age => simp

/-- From one outpost to the other time passes and nothing is written. -/
structure Ages (o o' : Outpost) : Prop where
  timeout : o'.external.timeout = o.external.timeout
  lastWrite : o'.external.lastWrite = o.external.lastWrite
  now : o.now ≤ o'.now
  stale : o.external.stale = true → o'.external.stale = true

namespace Ages

variable {o' o'' : Outpost}

theorem refl (o : Outpost) : Ages o o := ⟨rfl, rfl, Nat.le_refl _, id⟩

theorem trans (first : Ages o o') (second : Ages o' o'') : Ages o o'' :=
  ⟨second.timeout.trans first.timeout, second.lastWrite.trans first.lastWrite,
    first.now.trans second.now, fun stale => second.stale (first.stale stale)⟩

/-- With age alone viability does not come back. -/
theorem unviable (ages : Ages o o') (perished : o.isViable = false) : o'.isViable = false := by
  obtain ⟨timeout, lastWrite, later, -⟩ := ages
  revert perished
  simp only [isViable, ExternalSensor.isViable, ExternalSensor.age?]
  rw [timeout, lastWrite]
  cases o.external.timeout with
  | none => exact id
  | some period =>
      cases o.external.lastWrite with
      | none => exact id
      | some written =>
          simp only [Option.map_some, decide_eq_false_iff_not]
          omega

end Ages

theorem ages_step {c : Occasion} (regular : c.isRegular = true) (unwritten : ∀ x, c ≠ .write x) :
    Ages o (o.step c) := by
  cases c with
  | pass ns => exact ⟨rfl, rfl, o.now.le_add_right ns, id⟩
  | power status | access access => exact ⟨rfl, rfl, Nat.le_refl _, id⟩
  | write x => exact absurd rfl (unwritten x)
  | check =>
      cases expires : o.expires with
      | false =>
          rw [step_check_of_not_expires expires]
          exact .refl o
      | true =>
          refine ⟨?_, ?_, Nat.le_refl _, fun _ => ?_⟩ <;> rw [external_check expires]
  | perform op =>
      have after := external_perform (o := o) (Sensor.Op.isQuiet_of_isUpkeep regular)
      refine ⟨?_, ?_, Nat.le_refl _, fun stale => ?_⟩ <;> rw [after]
      exact stale

theorem ages_run {cs : List Occasion} (regular : ∀ c ∈ cs, c.isRegular = true)
    (unwritten : Unwritten cs) : Ages o (o.run cs) := by
  induction cs generalizing o with
  | nil => exact .refl o
  | cons c cs ih =>
      obtain ⟨here, later⟩ := List.forall_mem_cons.1 regular
      have first : Ages o (o.step c) := by
        refine ages_step here ?_
        rintro x rfl
        exact unwritten x List.mem_cons_self
      exact first.trans (ih later fun x asked => unwritten x (List.mem_cons_of_mem c asked))

/-! ## The mark of a stale value -/

/-- A check of the run found the value perished, and nothing was written since. -/
def FoundPerished (o : Outpost) (cs : List Occasion) : Prop :=
  ∃ before between, cs = before ++ .check :: between ∧ Unwritten between ∧
    (o.run before).isViable = false

theorem foundPerished_concat (o : Outpost) (cs : List Occasion) (c : Occasion) :
    o.FoundPerished (cs ++ [c]) ↔ (c = .check ∧ (o.run cs).isViable = false) ∨
      (o.FoundPerished cs ∧ ∀ x, c ≠ .write x) := by
  constructor
  · rintro ⟨before, between, split, unwritten, perished⟩
    obtain ⟨rfl, rfl, rfl⟩ | ⟨between, rfl, rfl⟩ := eq_or_of_concat split
    · exact Or.inl ⟨rfl, perished⟩
    · refine Or.inr ⟨⟨before, between, rfl, fun x asked => ?_, perished⟩, ?_⟩
      · exact unwritten x (List.mem_append_left _ asked)
      · rintro x rfl
        exact unwritten x (List.mem_append_right _ List.mem_cons_self)
  · rintro (⟨rfl, perished⟩ | ⟨⟨before, between, rfl, unwritten, perished⟩, spared⟩)
    · exact ⟨cs, [], rfl, fun x => List.not_mem_nil, perished⟩
    · refine ⟨before, between ++ [c], by simp, fun x asked => ?_, perished⟩
      rcases List.mem_append.1 asked with early | late
      · exact unwritten x early
      · exact spared x (List.mem_singleton.1 late).symm

/-- A check leaves the mark where the value has perished. -/
theorem stale_check (o : Outpost) :
    (o.step .check).external.stale = true ↔ o.external.stale = true ∨ o.isViable = false := by
  cases expires : o.expires with
  | true =>
      rw [external_check expires]
      exact iff_of_true rfl (Or.inr (o.expires_eq_true_iff.1 expires).1)
  | false =>
      rw [step_check_of_not_expires expires]
      rw [← Bool.not_eq_true, expires_eq_true_iff, not_and, Bool.not_eq_false] at expires
      exact ⟨Or.inl, fun marked => marked.elim id expires⟩

/-- **The mark tells the run.** -/
theorem stale_run_iff (order : o.InOrder) (fresh : o.external.stale = false) {cs : List Occasion}
    (regular : ∀ c ∈ cs, c.isRegular = true) :
    (o.run cs).external.stale = true ↔ o.FoundPerished cs := by
  -- from the right end, since the last write decides what counts
  induction cs using List.reverseRecOn with
  | nil =>
      refine iff_of_false (by rw [Bool.not_eq_true]; exact fresh) ?_
      rintro ⟨before, between, split, -⟩
      simp at split
  | append_singleton before c ih =>
      have earlier : ∀ c ∈ before, c.isRegular = true := fun c asked =>
        regular c (List.mem_append_left _ asked)
      have here : c.isRegular = true := regular c (by simp)
      have same := ih earlier
      rw [run_concat, foundPerished_concat, ← same]
      cases c with
      | write x =>
          rw [external_write (order.run earlier) x]
          simp
      | check => simp [stale_check, or_comm]
      | pass ns | power status | access access => simp [step]
      | perform op =>
          rw [external_perform (Sensor.Op.isQuiet_of_isUpkeep here)]
          simp

/-! ## What a run keeps -/

/-- No occasion changes the time that the value has, or what never changes about the sensor. -/
theorem constant_step (order : o.InOrder) {c : Occasion} (regular : c.isRegular = true) :
    (o.step c).external.timeout = o.external.timeout ∧
      (o.step c).sensor.identity = o.sensor.identity := by
  cases c with
  | pass ns | power status | access access => exact ⟨rfl, rfl⟩
  | write x =>
      simp only [sensor]
      rw [external_write order x]
      exact ⟨rfl, Sensor.perform_identity o.site.conditions (.write x) o.sensor⟩
  | check =>
      cases expires : o.expires with
      | false =>
          rw [step_check_of_not_expires expires]
          exact ⟨rfl, rfl⟩
      | true =>
          simp only [sensor]
          rw [external_check expires]
          exact ⟨rfl, Sensor.perform_identity o.site.conditions (.feed Number.nan) o.sensor⟩
  | perform op =>
      simp only [sensor]
      rw [external_perform (Sensor.Op.isQuiet_of_isUpkeep regular)]
      exact ⟨rfl, Sensor.perform_identity o.site.conditions op o.sensor⟩

theorem constant_run (order : o.InOrder) {cs : List Occasion}
    (regular : ∀ c ∈ cs, c.isRegular = true) :
    (o.run cs).external.timeout = o.external.timeout ∧
      (o.run cs).sensor.identity = o.sensor.identity := by
  induction cs generalizing o with
  | nil => exact ⟨rfl, rfl⟩
  | cons c cs ih =>
      obtain ⟨here, later⟩ := List.forall_mem_cons.1 regular
      obtain ⟨timeout, identity⟩ := constant_step order here
      obtain ⟨timeouts, identities⟩ := ih (order.step here) later
      exact ⟨timeouts.trans timeout, identities.trans identity⟩

/-! ## Loss and writes -/

/-- **The check that takes the value away shows the loss, once, and nothing else of a value.** -/
theorem values_check (order : o.InOrder) (expires : o.expires = true) (path : String) :
    (o.step .check).site.bus.values path = o.site.bus.values path ++
      if o.sensor.identity.path = path then [Number.nan] else [] := by
  have site : (o.step .check).site =
      o.site.absorbAll (o.sensor.perform o.site.conditions (.feed Number.nan)).effects :=
    congrArg Outpost.site (step_check_of_expires expires)
  have shown : Sensor.shown (o.sensor.perform o.site.conditions (.feed Number.nan)).effects =
      (Sensor.Act.store Number.nan o.sensor).2 :=
    (Sensor.Act.feed_nan order.receptive.free order.receptive.rest).2
  rw [site, Site.values_absorbAll, shown, Follower.announced_store]
  congr 1
  split <;> simp_all [Follower.changesOf, Event.valueAt?]

/-- A write shows its value and starts the time that the value has. -/
theorem written_spec (order : o.InOrder) {timeout : Nat}
    (perishes : o.external.timeout = some timeout) (x : Float) :
    (o.step (.write x)).sensor.value = x ∧
      ((o.step (.write x)).isViable = true ↔ 0 < timeout) := by
  simp only [sensor, isViable, ExternalSensor.isViable, ExternalSensor.age?]
  rw [external_write order x]
  refine ⟨(order.receptive.write o.site.conditions x).2.2.1, ?_⟩
  have now : (o.step (.write x)).now = o.now := rfl
  rw [now, perishes]
  simp

/-- **A value that perished is gone after the next check**, and stays away until something is
written. -/
theorem lost_of_unviable (order : o.InOrder) (perished : o.isViable = false) {more : List Occasion}
    (regular : ∀ c ∈ more, c.isRegular = true) (unwritten : Unwritten more) :
    (o.run (.check :: more)).external.stale = true ∧
      (o.run (.check :: more)).sensor.value.isNaN = true := by
  have marked : (o.step .check).external.stale = true := (stale_check o).2 (Or.inr perished)
  have stale : (o.run (.check :: more)).external.stale = true :=
    (ages_run (o := o.step .check) regular unwritten).stale marked
  exact ⟨stale, ((order.step (c := .check) rfl).run regular).lost stale⟩

/-! ## Perishing values -/

/-- What a run means for a value that perishes in a time. -/
structure Perishes (o : Outpost) (timeout : Nat) (cs : List Occasion) : Prop where
  /-- No write leaves an override behind. -/
  free : (o.run cs).sensor.overridden = false
  /-- The value is viable as long as there is time left to it. -/
  viable_iff : (o.run cs).isViable = true ↔ ∃ left, (o.run cs).remaining? = some left ∧ 0 < left
  /-- Viability that is lost comes back with a write only. -/
  unviable : (o.run cs).isViable = false → ∀ more, (∀ c ∈ more, c.isRegular = true) →
    Unwritten more → (o.run (cs ++ more)).isViable = false
  /-- A write shows its value, and it is viable if it has any time at all. -/
  written : ∀ x, (o.run (cs ++ [.write x])).sensor.value = x ∧
    ((o.run (cs ++ [.write x])).isViable = true ↔ 0 < timeout)
  /-- A check takes the value away if it finds it perished, as the first since the last write. -/
  expires_iff : (o.run cs).expires = true ↔ (o.run cs).isViable = false ∧
    ∀ before between, cs = before ++ .check :: between → Unwritten between →
      (o.run before).isViable = true
  /-- No other check does so until something is written. -/
  once : (o.run cs).expires = true → ∀ more, (∀ c ∈ more, c.isRegular = true) →
    Unwritten more → (o.run (cs ++ .check :: more)).expires = false
  /-- A check of a viable value changes nothing. -/
  spared : (o.run cs).isViable = true → o.run (cs ++ [.check]) = o.run cs
  /-- The check that takes the value away shows NaN at the path of the sensor, and no check shows
  another value. -/
  shown : ∀ path, (o.run (cs ++ [.check])).site.bus.values path =
    (o.run cs).site.bus.values path ++
      if (o.run cs).expires = true ∧ o.sensor.identity.path = path then [Number.nan] else []
  /-- After a check the perished value is gone, until something is written. -/
  lost : (o.run cs).isViable = false → ∀ more, (∀ c ∈ more, c.isRegular = true) →
    Unwritten more → (o.run (cs ++ .check :: more)).sensor.value.isNaN = true

/-- **How a value perishes.**  Whatever is done to an external sensor besides readings, overrides
and new hooks, and whenever it is looked after, its value is taken away by the first check that
finds it perished, and by no other until something is written. -/
theorem value_perishes (site : Site) (d : Definition) (timeout now : Nat) (o : Outpost)
    (cs : List Occasion) (made : make site d (some timeout) now = .ok o)
    (regular : ∀ c ∈ cs, c.isRegular = true) : o.Perishes timeout cs := by
  obtain ⟨start, perishes, fresh, -⟩ := make_eq_ok made
  have order := start.run regular
  obtain ⟨same, identity⟩ := constant_run start regular
  have stale := stale_run_iff start fresh regular
  refine ⟨order.receptive.free, isViable_iff_remaining? (same.trans perishes), ?_, ?_, ?_, ?_, ?_,
    ?_, ?_⟩
  · intro perished more later unwritten
    rw [run_append]
    exact (ages_run later unwritten).unviable perished
  · intro x
    rw [run_concat]
    exact written_spec order (same.trans perishes) x
  · rw [expires_eq_true_iff, ← Bool.not_eq_true (o.run cs).external.stale, stale]
    simp only [FoundPerished, not_exists, not_and, Bool.not_eq_false]
  · intro expires more later unwritten
    have perished := ((o.run cs).expires_eq_true_iff.1 expires).1
    have stale := (lost_of_unviable order perished later unwritten).1
    rw [run_append, ← Bool.not_eq_true, expires_eq_true_iff, stale]
    simp
  · intro viable
    rw [run_concat]
    refine step_check_of_not_expires ?_
    rw [← Bool.not_eq_true, expires_eq_true_iff, viable]
    simp
  · intro path
    rw [run_concat]
    cases expires : (o.run cs).expires with
    | false =>
        rw [step_check_of_not_expires expires]
        simp
    | true =>
        rw [values_check order expires, identity]
        simp
  · intro perished more later unwritten
    rw [run_append]
    exact (lost_of_unviable order perished later unwritten).2

/-- A value is written and looked after in time, a failed read is counted and a trigger is edited;
then the power goes and the time is over. -/
def perishedSample : List Occasion :=
  [.power ⟨true, false⟩, .write 42, .pass 500, .check, .perform .countError,
    .perform (.setTrigger ⟨.warning, .high⟩ 70), .power ⟨false, false⟩, .pass 500]

theorem value_perishes_sample : ∃ o,
    make .fresh Installation.editedDefinition (some 1000) 0 = .ok o ∧
      (o.run perishedSample).expires = true ∧
      (o.run (perishedSample ++ [.check])).site.bus.values o.sensor.identity.path =
        (o.run perishedSample).site.bus.values o.sensor.identity.path ++ [Number.nan] ∧
      (o.run (perishedSample ++ [.check, .pass 5, .check])).sensor.value.isNaN = true := by
  have found : (make .fresh Installation.editedDefinition (some 1000) 0).toOption.any
      (fun o => (o.run perishedSample).expires) = true := by
    decide +kernel
  obtain ⟨o, made, expires⟩ := exists_ok_of_any found
  have perishes := value_perishes .fresh Installation.editedDefinition 1000 0 o perishedSample made
    (by decide)
  have perished := (perishes.expires_iff.1 expires).1
  refine ⟨o, made, expires, ?_, ?_⟩
  · rw [perishes.shown, if_pos ⟨expires, rfl⟩]
  · exact perishes.lost perished [.pass 5, .check] (by decide) (by simp [Unwritten])

end SensorMonitor.Outpost
