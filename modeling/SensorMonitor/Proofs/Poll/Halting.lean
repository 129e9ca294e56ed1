/-
# Proofs.Poll.Halting -- a task that may not go on

From the moment that a task is asked to stop, or that its sensor ends, it leaves everything
alone, whatever else happens and in whatever order (`halted_run`): it is woken once at most,
does nothing then and stops, and the answer of a read that was in flight goes to nobody.
Nothing else stops a task (`isHalted_of_isStopped`): until then its passes follow one another
(`polls_in_order_until_halted`).
-/
import SensorMonitor.Proofs.Poll.Scene

namespace SensorMonitor.Poll.Scene

set_option autoImplicit false

variable {σ : Type} {scene later last : Scene σ} {now : Nat} {w : Wake}

theorem isHalted_of_halts {h : Occurrence} (halts : h.halts = true) :
    (scene.step h).poller.isHalted = true := by
  cases h with
  | cancel => rfl
  | dropSensor =>
      simp only [step, Poller.dropSensor, Poller.isHalted]
      cases sensor : scene.poller.sensor with
      | none => simp [sensor]
      | some s => simp
  | power status | access access | perform op | wake now w => cases halts

/-! ## Woken for the last time -/

/-- The task was woken, stopped and did nothing else. -/
def stopped (scene : Scene σ) (w : Wake) : Scene σ :=
  { scene with
    poller := { scene.poller with phase := .stopped }
    inFlight := scene.inFlight - w.landed
    record := scene.record ++ [(w, none)] }

theorem resume_of_isHalted (halted : scene.poller.isHalted = true)
    (awaited : scene.awaits now w = true) : scene.resume now w = scene.stopped w := by
  have awaited' : scene.poller.awaits now w = true := (Bool.and_eq_true_iff.1 awaited).1
  obtain ⟨woken, idle⟩ := Poller.wake_of_isHalted scene.site halted awaited'
  simp only [resume]
  rw [woken, idle]
  rfl

/-- The times that a halted task is still woken. -/
def left (scene : Scene σ) : Nat := if scene.poller.isStopped then 0 else 1

theorem left_stopped (scene : Scene σ) (w : Wake) : (scene.stopped w).left = 0 := by
  simp [left, stopped, Poller.isStopped]

theorem left_of_awaits (awaited : scene.awaits now w = true) : scene.left = 1 := by
  have awaited' : scene.poller.awaits now w = true := (Bool.and_eq_true_iff.1 awaited).1
  simp only [left, Poller.isStopped]
  rcases Poller.awaits_cases awaited' with ⟨ready | ⟨due, asleep⟩, -⟩ | ⟨reading, -⟩
  · simp [ready]
  · simp [asleep]
  · simp [reading]

/-- What wakes a halted task goes by, or stops it. -/
theorem wake_of_isHalted (halted : scene.poller.isHalted = true) (now : Nat) (w : Wake) :
    scene.step (.wake now w) = scene ∨
      scene.left = 1 ∧ scene.step (.wake now w) = scene.stopped w := by
  simp only [step]
  split
  · next awaited => exact Or.inr ⟨left_of_awaits awaited, resume_of_isHalted halted awaited⟩
  · exact Or.inl rfl

/-! ## Idle tasks -/

/-- From one scene to a later one a halted task has started no read and done nothing, and has
been woken no more often than it was to be. -/
structure IdleSince (scene later : Scene σ) : Prop where
  halted : later.poller.isHalted = true
  inFlight : later.inFlight ≤ scene.inFlight
  record : ∃ rest, later.record = scene.record ++ rest ∧ rest.length + later.left ≤ scene.left ∧
    ∀ entry ∈ rest, entry.2 = none

theorem IdleSince.refl (halted : scene.poller.isHalted = true) : scene.IdleSince scene :=
  ⟨halted, Nat.le_refl _, [], (List.append_nil _).symm, by simp, List.forall_mem_nil _⟩

theorem IdleSince.trans (first : scene.IdleSince later) (second : later.IdleSince last) :
    scene.IdleSince last := by
  obtain ⟨early, grown, fewer, idle⟩ := first.record
  obtain ⟨late, grown', fewer', idle'⟩ := second.record
  refine ⟨second.halted, second.inFlight.trans first.inFlight, early ++ late, ?_, ?_, ?_⟩
  · rw [grown', grown, List.append_assoc]
  · rw [List.length_append]
    omega
  · intro entry member
    rcases List.mem_append.1 member with before | after
    · exact idle entry before
    · exact idle' entry after

/-- The task is not woken and stays halted. -/
theorem IdleSince.of_asleep (halted : later.poller.isHalted = true)
    (phase : later.poller.phase = scene.poller.phase) (inFlight : later.inFlight = scene.inFlight)
    (record : later.record = scene.record) : scene.IdleSince later :=
  ⟨halted, inFlight.le, [], by rw [record, List.append_nil],
    by simp [left, Poller.isStopped, phase], List.forall_mem_nil _⟩

theorem idleSince_stopped (halted : scene.poller.isHalted = true) (due : scene.left = 1)
    (w : Wake) : scene.IdleSince (scene.stopped w) := by
  refine ⟨halted, Nat.sub_le _ _, [(w, none)], rfl, ?_, by simp⟩
  rw [left_stopped, due]
  exact Nat.le_refl _

/-- **A halted task is idle through whatever happens next.** -/
theorem idleSince_step (halted : scene.poller.isHalted = true) (h : Occurrence) :
    scene.IdleSince (scene.step h) := by
  cases h with
  | wake now w =>
      rcases wake_of_isHalted halted now w with same | ⟨due, stops⟩
      · rw [same]
        exact .refl halted
      · rw [stops]
        exact idleSince_stopped halted due w
  | perform op =>
      refine .of_asleep ?_ (phase_step scene rfl) rfl rfl
      simp only [step, Poller.perform]
      cases sensor : scene.poller.sensor with
      | none => exact halted
      | some s => simpa [Poller.isHalted, sensor] using halted
  | cancel | dropSensor => exact .of_asleep (isHalted_of_halts rfl) (phase_step scene rfl) rfl rfl
  | power status | access access => exact .of_asleep halted rfl rfl rfl

theorem idleSince_run (halted : scene.poller.isHalted = true) (hs : List Occurrence) :
    scene.IdleSince (scene.run hs) := by
  induction hs generalizing scene with
  | nil => exact .refl halted
  | cons h rest ih =>
      have first := idleSince_step halted h
      exact first.trans (ih first.halted)

/-- The sensor and its surroundings do not show whether a halted task is woken. -/
theorem kernel_run_congr {scene' : Scene σ} (halted : scene.poller.isHalted = true)
    (same : scene.kernel = scene'.kernel) (hs : List Occurrence) :
    (scene.run hs).kernel = (scene'.run (hs.filter (!·.isWake))).kernel := by
  induction hs generalizing scene scene' with
  | nil => exact same
  | cons h rest ih =>
      have halted' := (idleSince_step halted h).halted
      cases wake : h.isWake with
      | false =>
          rw [List.filter_cons_of_pos (by simp [wake])]
          exact ih halted' (kernel_step_congr same wake)
      | true =>
          rw [List.filter_cons_of_neg (by simp [wake])]
          refine ih halted' (Eq.trans ?_ same)
          cases h with
          | wake now w =>
              rcases wake_of_isHalted halted now w with same | ⟨-, stops⟩
              · rw [same]
              · rw [stops]
                rfl
          | power status | access access | perform op | cancel | dropSensor => cases wake

/-! ## From then on -/

/-- A task that has not stopped waits for something that can come. -/
theorem Orderly.exists_awaits (orderly : scene.Orderly)
    (running : scene.poller.isStopped = false) : ∃ now w, scene.awaits now w = true := by
  obtain ⟨inFlight, -⟩ := orderly
  cases phase : scene.poller.phase with
  | ready => exact ⟨0, .turn, by simp [awaits, Poller.awaits, phase, Wake.landed]⟩
  | reading =>
      rw [if_pos phase] at inFlight
      exact ⟨0, .answer (.ok ⟨0, 0⟩), by
        simp [awaits, Poller.awaits, phase, Wake.landed, inFlight]⟩
  | sleeping due => exact ⟨due, .turn, by simp [awaits, Poller.awaits, phase, Wake.landed]⟩
  | stopped => simp [Poller.isStopped, phase] at running

/-- What comes of a halted task, whatever happens later. -/
structure Final (scene : Scene σ) (later : List Occurrence) : Prop where
  /-- The sensor and its surroundings are as if the task had never been woken. -/
  untouched : (scene.run later).kernel = (scene.run (later.filter (!·.isWake))).kernel
  /-- The task is woken once at most, and does nothing. -/
  idle : ∃ rest, (scene.run later).record = scene.record ++ rest ∧ rest.length ≤ 1 ∧
    ∀ entry ∈ rest, entry.2 = none
  /-- No read is started. -/
  reads : (scene.run later).inFlight ≤ scene.inFlight
  /-- When the task is woken it stops. -/
  ends : ∀ now w, (scene.run later).awaits now w = true →
    ((scene.run later).step (.wake now w)).poller.isStopped = true
  /-- Until it has stopped there is something that wakes it. -/
  waits : (scene.run later).poller.isStopped = false →
    ∃ now w, (scene.run later).awaits now w = true

/-- **A halted task leaves everything alone and stops when it is next woken.** -/
theorem halted_run (orderly : scene.Orderly) (halted : scene.poller.isHalted = true)
    (later : List Occurrence) : scene.Final later where
  untouched := kernel_run_congr halted rfl later
  idle := by
    obtain ⟨rest, grown, fewer, idle⟩ := (idleSince_run halted later).record
    have atMost : scene.left ≤ 1 := by
      rw [left]
      split <;> decide
    exact ⟨rest, grown, by omega, idle⟩
  reads := (idleSince_run halted later).inFlight
  ends := by
    intro now w awaited
    simp only [step, if_pos awaited]
    rw [resume_of_isHalted (idleSince_run halted later).halted awaited]
    rfl
  waits := (orderly.run later).exists_awaits

/-! ## Tasks in every run -/

/-- A task that is woken goes to sleep, waits for a read or stops, as it does one deed or none. -/
theorem resumed_resume (awaited : scene.awaits now w = true) :
    Poller.Resumed scene.poller scene.site w (scene.resume now w).poller.phase
      (scene.poller.deed? now scene.site w) := by
  have awaited' : scene.poller.awaits now w = true := (Bool.and_eq_true_iff.1 awaited).1
  rw [phase_resume]
  exact Poller.resumed_spec scene.site awaited'

theorem isHalted_of_isStopped_step
    (before : scene.poller.isStopped = true → scene.poller.isHalted = true) (h : Occurrence)
    (stopped : (scene.step h).poller.isStopped = true) :
    (scene.step h).poller.isHalted = true := by
  have halted : scene.poller.isHalted = true := by
    cases wake : h.isWake with
    | false =>
        rw [Poller.isStopped, phase_step scene wake] at stopped
        exact before stopped
    | true =>
        cases h with
        | wake now w =>
            simp only [step] at stopped
            split at stopped
            · next awaited =>
                have resumed := resumed_resume awaited
                rw [of_decide_eq_true stopped] at resumed
                generalize scene.poller.deed? now scene.site w = deed at resumed
                cases resumed with
                | stops halted => exact halted
            · exact before stopped
        | power status | access access | perform op | cancel | dropSensor => cases wake
  exact (idleSince_step halted h).halted

/-- **A task stops only when it was asked to, or when its sensor is gone.** -/
theorem isHalted_of_isStopped
    (before : scene.poller.isStopped = true → scene.poller.isHalted = true)
    (hs : List Occurrence) (stopped : (scene.run hs).poller.isStopped = true) :
    (scene.run hs).poller.isHalted = true := by
  induction hs generalizing scene with
  | nil => exact before stopped
  | cons h rest ih => exact ih (isHalted_of_isStopped_step before h) stopped

/-- **In every run reads follow one another; a task stops only when it was asked to, or when its
sensor is gone; one that is woken performs the operations of one deed, by whether it may go on
and its sensor can be read; and from the moment that it is asked to stop, or that its sensor
ends, it leaves everything alone and stops when it is next woken.** -/
theorem polls_in_order_until_halted (s : Sensor) (source : σ) (schedule : Schedule) (site : Site)
    (before : List Occurrence) :
    let scene := (ofPoller (.ofSensor s source schedule) site).run before
    scene.Orderly ∧
      (scene.poller.isStopped = true → scene.poller.isHalted = true) ∧
      (∀ now w, scene.awaits now w = true → ∃ deed : Option Deed,
        Poller.Resumed scene.poller scene.site w (scene.step (.wake now w)).poller.phase deed ∧
        (scene.step (.wake now w)).record = scene.record ++ [(w, deed)] ∧
        (scene.step (.wake now w)).kernel =
          (scene.run (((deed.map Deed.ops).getD []).map .perform)).kernel) ∧
      ∀ halt later, halt.halts = true → (scene.step halt).Final later := by
  intro scene
  have orderly : scene.Orderly := (orderly_ofPoller s source schedule site).run before
  refine ⟨orderly, isHalted_of_isStopped ?_ before, ?_, ?_⟩
  · simp [ofPoller, Poller.ofSensor, Poller.isStopped]
  · intro now w awaited
    refine ⟨scene.poller.deed? now scene.site w, ?_, ?_, ?_⟩
    · simp only [step, if_pos awaited]
      exact resumed_resume awaited
    · simp only [step, if_pos awaited]
      rfl
    · simp only [step, if_pos awaited]
      exact kernel_resume scene now w
  · intro halt later halts
    exact halted_run (orderly.step halt) (isHalted_of_halts halts) later

/-- A read is in flight when the task is asked to stop. -/
theorem polls_in_order_until_halted_sample :
    ∃ s, Sensor.ofDefinition Installation.sampleDefinition = .ok s ∧
      let scene := (ofPoller (.ofSensor s () .usual) .fresh).run sampleRun
      scene.inFlight = 1 ∧
        (∃ deed, (scene.step (.wake 0 (.answer (.ok ⟨1, 1⟩)))).record =
          scene.record ++ [(.answer (.ok ⟨1, 1⟩), deed)]) ∧
        (scene.step .cancel).Final [.wake 0 (.answer (.ok ⟨1, 1⟩))] := by
  obtain ⟨s, made, -, -, begun⟩ := exists_reading
  obtain ⟨-, -, deeds, final⟩ := polls_in_order_until_halted s () .usual .fresh sampleRun
  refine ⟨s, made, by rw [begun], ?_, final .cancel _ rfl⟩
  obtain ⟨deed, -, recorded, -⟩ := deeds 0 (.answer (.ok ⟨1, 1⟩)) (by rw [begun]; rfl)
  exact ⟨deed, recorded⟩

end SensorMonitor.Poll.Scene
