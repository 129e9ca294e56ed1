/-
# Proofs.Poll.Resumption -- what a task does when it is woken

A task waits for its first turn, for a time, for the answer of a read or, in its sleep, for
the signal to stop (`awaited_spec`).  Woken by one of these it does one of five things, by
whether it may go on and whether its sensor can be read (`resumed_spec`), and all that it
does to its sensor are operations (`wake_eq`).  A task that was asked to stop, or whose
sensor is gone, stops and leaves everything else alone (`wake_of_isHalted`).
-/
import SensorMonitor.Poll.Poller

namespace SensorMonitor.Poll

set_option autoImplicit false

variable {σ : Type}

/-- The operations that a deed comes to. -/
def Deed.ops : Deed → List Sensor.Op
  | .startRead => []
  | .reportNothing => [.feed Number.nan]
  | .take reading => [.setRaw reading.raw, .feed reading.value]
  | .countError => [.countError]

/-- The signal to stop, or else a turn. -/
def Wake.ofSignal (signalled : Bool) : Wake := if signalled then .signal else .turn

namespace Poller

/-- The task waits for this. -/
def awaits (p : Poller σ) (now : Nat) (w : Wake) : Bool :=
  match p.phase, w with
  | .ready, .turn => true
  | .sleeping due, .turn => due ≤ now
  | .sleeping _, .signal => p.cancelled
  | .reading, .answer _ => true
  | _, _ => false

/-- What can wake a task: its first turn, its time, the signal to stop in its sleep, or the answer
of its read. -/
inductive Awaited (p : Poller σ) (now : Nat) : Wake → Prop where
  | first (phase : p.phase = .ready) : Awaited p now .turn
  | arrived (due : Nat) (phase : p.phase = .sleeping due) (arrived : due ≤ now) :
      Awaited p now .turn
  | signalled (due : Nat) (phase : p.phase = .sleeping due) (cancelled : p.cancelled = true) :
      Awaited p now .signal
  | answered (result : Except Failure Hwmon.Reading) (phase : p.phase = .reading) :
      Awaited p now (.answer result)

theorem awaited_spec {p : Poller σ} {now : Nat} {w : Wake} (awaited : p.awaits now w = true) :
    Awaited p now w := by
  simp only [awaits] at awaited
  cases phase : p.phase with
  | ready =>
      cases w with
      | turn => exact .first phase
      | answer result | signal => simp [phase] at awaited
  | reading =>
      cases w with
      | answer result => exact .answered result phase
      | turn | signal => simp [phase] at awaited
  | sleeping due =>
      cases w with
      | turn => exact .arrived due phase (by simpa [phase] using awaited)
      | signal => exact .signalled due phase (by simpa [phase] using awaited)
      | answer result => simp [phase] at awaited
  | stopped => cases w <;> simp [phase] at awaited

/-- What a task waits for, by whether a read of its own is in flight. -/
theorem awaits_cases {p : Poller σ} {now : Nat} {w : Wake} (awaited : p.awaits now w = true) :
    (p.phase = .ready ∨ ∃ due, p.phase = .sleeping due) ∧
        (∃ signalled, w = .ofSignal signalled) ∨
      p.phase = .reading ∧ ∃ result, w = .answer result := by
  cases awaited_spec awaited with
  | first phase => exact Or.inl ⟨Or.inl phase, false, rfl⟩
  | arrived due phase => exact Or.inl ⟨Or.inr ⟨due, phase⟩, false, rfl⟩
  | signalled due phase => exact Or.inl ⟨Or.inr ⟨due, phase⟩, true, rfl⟩
  | answered result phase => exact Or.inr ⟨phase, result, rfl⟩

/-- The task may not go on: it was asked to stop, or its sensor is gone. -/
def isHalted (p : Poller σ) : Bool := p.cancelled || p.sensor.isNone

/-- What the task does when it is woken. -/
def deed? (p : Poller σ) (now : Nat) (site : Site) (w : Wake) : Option Deed :=
  (p.phase.resume p.schedule now (p.view site) w).2

/-- Performs operations one after another. -/
def performAll (p : Poller σ) (site : Site) (ops : List Sensor.Op) : Poller σ × Site :=
  ops.foldl (fun (p, site) op => ((p.perform site op).1, (p.perform site op).2.1)) (p, site)

/-- What a task that is woken by something it waits for does, and what it waits for then. -/
inductive Resumed (p : Poller σ) (site : Site) (w : Wake) : Phase → Option Deed → Prop where
  | stops (halted : p.isHalted = true) : Resumed p site w .stopped none
  | starts (going : p.isHalted = false) (turn : w = .turn)
      (readable : (p.view site).readable = true) : Resumed p site w .reading (some .startRead)
  | reports (due : Nat) (going : p.isHalted = false) (turn : w = .turn)
      (unreadable : (p.view site).readable = false) :
      Resumed p site w (.sleeping due) (some .reportNothing)
  | takes (due : Nat) {reading : Hwmon.Reading} (going : p.isHalted = false)
      (answer : w = .answer (.ok reading)) : Resumed p site w (.sleeping due) (some (.take reading))
  | fails (due : Nat) {failure : Failure} (going : p.isHalted = false)
      (answer : w = .answer (.error failure)) :
      Resumed p site w (.sleeping due) (some .countError)

section Resumption

variable {p : Poller σ} {now : Nat} {site : Site} {w : Wake}

theorem goesOn_view (p : Poller σ) (site : Site) : (p.view site).goesOn = !p.isHalted := by
  simp only [view, View.goesOn, isHalted]
  cases p.cancelled <;> cases p.sensor <;> rfl

theorem resumed_pass (p : Poller σ) (now : Nat) (site : Site) :
    Resumed p site .turn (Phase.pass p.schedule now (p.view site)).1
      (Phase.pass p.schedule now (p.view site)).2 := by
  simp only [Phase.pass]
  rw [goesOn_view]
  cases halted : p.isHalted with
  | true => exact .stops halted
  | false =>
      cases readable : (p.view site).readable with
      | true => exact .starts halted rfl readable
      | false => exact .reports _ halted rfl readable

theorem resumed_finish (p : Poller σ) (now : Nat) (site : Site)
    (result : Except Failure Hwmon.Reading) :
    Resumed p site (.answer result) (Phase.finish p.schedule now (p.view site) result).1
      (Phase.finish p.schedule now (p.view site) result).2 := by
  simp only [Phase.finish]
  rw [goesOn_view]
  cases halted : p.isHalted with
  | true => exact .stops halted
  | false =>
      cases result with
      | ok reading => exact .takes _ halted rfl
      | error failure => exact .fails _ halted rfl

/-- **What a task does when it is woken by what it waits for.** -/
theorem resumed_spec (site : Site) (awaited : p.awaits now w = true) :
    Resumed p site w (p.phase.resume p.schedule now (p.view site) w).1 (p.deed? now site w) := by
  simp only [deed?, Phase.resume]
  cases awaited_spec awaited with
  | first phase =>
      rw [phase]
      exact resumed_pass p now site
  | arrived due phase arrived =>
      rw [phase]
      dsimp only
      rw [if_pos arrived]
      exact resumed_pass p now site
  | signalled due phase cancelled =>
      rw [phase]
      exact .stops (by rw [isHalted, cancelled, Bool.true_or])
  | answered result phase =>
      rw [phase]
      exact resumed_finish p now site result

/-- A deed comes to operations. -/
theorem act_deed (p : Poller σ) (site : Site) (deed : Deed) :
    p.act site (deed.act site.conditions.power) = p.performAll site deed.ops := by
  cases sensor : p.sensor with
  | none => cases deed <;> simp [act, performAll, perform, sensor, Deed.ops]
  | some s =>
      cases deed with
      | startRead =>
          have same : ({ p with sensor := some s } : Poller σ) = p := by rw [← sensor]
          simp only [act, performAll, sensor, Deed.ops, List.foldl_nil]
          exact Prod.ext same rfl
      | reportNothing | countError | take reading =>
          simp only [act, performAll, perform, sensor, Deed.ops, List.foldl_cons, List.foldl_nil]
          rfl

/-- **All that a task does to its sensor are the operations of its deed.** -/
theorem wake_eq (p : Poller σ) (now : Nat) (site : Site) (w : Wake) :
    p.wake now site w =
      ({ p with phase := (p.phase.resume p.schedule now (p.view site) w).1 } : Poller σ).performAll
        site (((p.deed? now site w).map Deed.ops).getD []) := by
  simp only [wake, deed?]
  cases (p.phase.resume p.schedule now (p.view site) w).2 with
  | none => rfl
  | some deed => exact act_deed _ site deed

/-- Operations change nothing about the task, and no sensor comes or goes. -/
theorem performAll_fst (p : Poller σ) (site : Site) (ops : List Sensor.Op) :
    ∃ s', (p.performAll site ops).1 = { p with sensor := s' } ∧ s'.isNone = p.sensor.isNone := by
  induction ops generalizing p site with
  | nil => exact ⟨p.sensor, rfl, rfl⟩
  | cons op rest ih =>
      obtain ⟨s', after, gone⟩ := ih (p.perform site op).1 (p.perform site op).2.1
      have further : p.performAll site (op :: rest) =
          (p.perform site op).1.performAll (p.perform site op).2.1 rest := rfl
      rw [further, after]
      cases sensor : p.sensor with
      | none =>
          simp only [perform, sensor] at gone ⊢
          exact ⟨s', rfl, gone⟩
      | some s =>
          simp only [perform, sensor] at gone ⊢
          exact ⟨s', rfl, gone⟩

/-- A task that is woken is the same task in its next phase. -/
theorem wake_fst (p : Poller σ) (now : Nat) (site : Site) (w : Wake) :
    ∃ s', (p.wake now site w).1 =
        { p with
          sensor := s'
          phase := (p.phase.resume p.schedule now (p.view site) w).1 } ∧
      s'.isNone = p.sensor.isNone := by
  rw [wake_eq]
  exact performAll_fst { p with phase := _ } site _

/-- A halted task that is woken stops and leaves everything else alone. -/
theorem wake_of_isHalted (site : Site) (halted : p.isHalted = true)
    (awaited : p.awaits now w = true) :
    p.wake now site w = ({ p with phase := .stopped }, site) ∧ p.deed? now site w = none := by
  have resumed := resumed_spec site awaited
  rw [wake_eq]
  generalize p.deed? now site w = deed at resumed
  generalize (p.phase.resume p.schedule now (p.view site) w).1 = phase at resumed
  cases resumed with
  | stops => exact ⟨rfl, rfl⟩
  | starts going | reports _ going | takes _ going | fails _ going =>
      rw [halted] at going
      cases going

/-- A task does not look at its source when it is woken. -/
theorem wake_source (p : Poller σ) (source : σ) (now : Nat) (site : Site) (w : Wake) :
    ({ p with source := source } : Poller σ).wake now site w =
      ({ (p.wake now site w).1 with source := source }, (p.wake now site w).2) := by
  simp only [wake, view, act]
  split
  · rfl
  · cases p.sensor <;> rfl

/-- A turn that a task does not wait for leaves it as it is. -/
theorem turn_of_not_awaits (idle : p.awaits now .turn = false) (site : Site) :
    p.wake now site .turn = (p, site) := by
  simp only [awaits] at idle
  obtain ⟨sensor, source, schedule, phase, cancelled⟩ := p
  cases phase with
  | ready => cases idle
  | sleeping due =>
      have early : ¬due ≤ now := by simpa using idle
      simp [wake, Phase.resume, early]
  | reading | stopped => rfl

end Resumption

end Poller

end SensorMonitor.Poll
