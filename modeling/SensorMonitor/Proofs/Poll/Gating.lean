/-
# Proofs.Poll.Gating -- a task whose sensor has no power

Power comes and goes at any moment, also while a read is in flight.  At a moment at which
the power condition of the sensor does not hold, neither the task nor anybody else who
reads the sensor for it makes it do more than lapse (`gated_step`): the only events are
lost values and the loss of availability, and no read is started.  So it stays for as long
as there is no power (`gated_run`).
-/
import SensorMonitor.Proofs.Poll.Scene
import SensorMonitor.Proofs.Sensor.Lapses

namespace SensorMonitor

set_option autoImplicit false

namespace Poll

variable {σ : Type}

namespace Occurrence

/-- A reading or a failed read comes to the sensor, or the task is woken. -/
def isPolled : Occurrence → Bool
  | .perform op => op.isPolled
  | .wake _ _ => true
  | _ => false

/-- It is polled, or leaves a sensor with this need without power. -/
def keepsDark (need : PowerNeed) : Occurrence → Bool
  | .power status => !need.isMet status
  | .access _ => true
  | .cancel => true
  | .dropSensor => false
  | .perform op => op.isPolled
  | .wake _ _ => true

end Occurrence

theorem Deed.isPolled_of_mem {deed : Deed} {op : Sensor.Op} (member : op ∈ deed.ops) :
    op.isPolled = true := by
  cases deed <;> simp only [ops, List.not_mem_nil, List.mem_cons, or_false] at member
  case reportNothing | countError =>
    subst member
    rfl
  case take reading =>
    rcases member with rfl | rfl <;> rfl

namespace Scene

/-- The sensor is there and its power condition does not hold. -/
structure Dark (scene : Scene σ) (s : Sensor) : Prop where
  present : scene.poller.sensor = some s
  unreadable : s.isReadable scene.site.conditions.power = false

/-- From one scene to the other the sensor lapsed, with these events, and nothing else: it
works as well as before, raises the same alarms and has counted no reading and no failed
read, and no read was started. -/
structure Gated (scene scene' : Scene σ) (s s' : Sensor) (events : List Event) : Prop where
  sensor : scene'.poller.sensor = some s'
  idle : s.Idle s'
  log : scene'.site.bus.log.toList = scene.site.bus.log.toList ++ events
  lapses : ∀ event ∈ events, (∃ x : Float, x.isNaN = true ∧
    event = .changed s.identity.path (.value x)) ∨
    event = .changed s.identity.path (.available false)
  inFlight : scene'.inFlight ≤ scene.inFlight
  record : ∃ rest, scene'.record = scene.record ++ rest ∧
    ∀ entry ∈ rest, entry.2 ≠ some .startRead

section Gating

variable {scene scene' scene'' : Scene σ} {s s' s'' : Sensor} {events events' : List Event}
variable {h : Occurrence}

theorem Gated.refl (present : scene.poller.sensor = some s) : Gated scene scene s s [] :=
  ⟨present, .refl s, (List.append_nil _).symm, List.forall_mem_nil _, Nat.le_refl _,
    [], (List.append_nil _).symm, List.forall_mem_nil _⟩

theorem Gated.trans (first : Gated scene scene' s s' events)
    (second : Gated scene' scene'' s' s'' events') :
    Gated scene scene'' s s'' (events ++ events') := by
  obtain ⟨rest, record, none⟩ := first.record
  obtain ⟨rest', record', none'⟩ := second.record
  refine ⟨second.sensor, first.idle.trans second.idle, ?_, ?_,
    second.inFlight.trans first.inFlight, rest ++ rest', ?_, ?_⟩
  · rw [second.log, first.log, List.append_assoc]
  · intro event member
    rcases List.mem_append.1 member with early | late
    · exact first.lapses event early
    · rw [← first.idle.identity]
      exact second.lapses event late
  · rw [record', record, List.append_assoc]
  · intro entry member
    rcases List.mem_append.1 member with early | late
    · exact none entry early
    · exact none' entry late

/-- What changes only the task and its surroundings, and tells nobody. -/
theorem Gated.silent (present : scene'.poller.sensor = some s)
    (log : scene'.site.bus = scene.site.bus) (inFlight : scene'.inFlight ≤ scene.inFlight)
    (record : scene'.record = scene.record) : Gated scene scene' s s [] :=
  ⟨present, .refl s, by simp [log], List.forall_mem_nil _, inFlight,
    [], by simp [record], List.forall_mem_nil _⟩

theorem Dark.perform (dark : scene.Dark s) {op : Sensor.Op} (polled : op.isPolled = true) :
    ∃ s' events, Gated scene (scene.step (.perform op)) s s' events ∧
      (scene.step (.perform op)).Dark s' := by
  have lapses := Sensor.lapses_perform polled dark.unreadable
  have stepped : scene.step (.perform op) = { scene with
      poller := { scene.poller with sensor := some (s.perform scene.site.conditions op).sensor }
      site := scene.site.absorbAll (s.perform scene.site.conditions op).effects } := by
    simp only [step, Poller.perform, dark.present]
  rw [stepped]
  refine ⟨_, _, ⟨rfl, lapses.idle, Site.log_absorbAll _ _, ?_, Nat.le_refl _, [],
    (List.append_nil _).symm, List.forall_mem_nil _⟩, rfl, ?_⟩
  · intro event member
    obtain ⟨e, told, is⟩ := List.mem_filterMap.1 member
    cases lapses.told e told with
    | value lost => exact Or.inl ⟨_, lost, (Option.some.inj is).symm⟩
    | unavailable => exact Or.inr (Option.some.inj is).symm
    | share lost => cases is
  · rw [Site.conditions_absorbAll]
    simp only [Sensor.isReadable, lapses.idle.identity]
    exact dark.unreadable

theorem Dark.performAll (dark : scene.Dark s) {ops : List Sensor.Op}
    (polled : ∀ op ∈ ops, op.isPolled = true) :
    ∃ s' events, Gated scene (scene.run (ops.map .perform)) s s' events ∧
      (scene.run (ops.map .perform)).Dark s' := by
  induction ops generalizing scene s with
  | nil => exact ⟨s, [], .refl dark.present, dark⟩
  | cons op rest ih =>
      obtain ⟨here, later⟩ := List.forall_mem_cons.1 polled
      obtain ⟨s', events, gated, dark'⟩ := dark.perform here
      obtain ⟨s'', events', gated', dark''⟩ := ih dark' later
      exact ⟨s'', events ++ events', gated.trans gated', dark''⟩

/-- A task that is woken without power starts no read. -/
theorem Dark.deed_ne_startRead (dark : scene.Dark s) {now : Nat} {w : Wake}
    (awaited : scene.poller.awaits now w = true) :
    scene.poller.deed? now scene.site w ≠ some .startRead := by
  intro started
  have resumed := Poller.resumed_spec scene.site awaited
  rw [started] at resumed
  generalize (Phase.resume _ _ _ _ _).1 = phase at resumed
  cases resumed with
  | starts going turn readable =>
      simp only [Poller.view, dark.present, dark.unreadable] at readable
      cases readable

theorem Dark.resume (dark : scene.Dark s) {now : Nat} {w : Wake}
    (awaited : scene.poller.awaits now w = true) :
    ∃ s' events, Gated scene (scene.resume now w) s s' events ∧
      (scene.resume now w).Dark s' := by
  have unstarted := dark.deed_ne_startRead awaited
  have performed := kernel_resume scene now w
  have record : (scene.resume now w).record =
      scene.record ++ [(w, scene.poller.deed? now scene.site w)] := rfl
  have inFlight : (scene.resume now w).inFlight =
      scene.inFlight - w.landed + Deed.launched (scene.poller.deed? now scene.site w) := rfl
  generalize scene.resume now w = scene' at performed record inFlight ⊢
  generalize scene.poller.deed? now scene.site w = deed at unstarted performed record inFlight
  have polled : ∀ op ∈ (deed.map Deed.ops).getD [], op.isPolled = true := by
    cases deed with
    | none => exact List.forall_mem_nil _
    | some deed => exact fun op => Deed.isPolled_of_mem
  have launched : Deed.launched deed = 0 := by
    rcases deed with _ | _ | _ | _ | _ <;> simp_all [Deed.launched]
  obtain ⟨s', events, gated, dark'⟩ := dark.performAll polled
  obtain ⟨sensor, site⟩ := Prod.ext_iff.1 performed
  simp only [kernel] at sensor site
  refine ⟨s', events, ⟨sensor.trans gated.sensor, gated.idle, ?_, gated.lapses, ?_, _, record, ?_⟩,
    sensor.trans dark'.present, ?_⟩
  · rw [site, gated.log]
  · omega
  · exact List.forall_mem_singleton.2 unstarted
  · rw [site]
    exact dark'.unreadable

/-- **Whatever happens to a sensor without power that leaves it without power**, be it
readings, failed reads or the task that is woken, it lapses and no more. -/
theorem Dark.step (dark : scene.Dark s) (keeps : h.keepsDark s.identity.power = true) :
    ∃ s' events, Gated scene (scene.step h) s s' events ∧ (scene.step h).Dark s' := by
  cases h with
  | power status =>
      have unmet : s.isReadable status = false := by
        simpa [Occurrence.keepsDark, Sensor.isReadable] using keeps
      exact ⟨s, [], .silent dark.present rfl (Nat.le_refl _) rfl, dark.present, unmet⟩
  | access access | cancel =>
      exact ⟨s, [], .silent dark.present rfl (Nat.le_refl _) rfl, dark.present, dark.unreadable⟩
  | dropSensor => cases keeps
  | perform op => exact dark.perform keeps
  | wake now w =>
      simp only [Scene.step]
      split
      · next awaited => exact dark.resume (Bool.and_eq_true_iff.1 awaited).1
      · exact ⟨s, [], .refl dark.present, dark⟩

/-- **It stays so for as long as there is no power.** -/
theorem Dark.run (dark : scene.Dark s) {hs : List Occurrence}
    (keep : ∀ h ∈ hs, h.keepsDark s.identity.power = true) :
    ∃ s' events, Gated scene (scene.run hs) s s' events ∧ (scene.run hs).Dark s' := by
  induction hs generalizing scene s with
  | nil => exact ⟨s, [], .refl dark.present, dark⟩
  | cons h rest ih =>
      obtain ⟨here, later⟩ := List.forall_mem_cons.1 keep
      obtain ⟨s', events, gated, dark'⟩ := dark.step here
      rw [← gated.idle.identity] at later
      obtain ⟨s'', events', gated', dark''⟩ := ih dark' later
      exact ⟨s'', events ++ events', gated.trans gated', dark''⟩

/-! ## Readings without power -/

/-- The sensor is given a reading. -/
def Feeds (scene : Scene σ) (s : Sensor) : Occurrence → Prop
  | .perform op => op.feeds s = true
  | .wake now w => scene.awaits now w = true ∧
      (scene.poller.deed? now scene.site w = some .reportNothing ∨
        ∃ reading, scene.poller.deed? now scene.site w = some (.take reading))
  | _ => False

theorem Dark.lost_perform (dark : scene.Dark s) (free : s.overridden = false) (op : Sensor.Op)
    (feeds : op.feeds s = true) :
    ∃ s', (scene.step (.perform op)).poller.sensor = some s' ∧ s'.Lost := by
  refine ⟨(s.perform scene.site.conditions op).sensor, ?_,
    Sensor.lost_perform feeds free dark.unreadable⟩
  simp only [Scene.step, Poller.perform, dark.present]

/-- **A reading without power leaves nothing of the value**, whoever gives it. -/
theorem Dark.lost_step (dark : scene.Dark s) (free : s.overridden = false)
    (feeds : scene.Feeds s h) : ∃ s', (scene.step h).poller.sensor = some s' ∧ s'.Lost := by
  cases h with
  | perform op => exact dark.lost_perform free op feeds
  | wake now w =>
      obtain ⟨awaited, deed⟩ := feeds
      have performed := kernel_resume scene now w
      simp only [Scene.step, if_pos awaited]
      rcases deed with deed | ⟨reading, deed⟩ <;> rw [deed] at performed
      · obtain ⟨s', sensor, lost⟩ := dark.lost_perform free (.feed Number.nan) rfl
        exact ⟨s', (Prod.ext_iff.1 performed).1.trans sensor, lost⟩
      · -- the raw reading comes first and changes nothing that matters here
        have dark' : (scene.step (.perform (.setRaw reading.raw))).Dark
            (s.perform scene.site.conditions (.setRaw reading.raw)).sensor := by
          constructor <;> simp only [Scene.step, Poller.perform, dark.present]
          exact dark.unreadable
        obtain ⟨s', sensor, lost⟩ := dark'.lost_perform free (.feed reading.value) rfl
        exact ⟨s', (Prod.ext_iff.1 performed).1.trans sensor, lost⟩
  | power status | access access | cancel | dropSensor => exact feeds.elim

/-- **Without power a task is silent.**  At every moment of every run at which the power
condition of the sensor does not hold, a reading, a failed read and a task that is woken make
the sensor lapse and no more, and as long as there is no power they go on to; and a reading
leaves a sensor that is not overridden without a value. -/
theorem silent_without_power (s₀ : Sensor) (source : σ) (schedule : Schedule) (site : Site)
    (before : List Occurrence) :
    let scene := (ofPoller (.ofSensor s₀ source schedule) site).run before
    ∀ s, scene.Dark s →
      (∀ h, h.isPolled = true → ∃ s' events, Gated scene (scene.step h) s s' events) ∧
      (∀ hs : List Occurrence, (∀ h ∈ hs, h.keepsDark s.identity.power = true) →
        ∃ s' events, Gated scene (scene.run hs) s s' events) ∧
      (s.overridden = false → ∀ h, scene.Feeds s h →
        ∃ s', (scene.step h).poller.sensor = some s' ∧ s'.Lost) := by
  intro scene s dark
  refine ⟨?_, ?_, ?_⟩
  · intro h polled
    have keeps : h.keepsDark s.identity.power = true := by
      cases h with
      | perform op => exact polled
      | wake now w => rfl
      | power status | access access | cancel | dropSensor => cases polled
    obtain ⟨s', events, gated, -⟩ := dark.step keeps
    exact ⟨s', events, gated⟩
  · intro hs keep
    obtain ⟨s', events, gated, -⟩ := dark.run keep
    exact ⟨s', events, gated⟩
  · intro free h feeds
    exact dark.lost_step free feeds

/-- The power goes while a read is in flight. -/
theorem silent_without_power_sample :
    ∃ s, Sensor.ofDefinition Installation.sampleDefinition = .ok s ∧
      let scene := (ofPoller (.ofSensor s () .usual) .fresh).run (sampleRun ++ [.power .off])
      let answer : Occurrence := .wake 0 (.answer (.ok ⟨1, 1⟩))
      scene.Dark s ∧ (∃ s' events, Gated scene (scene.step answer) s s' events) ∧
        (∃ s' events, Gated scene (scene.run [answer, .perform .countError]) s s' events) ∧
        ∃ s', (scene.step answer).poller.sensor = some s' ∧ s'.Lost := by
  obtain ⟨s, made, power, free, begun⟩ := exists_reading
  have unlit : (ofPoller (.ofSensor s () .usual) .fresh).run (sampleRun ++ [.power .off]) =
      ⟨{ Poller.ofSensor s () .usual with phase := .reading }, .fresh, 1,
        [(.turn, some .startRead)]⟩ := by
    rw [run_append, begun]
    rfl
  have dark : ((ofPoller (.ofSensor s () .usual) .fresh).run
      (sampleRun ++ [.power .off])).Dark s := by
    rw [unlit]
    exact ⟨rfl, by rw [Sensor.isReadable, power]; rfl⟩
  obtain ⟨polled, dark', feeds⟩ :=
    silent_without_power s () .usual .fresh (sampleRun ++ [.power .off]) s dark
  refine ⟨s, made, dark, polled _ rfl, dark' _ ?_, feeds free _ ?_⟩
  · simp [Occurrence.keepsDark, Sensor.Op.isPolled]
  · rw [unlit]
    exact ⟨rfl, Or.inr ⟨⟨1, 1⟩, rfl⟩⟩

end Gating

end Scene

end Poll

end SensorMonitor
