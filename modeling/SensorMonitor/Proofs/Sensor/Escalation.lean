/-
# Proofs.Sensor.Escalation -- failed reads up to the limit

Failed reads are counted up to the limit, and a sensor that has reached it is broken
(`Health.Sound`), whatever is done to it.  One that is only polled, and can be read whenever
it is, follows a closed form (`Escalates`): what is counted are the failed reads since the
last number (`failures`), the one that reaches the limit is told on the bus together with the
loss of the value, further ones are told nothing of, and the next number is told to have
mended the sensor.
-/
import SensorMonitor.Proofs.Sensor.Flips
import SensorMonitor.Proofs.Sensor.Lapses
import SensorMonitor.Proofs.Sensor.Staleness

namespace SensorMonitor

set_option autoImplicit false

/-! ## Health -/

namespace Health

variable {h : Health} {n k : Nat}

/-- One more failed read; the one that reaches the limit means that the sensor is broken. -/
def fail (h : Health) : Health :=
  if h.errors + 1 = h.limit then h.countError.setFunctional false else h.countError

/-- The failed reads are counted up to the limit, where the sensor is broken. -/
structure Sound (h : Health) (n : Nat) : Prop where
  limit : h.limit = n
  errors : h.errors ≤ n
  broken : h.errors = n → h.functional = false

namespace Sound

theorem setFunctional (sound : h.Sound n) (pos : 0 < n) (b : Bool) :
    (h.setFunctional b).Sound n := by
  cases b with
  | true => exact ⟨sound.limit, Nat.zero_le n, fun full => absurd full (Nat.ne_of_lt pos)⟩
  | false => exact ⟨sound.limit, sound.errors, fun _ => rfl⟩

theorem setAvailable (sound : h.Sound n) (pos : 0 < n) (b : Bool) :
    (h.setAvailable b).Sound n :=
  ⟨sound.limit, Nat.zero_le n, fun full => absurd full (Nat.ne_of_lt pos)⟩

theorem fail (sound : h.Sound n) : h.fail.Sound n := by
  obtain ⟨rfl, errors, broken⟩ := sound
  simp only [Health.fail, countError]
  split
  · next reached =>
      rw [if_neg (by omega)]
      exact ⟨rfl, Nat.le_of_eq reached, fun _ => rfl⟩
  · next short =>
      split
      · exact ⟨rfl, errors, broken⟩
      · exact ⟨rfl, by simp only; omega, fun full => absurd full short⟩

end Sound

/-- There were `k` failed reads since the last number. -/
structure Counts (h : Health) (n k : Nat) : Prop where
  limit : h.limit = n
  errors : h.errors = min k n
  functional : h.functional = false ↔ n ≤ k

namespace Counts

theorem sound (counts : h.Counts n k) : h.Sound n := by
  have errors := counts.errors
  refine ⟨counts.limit, by omega, ?_⟩
  intro full
  rw [counts.functional]
  omega

theorem fail (counts : h.Counts n k) : h.fail.Counts n (k + 1) := by
  obtain ⟨rfl, errors, functional⟩ := counts
  have limit := h.countError_limit
  have counted := h.countError_errors (by omega)
  simp only [Health.fail]
  split
  · exact ⟨limit, counted.trans (by omega), iff_of_true rfl (by omega)⟩
  · refine ⟨limit, counted.trans (by omega), ?_⟩
    rw [countError_functional, functional]
    omega

theorem recover (counts : h.Counts n k) (pos : 0 < n) :
    ((h.setFunctional true).setAvailable true).Counts n 0 :=
  ⟨counts.limit, (Nat.zero_min n).symm, iff_of_false Bool.noConfusion (Nat.not_le.2 pos)⟩

end Counts

theorem counts_ofLimit (limit : Nat) : (ofLimit limit).Counts (max limit 1) 0 :=
  ⟨rfl, (Nat.zero_min _).symm, iff_of_false Bool.noConfusion (by omega)⟩

end Health

namespace Sensor

/-! ## The health in the course of acts -/

section Health

variable {s : Sensor} {power : PowerStatus} {n : Nat}

/-- Where there is power, the loss of a reading says nothing of the health. -/
theorem health_feed_of_isNaN {x : Float} (lost : x.isNaN = true) (rest : s.internal = false)
    (readable : s.isReadable power = true) : (Act.feed power x s).1.health = s.health := by
  cases free : s.overridden with
  | true =>
      rw [Act.feed_of_overridden x free]
      rfl
  | false => rw [Act.health_feed x free rest, readable, if_pos rfl, if_pos lost]

theorem health_countError (rest : s.internal = false) (readable : s.isReadable power = true) :
    (Act.countError power s).1.health = s.health.fail := by
  rw [Act.countError_of_readable readable]
  simp only [Health.fail]
  split
  · let counted : Sensor := { s with health := s.health.countError }
    have noted : (Act.noteFunctional false counted).1 =
        { counted with health := s.health.countError.setFunctional false } :=
      Act.noteFunctional_fst counted false
    change (Act.feed power Number.nan (Act.noteFunctional false counted).1).1.health = _
    rw [noted]
    exact health_feed_of_isNaN Number.isNaN_nan rest readable
  · rfl

theorem sound_feed (pos : 0 < n) (power : PowerStatus) (x : Float) (rest : s.internal = false)
    (sound : s.health.Sound n) : (Act.feed power x s).1.health.Sound n := by
  cases free : s.overridden with
  | true =>
      rw [Act.feed_of_overridden x free]
      exact sound
  | false =>
      rw [Act.health_feed x free rest]
      split
      · split
        · exact sound
        · exact (sound.setFunctional pos true).setAvailable pos true
      · exact sound.setAvailable pos false

/-- Losing the value, as far as an act asks for it. -/
theorem sound_lose (pos : 0 < n) (power : PowerStatus) (keep : Bool) (rest : s.internal = false)
    (sound : s.health.Sound n) :
    ((if keep then Act.skip else .feed power Number.nan) s).1.health.Sound n := by
  cases keep with
  | true => exact sound
  | false => exact sound_feed pos power Number.nan rest sound

/-- The operation has a say in the health. -/
def Op.judges : Op → Bool
  | .feed _ => true
  | .countError => true
  | .markFunctional _ => true
  | .markAvailable _ => true
  | .setAvailable _ => true
  | _ => false

/-- All other operations leave the health and the statistics alone. -/
theorem books_perform {c : Conditions} {op : Op} (aside : op.judges = false) :
    (s.perform c op).sensor.health = s.health ∧ (s.perform c op).sensor.tally = s.tally := by
  have checked : ∀ s : Sensor, (Act.checkThresholds s).1.health = s.health ∧
      (Act.checkThresholds s).1.tally = s.tally := by
    intro s
    rw [Act.checkThresholds_fst]
    split <;> exact ⟨rfl, rfl⟩
  cases op with
  | feed x | countError | markFunctional b | markAvailable b | setAvailable b => cases aside
  | checkThresholds => exact checked s
  | write x =>
      have set : (Act.setValue x s).1.health = s.health ∧ (Act.setValue x s).1.tally = s.tally := by
        simp only [Act.setValue]
        split
        · split <;> exact ⟨rfl, rfl⟩
        · exact ⟨rfl, rfl⟩
      obtain ⟨health, tally⟩ := checked (Act.setValue x s).1
      simp only [perform, write]
      split
      · exact ⟨health.trans set.1, tally.trans set.2⟩
      · exact ⟨rfl, rfl⟩
  | setTrigger slot x =>
      change (s.setTrigger slot x).sensor.health = _ ∧ (s.setTrigger slot x).sensor.tally = _
      obtain ⟨failure, refused⟩ | ⟨thresholds, edited, accepted⟩ := setTrigger_cases slot x s
      · rw [refused]
        exact ⟨rfl, rfl⟩
      · rw [accepted]
        exact ⟨rfl, rfl⟩
  | setBounds min max =>
      change (Act.setMax max (Act.setMin min s).1).1.health = _ ∧
        (Act.setMax max (Act.setMin min s).1).1.tally = _
      obtain ⟨low, movedMin⟩ := Act.setMin_fst s min
      obtain ⟨high, movedMax⟩ := Act.setMax_fst (Act.setMin min s).1 max
      rw [movedMax, movedMin]
      exact ⟨rfl, rfl⟩
  | replaceThresholds ts =>
      change (s.replaceThresholds ts).sensor.health = _ ∧
        (s.replaceThresholds ts).sensor.tally = _
      obtain ⟨failure, refused⟩ | same | ⟨abandoned, thresholds, accepted⟩ :=
        replaceThresholds_cases ts s
      · rw [refused]
        exact ⟨rfl, rfl⟩
      · rw [same]
        exact ⟨rfl, rfl⟩
      · rw [accepted]
        exact ⟨rfl, rfl⟩
  | setRaw x | clearOverride | release | participate b | attach key | setHook hook =>
      exact ⟨rfl, rfl⟩

theorem health_perform {c : Conditions} {op : Op} (aside : op.judges = false) :
    (s.perform c op).sensor.health = s.health := (books_perform aside).1

/-- **No operation leaves the count or the flag of a sensor wrong.** -/
theorem sound_perform (pos : 0 < n) (c : Conditions) (op : Op) (rest : s.internal = false)
    (sound : s.health.Sound n) : (s.perform c op).sensor.health.Sound n := by
  cases aside : op.judges with
  | false =>
      rw [health_perform aside]
      exact sound
  | true =>
      cases op with
      | feed x => exact sound_feed pos c.power x rest sound
      | countError =>
          change (Act.countError c.power s).1.health.Sound n
          cases readable : s.isReadable c.power with
          | true =>
              rw [health_countError rest readable]
              exact sound.fail
          | false =>
              rw [Act.countError_of_unreadable readable, Act.noteAvailable_fst]
              exact sound.setAvailable pos false
      | markFunctional b =>
          have noted : (Act.noteFunctional b s).1.health.Sound n := by
            rw [Act.noteFunctional_fst]
            exact sound.setFunctional pos b
          exact sound_lose pos c.power b ((Act.aside_noteFunctional s b).internal.trans rest) noted
      | markAvailable b =>
          change (Act.noteAvailable b s).1.health.Sound n
          rw [Act.noteAvailable_fst]
          exact sound.setAvailable pos b
      | setAvailable b =>
          change (Act.setAvailable c.power b s).1.health.Sound n
          simp only [Act.setAvailable]
          split
          · exact sound
          · have noted : (Act.noteAvailable b s).1.health.Sound n := by
              rw [Act.noteAvailable_fst]
              exact sound.setAvailable pos b
            exact sound_lose pos c.power b ((Act.aside_noteAvailable s b).internal.trans rest) noted
      | setRaw x | checkThresholds | write x | clearOverride | release | setTrigger slot x
      | setBounds min max | replaceThresholds ts | participate b | attach key | setHook hook =>
          cases aside

end Health

/-! ## The value of a broken sensor -/

section Value

variable {s s' : Sensor}

/-- If the sensor is broken and nobody overrides it, it has no value. -/
def LostIfBroken (s : Sensor) : Prop :=
  s.health.functional = false → s.overridden = false → s.value.isNaN = true

theorem Settled.lostIfBroken (settled : s.Settled) : s.LostIfBroken := by
  intro broken free
  cases settled with
  | overridden overridden => exact absurd (overridden.symm.trans free) (by decide)
  | lost lost => exact lost
  | well functional available => exact absurd (functional.symm.trans broken) (by decide)

/-- **A broken sensor gets no value** but by an override, which only a release leaves behind. -/
theorem LostIfBroken.perform (lost : s.LostIfBroken) {c : Conditions} {op : Op}
    (rest : s.internal = false) (bound : op ≠ .release) :
    (s.perform c op).sensor.LostIfBroken := by
  cases perform_course c op rest with
  | settled settled => exact settled.lostIfBroken
  | spared spared =>
      intro broken free
      rw [spared.value]
      exact lost (spared.functional broken) (spared.overridden.symm.trans free)
  | dropped drops eq =>
      rw [eq]
      exact lost
  | released asked eq => exact absurd asked bound

end Value

/-! ## What is told of the health -/

section Told

variable {s : Sensor} {power : PowerStatus} {x : Float}

/-- What effects tell of whether the sensor at the path works, in order. -/
def turns (path : String) (effects : List Effect) : List Bool :=
  Flag.functional.flips path (announced effects)

@[simp] theorem turns_append (path : String) (first second : List Effect) :
    turns path (first ++ second) = turns path first ++ turns path second := by
  rw [turns, announced_append, Flag.flips_append]
  rfl

theorem turns_store (s : Sensor) : turns s.identity.path (Act.store x s).2 = [] := by
  rw [turns, Follower.announced_store, Flag.flips_changesOf]
  rfl

theorem turns_checkThresholds (s : Sensor) (path : String) :
    turns path (Act.checkThresholds s).2 = [] := by
  simp only [Act.checkThresholds]
  split
  · simp only [turns, Flag.flips, announced, Act.publishAll, List.filterMap_map,
      List.filterMap_filterMap, List.filterMap_eq_nil_iff]
    intro edge _
    simp [Effect.event?, Flag.toldAt?, Flag.told?, Act.alarmOf]
  · rfl

theorem turns_noteAvailable (s : Sensor) (path : String) (b : Bool) :
    turns path (Act.noteAvailable b s).2 = [] := by
  simp only [Act.noteAvailable]
  split
  · rfl
  · simp [turns, Flag.flips, announced, Act.publish, Effect.event?, Flag.toldAt?, Flag.told?]

theorem announced_noteFunctional (s : Sensor) (b : Bool) :
    announced (Act.noteFunctional b s).2 =
      if s.health.functional = b then [] else [.changed s.identity.path (.functional b)] := by
  simp only [Act.noteFunctional]
  split <;> rfl

theorem turns_noteFunctional (s : Sensor) (b : Bool) :
    turns s.identity.path (Act.noteFunctional b s).2 =
      if s.health.functional = b then [] else [b] := by
  rw [turns, announced_noteFunctional]
  split <;> simp [Flag.flips, Flag.toldAt?, Flag.told?]

/-- Where there is power, the loss of a reading is told as such and nothing else is. -/
theorem announced_feed_of_isNaN (lost : x.isNaN = true) (free : s.overridden = false)
    (rest : s.internal = false) (readable : s.isReadable power = true) :
    announced (Act.feed power x s).2 = [.changed s.identity.path (.value x)] := by
  let recorded := (Act.record x (Act.store x s).1).1
  have checked : Act.checkThresholds recorded = Act.skip recorded :=
    Act.checkThresholds_of_isNaN lost
  have recovered : Act.recover x = Act.skip := if_pos lost
  rw [Act.feed_of_readable x free rest readable, Act.admits_of_isNaN _ lost, if_pos rfl, recovered]
  change announced ((Act.store x s).2 ++ [] ++ (Act.checkThresholds recorded).2 ++ []) = _
  rw [checked, List.append_nil, List.append_nil]
  exact (congrArg announced (List.append_nil _)).trans (Follower.announced_store x s)

/-- A number is told to mend the sensor if it was broken. -/
theorem turns_feed_of_number (number : x.isNaN = false) (free : s.overridden = false)
    (rest : s.internal = false) (readable : s.isReadable power = true) :
    turns s.identity.path (Act.feed power x s).2 =
      if s.health.functional then [] else [true] := by
  let published := ((if s.measurement.admits x then Act.store x else Act.skip) s)
  let checked := (Act.checkThresholds (Act.record x published.1).1)
  have stored : turns s.identity.path published.2 = [] := by
    simp only [published]
    split
    · exact turns_store s
    · rfl
  have same : checked.1.health = s.health ∧ checked.1.identity = s.identity := by
    simp only [checked]
    rw [Act.checkThresholds_fst]
    simp only [published]
    split <;> split <;> exact ⟨rfl, rfl⟩
  have mended := turns_noteFunctional checked.1 true
  rw [same.1, same.2] at mended
  have recovered : Act.recover x = (Act.noteFunctional true).andThen (Act.noteAvailable true) :=
    if_neg (by rw [number]; decide)
  rw [Act.feed_of_readable x free rest readable, recovered]
  change turns _ (published.2 ++ [] ++ checked.2 ++ ((Act.noteFunctional true checked.1).2 ++
    (Act.noteAvailable true (Act.noteFunctional true checked.1).1).2)) = _
  simp only [turns_append]
  rw [stored, mended, turns_checkThresholds, turns_noteAvailable]
  exact List.append_nil _

/-- The failed read that reaches the limit is told together with the loss of the value, and no
other failed read is told at all. -/
theorem announced_countError {n k : Nat} (counts : s.health.Counts n k)
    (free : s.overridden = false) (rest : s.internal = false)
    (readable : s.isReadable power = true) :
    announced (Act.countError power s).2 =
      if k + 1 = n then [.changed s.identity.path (.functional false),
        .changed s.identity.path (.value Number.nan)]
      else [] := by
  obtain ⟨rfl, errors, functional⟩ := counts
  have reaches : s.health.errors + 1 = s.health.limit ↔ k + 1 = s.health.limit := by omega
  simp only [Act.countError_of_readable readable, reaches]
  split
  · next reached =>
      let counted : Sensor := { s with health := s.health.countError }
      let noted : Sensor := { counted with health := s.health.countError.setFunctional false }
      have works : counted.health.functional = true := by
        rw [← Bool.not_eq_false, s.health.countError_functional, functional]
        omega
      have told : announced (Act.noteFunctional false counted).2 =
          [.changed s.identity.path (.functional false)] := by
        rw [announced_noteFunctional, works]
        rfl
      have fed := announced_feed_of_isNaN (s := noted) Number.isNaN_nan free rest readable
      have same : (Act.noteFunctional false counted).1 = noted :=
        Act.noteFunctional_fst counted false
      change announced ((Act.noteFunctional false counted).2 ++
        (Act.feed power Number.nan (Act.noteFunctional false counted).1).2) = _
      rw [announced_append, told, same, fed]
      rfl
  · rfl

end Told

/-! ## Polled sensors -/

/-- The operation is not part of polling a sensor that can be read. -/
def Op.strays (c : Conditions) (s : Sensor) (op : Op) : Bool :=
  !op.isPolled || !s.isReadable c.power

/-- Nothing but readings and failed reads had a say, the last `k` of them failed reads. -/
structure Poised (s : Sensor) (n k : Nat) : Prop where
  rest : s.internal = false
  free : s.overridden = false
  counts : s.health.Counts n k

namespace Poised

variable {s : Sensor} {n k : Nat} {power : PowerStatus}

theorem feed_of_isNaN {x : Float} (poised : s.Poised n k) (lost : x.isNaN = true)
    (readable : s.isReadable power = true) :
    (Act.feed power x s).1.Poised n k ∧ turns s.identity.path (Act.feed power x s).2 = [] := by
  obtain ⟨rest, free, counts⟩ := poised
  obtain ⟨internal, overridden⟩ := Act.controlled_feed power x rest
  refine ⟨⟨internal, overridden.trans free, ?_⟩, ?_⟩
  · rw [health_feed_of_isNaN lost rest readable]
    exact counts
  · rw [turns, announced_feed_of_isNaN lost free rest readable]
    simp [Flag.flips, Flag.toldAt?, Flag.told?]

theorem feed_of_number {x : Float} (poised : s.Poised n k) (pos : 0 < n)
    (number : x.isNaN = false) (readable : s.isReadable power = true) :
    (Act.feed power x s).1.Poised n 0 ∧ turns s.identity.path (Act.feed power x s).2 =
      if n ≤ k then [true] else [] := by
  obtain ⟨rest, free, counts⟩ := poised
  obtain ⟨internal, overridden⟩ := Act.controlled_feed power x rest
  refine ⟨⟨internal, overridden.trans free, ?_⟩, ?_⟩
  · rw [Act.health_feed x free rest, readable, number]
    exact counts.recover pos
  · rw [turns_feed_of_number number free rest readable]
    by_cases works : s.health.functional = true
    · have few : ¬ n ≤ k := by
        rw [← counts.functional, works]
        decide
      rw [if_pos works, if_neg few]
    · rw [if_neg works, if_pos (counts.functional.1 (Bool.not_eq_true _ ▸ works))]

theorem countError (poised : s.Poised n k) (readable : s.isReadable power = true) :
    (Act.countError power s).1.Poised n (k + 1) ∧
      turns s.identity.path (Act.countError power s).2 = if k + 1 = n then [false] else [] := by
  obtain ⟨rest, free, counts⟩ := poised
  obtain ⟨internal, overridden⟩ := controlled_countError power rest
  refine ⟨⟨internal, overridden.trans free, ?_⟩, ?_⟩
  · rw [health_countError rest readable]
    exact counts.fail
  · rw [turns, announced_countError counts free rest readable]
    split <;> simp [Flag.flips, Flag.toldAt?, Flag.told?]

end Poised

end Sensor

/-! ## Failed reads of a run -/

namespace Happening

/-- A number is read. -/
def isReading : Happening → Bool
  | .perform (.feed x) => !x.isNaN
  | _ => false

/-- A read fails. -/
def isFailure : Happening → Bool
  | .perform .countError => true
  | _ => false

end Happening

/-- The failed reads of a run since the last number. -/
def failures (hs : List Happening) : Nat :=
  (hs.reverse.takeWhile fun h => !h.isReading).countP Happening.isFailure

/-- What becomes of a count of failed reads. -/
def Happening.recount (h : Happening) (k : Nat) : Nat :=
  if h.isReading then 0 else if h.isFailure then k + 1 else k

theorem failures_concat (hs : List Happening) (h : Happening) :
    failures (hs ++ [h]) = h.recount (failures hs) := by
  simp only [failures, Happening.recount, List.reverse_append, List.reverse_singleton,
    List.singleton_append, List.takeWhile_cons]
  cases h.isReading with
  | true => rfl
  | false =>
      change List.countP _ (h :: _) = _
      rw [List.countP_cons]
      cases h.isFailure <;> rfl

/-- Without a number in between, failed reads add up. -/
theorem failures_append (before stretch : List Happening)
    (apart : ∀ h ∈ stretch, h.isReading = false) :
    failures (before ++ stretch) = failures before + stretch.countP Happening.isFailure := by
  induction stretch using List.reverseRecOn with
  | nil => rw [List.append_nil, List.countP_nil, Nat.add_zero]
  | append_singleton stretch h ih =>
      have within := ih fun g member => apart g (List.mem_append_left _ member)
      rw [← List.append_assoc, failures_concat, within, Happening.recount,
        apart h (List.mem_append_right _ (List.mem_singleton_self h)), List.countP_append,
        List.countP_singleton]
      cases h.isFailure <;> rfl

namespace Installation

variable {i : Installation} {n k : Nat}

/-! ## Polled sensors -/

theorem flips_tells_perform (op : Sensor.Op) :
    Flag.functional.flips i.sensor.identity.path (i.tells [.perform op]) =
      Sensor.turns i.sensor.identity.path (i.sensor.perform i.site.conditions op).effects := by
  rw [tells_perform]
  rfl

/-- **One happening in the life of a polled sensor**: how the count goes on, and what is told
of whether it works. -/
theorem poised_step {h : Happening} (pos : 0 < n) (poised : i.sensor.Poised n k)
    (attended : i.isOf Sensor.Op.strays h = false) :
    (i.step h).sensor.Poised n (h.recount k) ∧
      Flag.functional.flips i.sensor.identity.path (i.tells [h]) =
        if h.isReading then (if n ≤ k then [true] else [])
        else if h.isFailure ∧ k + 1 = n then [false] else [] := by
  cases h with
  | power status =>
      rw [tells_power]
      exact ⟨poised, rfl⟩
  | access access =>
      rw [tells_access]
      exact ⟨poised, rfl⟩
  | perform op =>
      obtain ⟨polled, readable⟩ := Bool.or_eq_false_iff.1 attended
      rw [Bool.not_eq_false'] at polled readable
      rw [flips_tells_perform]
      cases op with
      | feed x =>
          have same : (Happening.perform (.feed x)).isReading = !x.isNaN := rfl
          rw [Happening.recount, same]
          by_cases lost : x.isNaN = true
          · rw [lost]
            exact poised.feed_of_isNaN lost readable
          · rw [Bool.not_eq_true] at lost
            rw [lost]
            exact poised.feed_of_number pos lost readable
      | setRaw x => exact ⟨⟨poised.rest, poised.free, poised.counts⟩, rfl⟩
      | countError =>
          obtain ⟨counted, told⟩ := poised.countError readable
          refine ⟨counted, told.trans ?_⟩
          simp [Happening.isReading, Happening.isFailure]
      | checkThresholds | markFunctional b | markAvailable b | write x | clearOverride | release
      | setAvailable b | setTrigger slot x | setBounds min max | replaceThresholds ts
      | participate b | attach key | setHook hook => cases polled

/-- **A polled sensor has counted the failed reads since the last number.** -/
theorem run_poised {hs : List Happening} (pos : 0 < n) (poised : i.sensor.Poised n 0)
    (attended : i.sees Sensor.Op.strays hs = false) :
    (i.run hs).sensor.Poised n (failures hs) := by
  induction hs using List.reverseRecOn with
  | nil => exact poised
  | append_singleton before h ih =>
      rw [sees_append, Bool.or_eq_false_iff] at attended
      obtain ⟨early, late⟩ := attended
      have here : (i.run before).isOf Sensor.Op.strays h = false := by
        simpa only [sees, Bool.or_false] using late
      rw [run_append, failures_concat]
      exact (poised_step pos (ih early) here).1

/-- **Between two numbers a polled sensor is told once to be broken, or not at all.** -/
theorem flips_of_stretch {before stretch : List Happening} (pos : 0 < n)
    (poised : i.sensor.Poised n 0)
    (attended : i.sees Sensor.Op.strays (before ++ stretch) = false)
    (apart : ∀ h ∈ stretch, h.isReading = false) :
    Flag.functional.flips i.sensor.identity.path ((i.run before).tells stretch) =
      if failures before < n ∧ n ≤ failures (before ++ stretch) then [false] else [] := by
  induction stretch using List.reverseRecOn with
  | nil =>
      rw [tells_nil, List.append_nil, if_neg (by omega)]
      rfl
  | append_singleton stretch h ih =>
      have within := fun g member => apart g (List.mem_append_left _ member)
      have unread := apart h (List.mem_append_right _ (List.mem_singleton_self h))
      rw [← List.append_assoc, sees_append, Bool.or_eq_false_iff] at attended
      obtain ⟨early, late⟩ := attended
      have here : (i.run (before ++ stretch)).isOf Sensor.Op.strays h = false := by
        simpa only [sees, Bool.or_false] using late
      have told := (poised_step pos (run_poised pos poised early) here).2
      rw [run_identity, unread, if_neg Bool.false_ne_true] at told
      have known := failures_append before stretch within
      rw [tells_append, Flag.flips_append, ih early within, ← run_append, told, ← List.append_assoc,
        failures_concat, Happening.recount, unread, if_neg Bool.false_ne_true]
      cases h.isFailure with
      | true =>
          by_cases reached : failures (before ++ stretch) + 1 = n
          · rw [if_neg (by omega), if_pos ⟨rfl, reached⟩, if_pos rfl, if_pos (by omega)]
            rfl
          · rw [if_neg (not_and_of_not_right _ reached), if_pos rfl, List.append_nil]
            congr 1
            rw [eq_iff_iff]
            omega
      | false => simp

/-- How faults escalate in a run, with the limit `n`: what is counted, what is told at a failed
read and at a number, and that it is told once from one number to the next. -/
structure Escalates (i : Installation) (n : Nat) (hs : List Happening) : Prop where
  errors : (i.run hs).sensor.health.errors = min (failures hs) n
  functional : (i.run hs).sensor.health.functional = false ↔ n ≤ failures hs
  failure : ∀ before after, hs = before ++ .perform .countError :: after →
    (i.run before).tells [.perform .countError] =
      if failures before + 1 = n then
        [.changed i.sensor.identity.path (.functional false),
          .changed i.sensor.identity.path (.value Number.nan)]
      else []
  number : ∀ before x after, hs = before ++ .perform (.feed x) :: after → x.isNaN = false →
    Flag.functional.flips i.sensor.identity.path ((i.run before).tells [.perform (.feed x)]) =
      if n ≤ failures before then [true] else []
  stretch : ∀ before stretch after, hs = before ++ stretch ++ after →
    (∀ h ∈ stretch, h.isReading = false) →
    Flag.functional.flips i.sensor.identity.path ((i.run before).tells stretch) =
      if failures before < n ∧ n ≤ failures (before ++ stretch) then [false] else []

theorem escalates_of_poised {hs : List Happening} (pos : 0 < n) (poised : i.sensor.Poised n 0)
    (attended : i.sees Sensor.Op.strays hs = false) : i.Escalates n hs := by
  have split : ∀ {early late}, hs = early ++ late → i.sees Sensor.Op.strays early = false ∧
      (i.run early).sees Sensor.Op.strays late = false := by
    rintro early late rfl
    rwa [sees_append, Bool.or_eq_false_iff] at attended
  have counts := (run_poised pos poised attended).counts
  refine ⟨counts.errors, counts.functional, ?_, ?_, ?_⟩
  · intro before after run
    obtain ⟨early, late⟩ := split run
    obtain ⟨rest, free, counts⟩ := run_poised pos poised early
    have readable : (i.run before).sensor.isReadable
        (i.run before).site.conditions.power = true := by
      have here := (Bool.or_eq_false_iff.1 late).1
      simpa [isOf, Sensor.Op.strays, Sensor.Op.isPolled] using here
    rw [tells_perform, ← run_identity i before]
    exact Sensor.announced_countError counts free rest readable
  · intro before x after run number
    obtain ⟨early, late⟩ := split run
    have told := (poised_step pos (run_poised pos poised early) (Bool.or_eq_false_iff.1 late).1).2
    have reading : (Happening.perform (.feed x)).isReading = true :=
      congrArg Bool.not number
    rwa [run_identity, reading, if_pos rfl] at told
  · intro before stretch after run apart
    exact flips_of_stretch pos poised (split run).1 apart

/-- **Faults escalate at the limit.**  Whatever is done to a sensor, it counts failed reads up to
its limit and is broken there, and a broken sensor has no value unless it was overridden.  If it
is only polled, and can be read whenever it is, the count is that of the failed reads since the
last number; the one that reaches the limit is told, with the loss of the value, and no other one
is, and that the sensor works again is told at the next number. -/
theorem fault_escalates (site : Site) (d : Definition) (i : Installation) (hs : List Happening)
    (made : make site d = .ok i) :
    let n := max (d.errorLimit.getD Health.usualLimit) 1
    (i.run hs).sensor.health.Sound n ∧
      (.perform .release ∉ hs → (i.run hs).sensor.LostIfBroken) ∧
      (i.sees Sensor.Op.strays hs = false → i.Escalates n hs) := by
  intro n
  obtain ⟨free, rest, health⟩ := (make_eq_ok made).1.start
  have pos : 0 < n := by omega
  have counts : i.sensor.health.Counts n 0 := by
    rw [health]
    exact Health.counts_ofLimit _
  refine ⟨?_, ?_, escalates_of_poised pos ⟨rest, free, counts⟩⟩
  · exact run_keeps (·.health.Sound n) rest counts.sound fun _ => Sensor.sound_perform pos _ _
  · intro bound
    have start : i.sensor.LostIfBroken := by
      intro broken
      exact absurd (counts.functional.1 broken) (Nat.not_le.2 pos)
    refine run_keeps Sensor.LostIfBroken rest start ?_
    intro c op s asked rest lost
    refine lost.perform rest ?_
    rintro rfl
    exact bound asked

/-- A sensor that is broken after two failed reads. -/
def fragileDefinition : Definition :=
  { sampleDefinition with thresholds := [], errorLimit := some 2 }

/-- Two reads fail, with a lost reading in between and a third failure afterwards. -/
def faults : List Happening :=
  [.power ⟨true, false⟩, .perform (.feed 42), .perform .countError, .perform (.feed Number.nan)] ++
    .perform .countError :: [.perform .countError]

theorem fault_escalates_sample : ∃ i, make .fresh fragileDefinition = .ok i ∧
    (i.run faults).sensor.health.errors = 2 ∧
      (i.run faults).sensor.health.functional = false ∧ (i.run faults).sensor.LostIfBroken ∧
      (i.run (faults.take 4)).tells [.perform .countError] =
        [.changed i.sensor.identity.path (.functional false),
          .changed i.sensor.identity.path (.value Number.nan)] := by
  have found : (make .fresh fragileDefinition).toOption.any
      (fun i => !i.sees Sensor.Op.strays faults) = true := by
    decide +kernel
  obtain ⟨i, made, attended⟩ := exists_made found
  rw [Bool.not_eq_true'] at attended
  obtain ⟨-, lost, escalates⟩ := fault_escalates .fresh fragileDefinition i faults made
  have escalates := escalates attended
  have count : failures faults = 3 := by decide
  have counted : failures (faults.take 4) + 1 = 2 := by decide
  refine ⟨i, made, ?_, ?_, lost (by simp [faults]), ?_⟩
  · rw [escalates.errors, count]
    rfl
  · rw [escalates.functional, count]
    decide
  · exact (escalates.failure _ _ rfl).trans (if_pos counted)

end Installation

end SensorMonitor
