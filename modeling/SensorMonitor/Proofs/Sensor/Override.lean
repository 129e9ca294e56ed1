/-
# Proofs.Sensor.Override -- an override prevails until it is ended

An accepted write of the value puts an override in force, which lasts until it is cleared or
released; whether one is in force can be read off the run (`overridden_iff_pinned`).  While
it lasts, nothing that is done to the sensor shows a value, on the bus or to the peers
(`Prevails`), so that what was written stays the published value (`override_prevails`).
-/
import SensorMonitor.Proofs.Sensor.Follower
import SensorMonitor.Proofs.Sensor.Readings

namespace SensorMonitor

set_option autoImplicit false

namespace Sensor

/-! ## What operations do to an override -/

namespace Op

/-- A write of the value that is accepted. -/
def overrides (c : Conditions) (s : Sensor) : Op → Bool
  | .write x => (s.perform c (.write x)).reply = .done
  | _ => false

/-- The end of an override. -/
def ends : Op → Bool
  | .clearOverride => true
  | .release => true
  | _ => false

/-- The operation decides on the override, one way or the other. -/
def decides (c : Conditions) (s : Sensor) (op : Op) : Bool := op.overrides c s || op.ends

/-- An edit of a trigger that is accepted, or definitions that replace others. -/
def edits (c : Conditions) (s : Sensor) : Op → Bool
  | .setTrigger slot x => (s.perform c (.setTrigger slot x)).reply = .done
  | .replaceThresholds ts => (s.perform c (.replaceThresholds ts)).reply = .changed true
  | _ => false

/-- What an operation on the wiring shows of the value: a new key is given it at once. -/
def presents (s : Sensor) : Op → List Effect
  | .attach key => [.share key s.value]
  | _ => []

end Op

section Control

variable {s : Sensor}

/-- Losing the value, as far as an act asks for it. -/
theorem controlled_lose (power : PowerStatus) (keep : Bool) (rest : s.internal = false) :
    Controlled s ((if keep then Act.skip else .feed power Number.nan) s).1 := by
  cases keep with
  | true => exact ⟨rest, rfl⟩
  | false => exact Act.controlled_feed power Number.nan rest

theorem controlled_markFunctional (power : PowerStatus) (b : Bool) (rest : s.internal = false) :
    Controlled s (Act.markFunctional power b s).1 := by
  have noted := (Act.aside_noteFunctional s b).controlled rest
  have lost := controlled_lose power b noted.internal
  exact ⟨lost.internal, lost.overridden.trans noted.overridden⟩

theorem controlled_countError (power : PowerStatus) (rest : s.internal = false) :
    Controlled s (Act.countError power s).1 := by
  cases readable : s.isReadable power with
  | true =>
      rw [Act.countError_of_readable readable]
      split
      · let counted : Sensor := { s with health := s.health.countError }
        obtain ⟨internal, overridden⟩ := controlled_markFunctional power false (s := counted) rest
        exact ⟨internal, overridden⟩
      · exact ⟨rest, rfl⟩
  | false =>
      rw [Act.countError_of_unreadable readable]
      exact (Act.aside_noteAvailable s false).controlled rest

theorem controlled_setAvailable (power : PowerStatus) (b : Bool) (rest : s.internal = false) :
    Controlled s (Act.setAvailable power b s).1 := by
  simp only [Act.setAvailable]
  split
  · exact ⟨rest, rfl⟩
  · have noted := (Act.aside_noteAvailable s b).controlled rest
    have lost := controlled_lose power b noted.internal
    exact ⟨lost.internal, lost.overridden.trans noted.overridden⟩

theorem overrides_write (c : Conditions) (x : Float) (s : Sensor) :
    (Op.write x).overrides c s = c.access.allows s.settable := by
  simp only [Op.overrides, perform, write]
  split
  · next allowed =>
      rw [allowed]
      rfl
  · next denied =>
      rw [Bool.not_eq_true] at denied
      rw [denied]
      rfl

/-- **An accepted write shows the value and pins it.** -/
theorem write_spec {c : Conditions} {x : Float} (rest : s.internal = false)
    (accepted : (Op.write x).overrides c s = true) :
    (s.perform c (.write x)).sensor.value = x ∧
      (s.perform c (.write x)).sensor.overridden = true ∧
      (s.perform c (.write x)).sensor.internal = false ∧
      shown (s.perform c (.write x)).effects = (Act.store x s).2 := by
  rw [overrides_write] at accepted
  let set := Act.store x { s with overridden := true }
  let checked := Act.checkThresholds set.1
  have setValue : Act.setValue x s = set := by
    simp only [Act.setValue]
    exact if_neg (by rw [rest]; decide)
  have written : s.perform c (.write x) =
      ⟨checked.1, set.2 ++ checked.2 ++ (Act.tellHook x checked.1).2, .done⟩ := by
    simp only [perform, write]
    rw [accepted]
    simp only [Outcome.ofAct, Act.override, Act.andThen, setValue]
    rfl
  obtain ⟨value, overridden, internal, mute⟩ := Act.aside_checkThresholds set.1
  have stored : shown set.2 = (Act.store x s).2 := by
    simp only [set, Act.store, Act.change, Act.publish, Act.share, Act.andThen]
    cases s.key <;> rfl
  have told : shown (Act.tellHook x checked.1).2 = [] := by
    simp only [Act.tellHook]
    split <;> rfl
  rw [written]
  refine ⟨value, overridden, internal.trans rest, ?_⟩
  rw [shown_append, shown_append, stored, mute, told, List.append_nil, List.append_nil]

/-- **An override is put in force by an accepted write and ended by a clear or a release**;
nothing else touches it, and the flag is down again after every operation. -/
theorem control_perform (c : Conditions) (op : Op) (rest : s.internal = false) :
    (s.perform c op).sensor.internal = false ∧
      (s.perform c op).sensor.overridden =
        (op.overrides c s || (!op.ends && s.overridden)) := by
  -- all but writes and ends leave the override as it is
  have kept : ∀ {s' : Sensor}, Controlled s s' → s'.internal = false ∧
      s'.overridden = (false || (!false && s.overridden)) := fun same =>
    ⟨same.internal, same.overridden⟩
  cases op with
  | feed x => exact kept (Act.controlled_feed c.power x rest)
  | countError => exact kept (controlled_countError c.power rest)
  | checkThresholds => exact kept ((Act.aside_checkThresholds s).controlled rest)
  | markFunctional b => exact kept (controlled_markFunctional c.power b rest)
  | markAvailable b => exact kept ((Act.aside_noteAvailable s b).controlled rest)
  | write x =>
      cases accepted : (Op.write x).overrides c s with
      | true =>
          obtain ⟨-, overridden, internal, -⟩ := write_spec rest accepted
          exact ⟨internal, overridden⟩
      | false =>
          rw [overrides_write] at accepted
          simp only [perform, write]
          rw [accepted]
          exact ⟨rest, rfl⟩
  | setAvailable b => exact kept (controlled_setAvailable c.power b rest)
  | setTrigger slot x =>
      simp only [perform, setTrigger]
      split <;> exact kept ⟨rest, rfl⟩
  | setBounds min max =>
      exact kept (((Act.aside_setMin s min).trans (Act.aside_setMax _ max)).controlled rest)
  | replaceThresholds ts =>
      simp only [perform, replaceThresholds]
      split
      · exact kept ⟨rest, rfl⟩
      · split <;> exact kept ⟨rest, rfl⟩
  | clearOverride | release | setRaw x | participate b | attach key | setHook hook =>
      exact ⟨rest, rfl⟩

end Control

/-! ## Under an override -/

section Pinned

variable {s : Sensor}

/-- A trigger is edited, or the edit is refused. -/
theorem setTrigger_cases (slot : Slot) (x : Float) (s : Sensor) :
    (∃ failure, s.setTrigger slot x = .refuse s failure) ∨
      ∃ thresholds edited, s.setTrigger slot x =
        .ofAct (.editThreshold thresholds edited) .done s := by
  simp only [setTrigger]
  split
  · exact Or.inl ⟨_, rfl⟩
  · exact Or.inr ⟨_, _, rfl⟩

/-- Definitions are adopted, or they are the old ones, or they are refused. -/
theorem replaceThresholds_cases (ts : List Threshold) (s : Sensor) :
    (∃ failure, s.replaceThresholds ts = .refuse s failure) ∨
      s.replaceThresholds ts = .ofAct .skip (.changed false) s ∨
      ∃ abandoned thresholds, s.replaceThresholds ts =
        .ofAct (.adoptThresholds abandoned thresholds) (.changed true) s := by
  simp only [replaceThresholds]
  split
  · exact Or.inl ⟨_, rfl⟩
  · split
    · exact Or.inr (Or.inl rfl)
    · exact Or.inr (Or.inr ⟨_, _, rfl⟩)

theorem aside_feed (power : PowerStatus) (x : Float) (overridden : s.overridden = true) :
    Aside s (Act.feed power x s).1 (Act.feed power x s).2 := by
  rw [Act.feed_of_overridden x overridden]
  exact .refl s

theorem aside_lose (power : PowerStatus) (keep : Bool) (overridden : s.overridden = true) :
    Aside s ((if keep then Act.skip else .feed power Number.nan) s).1
      ((if keep then Act.skip else .feed power Number.nan) s).2 := by
  cases keep with
  | true => exact .refl s
  | false => exact aside_feed power Number.nan overridden

theorem aside_markFunctional (power : PowerStatus) (b : Bool) (overridden : s.overridden = true) :
    Aside s (Act.markFunctional power b s).1 (Act.markFunctional power b s).2 := by
  have noted := Act.aside_noteFunctional s b
  exact noted.trans (aside_lose power b (noted.overridden.trans overridden))

theorem aside_countError (power : PowerStatus) (overridden : s.overridden = true) :
    Aside s (Act.countError power s).1 (Act.countError power s).2 := by
  cases readable : s.isReadable power with
  | true =>
      let counted : Sensor := { s with health := s.health.countError }
      have noted : Aside s counted [] := ⟨rfl, rfl, rfl, rfl⟩
      rw [Act.countError_of_readable readable]
      split
      · exact noted.trans (aside_markFunctional power false overridden)
      · exact noted
  | false =>
      rw [Act.countError_of_unreadable readable]
      exact Act.aside_noteAvailable s false

theorem aside_setAvailable (power : PowerStatus) (b : Bool) (overridden : s.overridden = true) :
    Aside s (Act.setAvailable power b s).1 (Act.setAvailable power b s).2 := by
  simp only [Act.setAvailable]
  split
  · exact .refl s
  · have noted := Act.aside_noteAvailable s b
    exact noted.trans (aside_lose power b (noted.overridden.trans overridden))

/-- **Under an override only edits touch the value, and only a new key shows it.** -/
theorem pinned_perform {c : Conditions} {op : Op} (overridden : s.overridden = true)
    (spared : op.decides c s = false) :
    (s.perform c op).sensor.value = (if op.edits c s then Number.nan else s.value) ∧
      shown (s.perform c op).effects = op.presents s := by
  have kept : ∀ {s' : Sensor} {effects : List Effect}, Aside s s' effects →
      s'.value = s.value ∧ shown effects = [] := fun aside => ⟨aside.value, aside.shown⟩
  cases op with
  | feed x => exact kept (aside_feed c.power x overridden)
  | countError => exact kept (aside_countError c.power overridden)
  | checkThresholds => exact kept (Act.aside_checkThresholds s)
  | markFunctional b => exact kept (aside_markFunctional c.power b overridden)
  | markAvailable b => exact kept (Act.aside_noteAvailable s b)
  | write x =>
      have denied : c.access.allows s.settable = false := by
        rw [← overrides_write c x]
        exact (Bool.or_eq_false_iff.1 spared).1
      simp only [perform, write]
      rw [denied]
      exact ⟨rfl, rfl⟩
  | clearOverride | release => cases spared
  | setAvailable b => exact kept (aside_setAvailable c.power b overridden)
  | setTrigger slot x =>
      change (s.setTrigger slot x).sensor.value =
          (if decide ((s.setTrigger slot x).reply = .done) then Number.nan else s.value) ∧
        shown (s.setTrigger slot x).effects = []
      obtain ⟨failure, refused⟩ | ⟨thresholds, edited, accepted⟩ := setTrigger_cases slot x s
      · rw [refused]
        exact ⟨rfl, rfl⟩
      · rw [accepted]
        exact ⟨rfl, rfl⟩
  | setBounds min max => exact kept ((Act.aside_setMin s min).trans (Act.aside_setMax _ max))
  | replaceThresholds ts =>
      change (s.replaceThresholds ts).sensor.value =
          (if decide ((s.replaceThresholds ts).reply = .changed true) then Number.nan
            else s.value) ∧ shown (s.replaceThresholds ts).effects = []
      obtain ⟨failure, refused⟩ | same | ⟨abandoned, thresholds, adopted⟩ :=
        replaceThresholds_cases ts s
      · rw [refused]
        exact ⟨rfl, rfl⟩
      · rw [same]
        exact ⟨rfl, rfl⟩
      · rw [adopted]
        exact ⟨rfl, Act.shown_adoptThresholds s abandoned thresholds⟩
  | setRaw x | participate b | setHook hook | attach key => exact ⟨rfl, rfl⟩

end Pinned

end Sensor

/-! ## Runs -/

namespace Installation

variable {i : Installation} {hs : List Happening}

theorem run_internal (rest : i.sensor.internal = false) (hs : List Happening) :
    (i.run hs).sensor.internal = false := by
  induction hs generalizing i with
  | nil => exact rest
  | cons h hs ih =>
      refine ih (i := i.step h) ?_
      cases h with
      | power status | access access => exact rest
      | perform op => exact (Sensor.control_perform _ op rest).1

/-- What every operation of a run keeps with the flag down before, the run keeps. -/
theorem run_keeps (law : Sensor → Prop) (rest : i.sensor.internal = false) (start : law i.sensor)
    (kept : ∀ {c op s}, .perform op ∈ hs → s.internal = false → law s →
      law (s.perform c op).sensor) : law (i.run hs).sensor := by
  induction hs using List.reverseRecOn with
  | nil => exact start
  | append_singleton before h ih =>
      have holds := ih fun asked => kept (List.mem_append_left _ asked)
      rw [run_append]
      cases h with
      | power status | access access => exact holds
      | perform op =>
          exact kept (List.mem_append_right _ List.mem_cons_self) (run_internal rest before) holds

theorem run_identity (i : Installation) (hs : List Happening) :
    (i.run hs).sensor.identity = i.sensor.identity := by
  induction hs generalizing i with
  | nil => rfl
  | cons h hs ih =>
      refine (ih (i.step h)).trans ?_
      cases h with
      | power status | access access => rfl
      | perform op => exact Sensor.perform_identity _ op _

/-- An override lasts through a run: edits apart, the sensor's own copy of the value stays, no
path has a new value, and in the directory at most keys change that the sensor is given. -/
structure Prevails (i : Installation) (hs : List Happening) : Prop where
  overridden : (i.run hs).sensor.overridden = true
  value : (i.run hs).sensor.value =
    if i.sees Sensor.Op.edits hs then Number.nan else i.sensor.value
  values : ∀ path, (i.run hs).site.bus.values path = i.site.bus.values path
  directory : ∀ key, .perform (.attach key) ∉ hs →
    (i.run hs).site.directory.lookup key = i.site.directory.lookup key

theorem Prevails.cons {h : Happening} (first : i.Prevails [h])
    (rest : (i.step h).Prevails hs) : i.Prevails (h :: hs) := by
  refine ⟨rest.overridden, ?_, fun path => (rest.values path).trans (first.values path), ?_⟩
  · have seen : i.sees Sensor.Op.edits (h :: hs) =
        (i.isOf Sensor.Op.edits h || (i.step h).sees Sensor.Op.edits hs) := rfl
    have here := first.value
    simp only [sees, Bool.or_false] at here
    change ((i.step h).run hs).sensor.value = _
    rw [rest.value, seen]
    change (i.step h).sensor.value = _ at here
    rw [here]
    cases i.isOf Sensor.Op.edits h <;> simp
  · intro key apart
    rw [List.mem_cons, not_or] at apart
    exact (rest.directory key apart.2).trans (first.directory key (by simpa using apart.1))

theorem prevails_step {h : Happening} (rest : i.sensor.internal = false)
    (overridden : i.sensor.overridden = true) (spared : i.isOf Sensor.Op.decides h = false) :
    i.Prevails [h] := by
  cases h with
  | power status | access access => exact ⟨overridden, rfl, fun _ => rfl, fun _ _ => rfl⟩
  | perform op =>
      obtain ⟨-, kept⟩ := Sensor.control_perform i.site.conditions op rest
      obtain ⟨value, shown⟩ := Sensor.pinned_perform overridden spared
      obtain ⟨idle, lasting⟩ := Bool.or_eq_false_iff.1 spared
      rw [idle, lasting, overridden] at kept
      refine ⟨kept, ?_, ?_, ?_⟩
      · simp only [sees, Bool.or_false]
        exact value
      · intro path
        have unshown : Sensor.announced (op.presents i.sensor) = [] := by
          cases op <;> rfl
        change (i.site.absorbAll _).bus.values path = _
        rw [Site.values_absorbAll, shown, unshown]
        exact List.append_nil _
      · intro key apart
        cases op with
        | attach other =>
            have apart : other ≠ key := by
              rintro rfl
              exact apart List.mem_cons_self
            exact (Directory.lookup_update _ other key _).trans (if_neg apart)
        | feed x | setRaw x | countError | checkThresholds | markFunctional b | markAvailable b
        | write x | clearOverride | release | setAvailable b | setTrigger slot x
        | setBounds min max | replaceThresholds ts | participate b | setHook hook =>
            exact congrArg (Directory.lookup · key) (Site.directory_absorbAll i.site shown)

/-- **An override lasts until something decides on it.** -/
theorem prevails_run (rest : i.sensor.internal = false) (overridden : i.sensor.overridden = true)
    (spared : i.sees Sensor.Op.decides hs = false) : i.Prevails hs := by
  induction hs generalizing i with
  | nil => exact ⟨overridden, rfl, fun _ => rfl, fun _ _ => rfl⟩
  | cons h hs ih =>
      obtain ⟨here, later⟩ := Bool.or_eq_false_iff.1 spared
      have first := prevails_step rest overridden here
      exact first.cons (ih (run_internal rest [h]) first.overridden later)

/-! ## Who pinned the value -/

/-- The last decision on an override in the run is an accepted write of `x`, with this run
before it and this one after. -/
structure Pinned (i : Installation) (hs before : List Happening) (x : Float)
    (after : List Happening) : Prop where
  split : hs = before ++ .perform (.write x) :: after
  accepted : (i.run before).isOf Sensor.Op.overrides (.perform (.write x)) = true
  undisturbed : ((i.run before).step (.perform (.write x))).sees Sensor.Op.decides after = false

namespace Pinned

variable {before after : List Happening} {x : Float}

theorem run_eq (pinned : i.Pinned hs before x after) :
    i.run hs = ((i.run before).step (.perform (.write x))).run after := by
  rw [pinned.split, run_append]
  rfl

theorem snoc (pinned : i.Pinned hs before x after) {h : Happening}
    (spared : (i.run hs).isOf Sensor.Op.decides h = false) :
    i.Pinned (hs ++ [h]) before x (after ++ [h]) := by
  refine ⟨by rw [pinned.split]; simp, pinned.accepted, ?_⟩
  rw [sees_append, pinned.undisturbed, ← pinned.run_eq]
  simp only [sees, spared, Bool.or_false]

/-- The write that pins the value, and what comes after it. -/
theorem spec (pinned : i.Pinned hs before x after) (rest : i.sensor.internal = false) :
    ((i.run before).step (.perform (.write x))).sensor.value = x ∧
      ((i.run before).step (.perform (.write x))).site.bus.values i.sensor.identity.path =
        (i.run before).site.bus.values i.sensor.identity.path ++ [x] ∧
      ((i.run before).step (.perform (.write x))).Prevails after := by
  have rest := run_internal rest before
  obtain ⟨value, overridden, internal, shown⟩ := Sensor.write_spec rest pinned.accepted
  refine ⟨value, ?_, prevails_run internal overridden pinned.undisturbed⟩
  have shows : Sensor.announced (Sensor.Act.store x (i.run before).sensor).2 =
      [.changed i.sensor.identity.path (.value x)] := by
    rw [Follower.announced_store, run_identity]
    rfl
  change ((i.run before).site.absorbAll _).bus.values _ = _
  rw [Site.values_absorbAll, shown, shows]
  simp [Event.valueAt?]

end Pinned

/-- **An override is in force exactly if the last decision on it was an accepted write.** -/
theorem overridden_iff_pinned (rest : i.sensor.internal = false)
    (free : i.sensor.overridden = false) :
    (i.run hs).sensor.overridden = true ↔ ∃ before x after, i.Pinned hs before x after := by
  constructor
  · intro overridden
    induction hs using List.reverseRecOn with
    | nil => exact absurd (overridden.symm.trans free) (by decide)
    | append_singleton before h ih =>
        have go : (i.run before).sensor.overridden = true →
            (i.run before).isOf Sensor.Op.decides h = false →
            ∃ early x after, i.Pinned (before ++ [h]) early x after := by
          intro overridden spared
          obtain ⟨early, x, after, pinned⟩ := ih overridden
          exact ⟨early, x, after ++ [h], pinned.snoc spared⟩
        rw [run_append] at overridden
        cases h with
        | power status | access access => exact go overridden rfl
        | perform op =>
            have control := (Sensor.control_perform (i.run before).site.conditions op
              (run_internal rest before)).2
            have overridden := control.symm.trans overridden
            cases accepted : op.overrides (i.run before).site.conditions (i.run before).sensor with
            | true =>
                cases op with
                | write x => exact ⟨before, x, [], rfl, accepted, rfl⟩
                | feed x | setRaw x | countError | checkThresholds | markFunctional b
                | markAvailable b | clearOverride | release | setAvailable b | setTrigger slot x
                | setBounds min max | replaceThresholds ts | participate b | attach key
                | setHook hook => cases accepted
            | false =>
                rw [accepted, Bool.false_or, Bool.and_eq_true, Bool.not_eq_true'] at overridden
                exact go overridden.2 (Bool.or_eq_false_iff.2 ⟨accepted, overridden.1⟩)
  · rintro ⟨before, x, after, pinned⟩
    rw [pinned.run_eq]
    exact (pinned.spec rest).2.2.overridden

/-- **An override prevails on the bus.**  It is in force exactly if the last decision on it was an
accepted write, and the flag is down whenever no operation is under way.  From that write on, the
value that it wrote is the last one that is published, nothing else shows a value, and the
directory shows what the write left there, except under a key that the sensor is given anew. -/
theorem override_prevails (site : Site) (d : Definition) (i : Installation) (hs : List Happening)
    (made : make site d = .ok i) :
    (i.run hs).sensor.internal = false ∧
      ((i.run hs).sensor.overridden = true ↔ ∃ before x after, i.Pinned hs before x after) ∧
      ∀ before x after, i.Pinned hs before x after →
        (i.run hs).site.bus.values i.sensor.identity.path =
            (i.run before).site.bus.values i.sensor.identity.path ++ [x] ∧
          (∀ path, (i.run hs).site.bus.values path =
            ((i.run before).step (.perform (.write x))).site.bus.values path) ∧
          ∀ key, .perform (.attach key) ∉ after →
            (i.run hs).site.directory.lookup key =
              ((i.run before).step (.perform (.write x))).site.directory.lookup key := by
  obtain ⟨free, rest, -⟩ := (make_eq_ok made).1.start
  refine ⟨run_internal rest hs, overridden_iff_pinned rest free, ?_⟩
  intro before x after pinned
  obtain ⟨-, published, prevails⟩ := pinned.spec rest
  rw [pinned.run_eq]
  exact ⟨(prevails.values _).trans published, prevails.values, prevails.directory⟩

/-- Before the value of the sample is pinned: it is shown to the peers, read, and may be
written. -/
def pinnedSampleBefore : List Happening :=
  [.power ⟨true, false⟩, .perform (.attach "inlet"), .perform (.feed 96), .access ⟨true, false⟩]

/-- After it is pinned: a reading, a fault, an edit and a loss of power. -/
def pinnedSampleAfter : List Happening :=
  [.perform (.feed 80), .perform (.markFunctional false),
    .perform (.setTrigger ⟨.warning, .high⟩ 70), .power ⟨false, false⟩, .perform (.feed 81)]

theorem exists_pinnedSample : ∃ i, make .fresh sampleDefinition = .ok i ∧
    i.Pinned (pinnedSampleBefore ++ .perform (.write 75) :: pinnedSampleAfter)
      pinnedSampleBefore 75 pinnedSampleAfter := by
  have found : (make .fresh sampleDefinition).toOption.any (fun i =>
      (i.run pinnedSampleBefore).isOf Sensor.Op.overrides (.perform (.write 75)) &&
        !((i.run pinnedSampleBefore).step (.perform (.write 75))).sees Sensor.Op.decides
          pinnedSampleAfter) = true := by
    decide
  obtain ⟨i, made, found⟩ := exists_made found
  rw [Bool.and_eq_true, Bool.not_eq_true'] at found
  exact ⟨i, made, rfl, found.1, found.2⟩

theorem override_prevails_sample : ∃ i, make .fresh sampleDefinition = .ok i ∧
    let hs := pinnedSampleBefore ++ .perform (.write 75) :: pinnedSampleAfter
    (i.run hs).sensor.overridden = true ∧ (i.run hs).sensor.internal = false ∧
      (i.run hs).site.bus.values i.sensor.identity.path =
        (i.run pinnedSampleBefore).site.bus.values i.sensor.identity.path ++ [75] ∧
      (i.run hs).site.directory.lookup "inlet" =
        ((i.run pinnedSampleBefore).step
          (.perform (.write 75))).site.directory.lookup "inlet" := by
  obtain ⟨i, made, pinned⟩ := exists_pinnedSample
  obtain ⟨internal, overridden, prevails⟩ := override_prevails .fresh sampleDefinition i _ made
  obtain ⟨values, -, directory⟩ := prevails _ _ _ pinned
  exact ⟨i, made, overridden.2 ⟨_, _, _, pinned⟩, internal, values,
    directory "inlet" (by simp [pinnedSampleAfter])⟩

end Installation

end SensorMonitor
