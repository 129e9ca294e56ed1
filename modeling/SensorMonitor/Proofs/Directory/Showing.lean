/-
# Proofs.Directory.Showing -- what peers see of a sensor

An operation shows one value at most, and to the bus and the peers alike (`ShowsOne`,
`showsOne_perform`).  So from the moment at which a sensor is given a key, the entry under it
goes along with the values published at its path (`Shows`), even when the sensor itself has
forgotten its value: an edit and the end of an override show nothing.  What others do around it
makes no difference, as long as they leave the key and the path alone, and keys that the sensor
is not given are as if it were not there (`lookup_go`).
-/
import SensorMonitor.Proofs.Number.Same
import SensorMonitor.Proofs.Sensor.Override
import SensorMonitor.Proofs.Sensor.Reach

namespace SensorMonitor

set_option autoImplicit false

/-! ## Entries -/

namespace PeerEntry

/-- The entry after values were shown one after another. -/
def follow (entry : PeerEntry) (xs : List Float) : PeerEntry :=
  xs.foldl (fun entry x => update (some entry) x) entry

theorem sameValue_update (entry : Option PeerEntry) (x : Float) :
    sameValue (update entry x).value x = true := by
  simp only [update]
  split
  · exact sameValue_refl x
  · split
    · assumption
    · exact sameValue_refl x

/-- **The generation moves exactly when the value does.** -/
theorem generation_update (entry : PeerEntry) (x : Float) :
    (update (some entry) x).generation =
      if sameValue entry.value (update (some entry) x).value then entry.generation
      else entry.generation + 1 := by
  simp only [update]
  split
  · rw [if_pos (sameValue_refl entry.value)]
  · rfl

theorem follow_append (entry : PeerEntry) (xs ys : List Float) :
    entry.follow (xs ++ ys) = (entry.follow xs).follow ys :=
  List.foldl_append

/-- The entry has the value that was shown last, or else the one it had. -/
theorem sameValue_follow {entry : PeerEntry} {x : Float} (same : sameValue entry.value x = true)
    (xs : List Float) : sameValue (entry.follow xs).value (xs.getLastD x) = true := by
  rcases List.eq_nil_or_concat xs with rfl | ⟨before, last, rfl⟩
  · exact same
  · rw [List.concat_eq_append, List.getLastD_concat, follow_append]
    exact sameValue_update (some (entry.follow before)) last

end PeerEntry

/-! ## What an operation shows -/

namespace Sensor

/-- Nothing is shown of a value, or one value is, to the bus and to the peers alike. -/
inductive ShowsOne (s : Sensor) (effects : List Effect) : Prop where
  | nothing (mute : shown effects = [])
  | one (x : Float) (told : shown effects = (Act.store x s).2)

section Acts

variable {s s' : Sensor}

theorem Aside.showsOne {effects : List Effect} (aside : Aside s s' effects) : ShowsOne s effects :=
  .nothing aside.shown

/-- What is shown after the value was left aside, by a sensor at the same path and key. -/
theorem ShowsOne.after {first second : List Effect} (aside : Aside s s' first)
    (same : ∀ x, (Act.store x s').2 = (Act.store x s).2) (one : ShowsOne s' second) :
    ShowsOne s (first ++ second) := by
  cases one with
  | nothing mute => exact .nothing (by rw [shown_append, aside.shown, mute]; rfl)
  | one x told => exact .one x (by rw [shown_append, aside.shown, told, same]; rfl)

theorem showsOne_feed (power : PowerStatus) (x : Float) (rest : s.internal = false) :
    ShowsOne s (Act.feed power x s).2 := by
  cases free : s.overridden with
  | true =>
      rw [Act.feed_of_overridden x free]
      exact .nothing rfl
  | false =>
      cases readable : s.isReadable power with
      | false =>
          rw [Act.feed_of_unreadable x free rest readable]
          refine .after (Act.aside_noteAvailable s false) ?_ (.one Number.nan (Act.shown_store _ _))
          rw [Act.noteAvailable_fst]
          exact fun _ => rfl
      | true =>
          have told := Act.shown_feed_of_readable x free rest readable
          split at told
          · exact .one x told
          · exact .nothing told

/-- Losing the value, as far as an act asks for it. -/
theorem showsOne_lose (power : PowerStatus) (keep : Bool) (rest : s.internal = false) :
    ShowsOne s ((if keep then Act.skip else .feed power Number.nan) s).2 := by
  cases keep with
  | true => exact .nothing rfl
  | false => exact showsOne_feed power Number.nan rest

theorem showsOne_markFunctional (power : PowerStatus) (b : Bool) (rest : s.internal = false) :
    ShowsOne s (Act.markFunctional power b s).2 := by
  have noted := Act.aside_noteFunctional s b
  refine .after noted ?_ (showsOne_lose power b (noted.internal.trans rest))
  rw [Act.noteFunctional_fst]
  exact fun _ => rfl

theorem showsOne_countError (power : PowerStatus) (rest : s.internal = false) :
    ShowsOne s (Act.countError power s).2 := by
  cases readable : s.isReadable power with
  | true =>
      rw [Act.countError_of_readable readable]
      split
      · let counted : Sensor := { s with health := s.health.countError }
        have aside : Aside s counted [] := ⟨rfl, rfl, rfl, rfl⟩
        have told : ShowsOne s ([] ++ (Act.markFunctional power false counted).2) :=
          .after aside (fun _ => rfl) (showsOne_markFunctional power false rest)
        exact told
      · exact .nothing rfl
  | false =>
      rw [Act.countError_of_unreadable readable]
      exact (Act.aside_noteAvailable s false).showsOne

theorem showsOne_setAvailable (power : PowerStatus) (b : Bool) (rest : s.internal = false) :
    ShowsOne s (Act.setAvailable power b s).2 := by
  simp only [Act.setAvailable]
  split
  · exact .nothing rfl
  · have noted := Act.aside_noteAvailable s b
    refine .after noted ?_ (showsOne_lose power b (noted.internal.trans rest))
    rw [Act.noteAvailable_fst]
    exact fun _ => rfl

/-- **An operation shows one value at most**, and to the bus and the peers alike, unless it asks
for a key. -/
theorem showsOne_perform (c : Conditions) {op : Op} (rest : s.internal = false)
    (keeps : ∀ key, op ≠ .attach key) : ShowsOne s (s.perform c op).effects := by
  cases op with
  | feed x => exact showsOne_feed c.power x rest
  | countError => exact showsOne_countError c.power rest
  | checkThresholds => exact (Act.aside_checkThresholds s).showsOne
  | markFunctional b => exact showsOne_markFunctional c.power b rest
  | markAvailable b => exact (Act.aside_noteAvailable s b).showsOne
  | write x =>
      cases accepted : (Op.write x).overrides c s with
      | true => exact .one x (write_spec rest accepted).2.2.2
      | false =>
          rw [overrides_write] at accepted
          simp only [perform, write]
          rw [accepted]
          exact .nothing rfl
  | setAvailable b => exact showsOne_setAvailable c.power b rest
  | setTrigger slot x =>
      change ShowsOne s (s.setTrigger slot x).effects
      obtain ⟨failure, refused⟩ | ⟨thresholds, edited, accepted⟩ := setTrigger_cases slot x s
      · rw [refused]
        exact .nothing rfl
      · rw [accepted]
        exact .nothing rfl
  | setBounds min max => exact ((Act.aside_setMin s min).trans (Act.aside_setMax _ max)).showsOne
  | replaceThresholds ts =>
      change ShowsOne s (s.replaceThresholds ts).effects
      obtain ⟨failure, refused⟩ | same | ⟨abandoned, thresholds, adopted⟩ :=
        replaceThresholds_cases ts s
      · rw [refused]
        exact .nothing rfl
      · rw [same]
        exact .nothing rfl
      · rw [adopted]
        exact .nothing (Act.shown_adoptThresholds s abandoned thresholds)
  | attach key => exact absurd rfl (keeps key)
  | setRaw x | clearOverride | release | participate b | setHook hook => exact .nothing rfl

end Acts

/-- Entries depend on what is shown of values only. -/
theorem foldl_enter_shown (effects : List Effect) (key : String) (entry : Option PeerEntry) :
    (shown effects).foldl (Effect.enter key) entry = effects.foldl (Effect.enter key) entry := by
  rw [shown, List.foldl_filter]
  congr 1
  funext entry e
  split
  · rfl
  · next unshown =>
      cases e with
      | share other x | unlist other => exact absurd rfl unshown
      | announce event | keep configuration model t | tell hook x => rfl

/-- An effect of somebody else that neither enters anything under the key nor shows a value at the
path. -/
def Effect.spares (key path : String) : Effect → Bool
  | .announce event => (event.valueAt? path).isNone
  | .share other _ | .unlist other => other ≠ key
  | .keep _ _ _ | .tell _ _ => true

end Sensor

/-! ## A sensor among others -/

/-- What can happen where a sensor lives: something to the sensor itself, or an effect of somebody
else. -/
inductive Turn where
  | own (h : Happening)
  | others (effect : Sensor.Effect)

namespace Turn

/-- What somebody else does. -/
def foreign : Turn → List Sensor.Effect
  | .own _ => []
  | .others effect => [effect]

/-- The sensor is given no other key, and nobody else enters anything under this one or shows a
value at the path. -/
def spares (key path : String) : Turn → Bool
  | .own (.perform (.attach _)) => false
  | .own _ => true
  | .others effect => effect.spares key path

end Turn

namespace Installation

variable {i i' i'' : Installation} {key path : String}

/-- One turn, with its effects carried out. -/
def turn (i : Installation) : Turn → Installation
  | .own h => i.step h
  | .others effect => { i with site := i.site.absorb effect }

/-- One turn after another. -/
def go (i : Installation) (turns : List Turn) : Installation := turns.foldl turn i

theorem go_append (i : Installation) (turns turns' : List Turn) :
    i.go (turns ++ turns') = (i.go turns).go turns' :=
  List.foldl_append

/-! ### Other keys -/

/-- The sensor leaves the entry under a key that it is not given to others. -/
theorem lookup_turn {t : Turn} (foreign : i.sensor.key ≠ some key)
    (ungiven : t ≠ .own (.perform (.attach key))) :
    (i.turn t).sensor.key ≠ some key ∧ (i.turn t).site.directory.lookup key =
      t.foreign.foldl (Sensor.Effect.enter key) (i.site.directory.lookup key) := by
  cases t with
  | others effect => exact ⟨foreign, Site.lookup_absorb ..⟩
  | own h =>
      cases h with
      | power status | access access => exact ⟨foreign, rfl⟩
      | perform op =>
          by_cases keeps : ∀ other, op ≠ .attach other
          · have contained := Sensor.contained_perform i.site.conditions i.sensor keeps
            refine ⟨?_, Site.lookup_of_within i.site contained.within foreign⟩
            exact fun given => foreign (contained.key.symm.trans given)
          · simp only [not_forall, not_not] at keeps
            obtain ⟨other, rfl⟩ := keeps
            have apart : other ≠ key := by
              rintro rfl
              exact ungiven rfl
            refine ⟨fun given => apart (Option.some.inj given), ?_⟩
            exact (Directory.lookup_update ..).trans (if_neg apart)

/-- **A key that the sensor is not given stands as if the sensor were not there.** -/
theorem lookup_go {turns : List Turn} (foreign : i.sensor.key ≠ some key)
    (ungiven : .own (.perform (.attach key)) ∉ turns) :
    (i.go turns).sensor.key ≠ some key ∧ (i.go turns).site.directory.lookup key =
      (i.site.absorbAll (turns.flatMap Turn.foreign)).directory.lookup key := by
  rw [Site.lookup_absorbAll]
  induction turns generalizing i with
  | nil => exact ⟨foreign, rfl⟩
  | cons t turns ih =>
      rw [List.mem_cons, not_or] at ungiven
      obtain ⟨foreign', entry⟩ := lookup_turn foreign (Ne.symm ungiven.1)
      rw [List.flatMap_cons, List.foldl_append, ← entry]
      exact ih foreign' ungiven.2

/-! ### The key of the sensor -/

theorem go_control (rest : i.sensor.internal = false) (turns : List Turn) :
    (i.go turns).sensor.internal = false ∧ (i.go turns).sensor.identity = i.sensor.identity := by
  induction turns generalizing i with
  | nil => exact ⟨rest, rfl⟩
  | cons t turns ih =>
      cases t with
      | others effect => exact ih (i := i.turn (.others effect)) rest
      | own h =>
          obtain ⟨rest', same⟩ := ih (i := i.step h) (run_internal rest [h])
          exact ⟨rest', same.trans (i.run_identity [h])⟩

/-- The sensor is published at the path, and its value stands under the key. -/
structure Visible (i : Installation) (key path : String) : Prop where
  given : i.sensor.key = some key
  published : i.sensor.identity.path = path
  rest : i.sensor.internal = false
  entered : ∃ entry, i.site.directory.lookup key = some entry

/-- From one moment to the other these values were published at the path, and the entry under the
key went along with them. -/
structure Shows (key path : String) (i i' : Installation) (xs : List Float) : Prop where
  values : i'.site.bus.values path = i.site.bus.values path ++ xs
  entry : ∀ entry, i.site.directory.lookup key = some entry →
    i'.site.directory.lookup key = some (entry.follow xs)

namespace Shows

theorem nothing (values : i'.site.bus.values path = i.site.bus.values path)
    (entry : i'.site.directory.lookup key = i.site.directory.lookup key) :
    Shows key path i i' [] :=
  ⟨values.trans (List.append_nil _).symm, fun _ there => entry.trans there⟩

theorem trans {xs ys : List Float} (first : Shows key path i i' xs)
    (second : Shows key path i' i'' ys) : Shows key path i i'' (xs ++ ys) := by
  refine ⟨?_, fun entry there => ?_⟩
  · rw [second.values, first.values, List.append_assoc]
  · rw [second.entry _ (first.entry entry there), PeerEntry.follow_append]

end Shows

/-- Nothing is shown by somebody else who spares the key and the path. -/
theorem shows_others (i : Installation) {effect : Sensor.Effect}
    (spares : effect.spares key path = true) :
    Shows key path i (i.turn (.others effect)) [] := by
  refine .nothing ?_ ((Site.lookup_absorb ..).trans ?_)
  · change (i.site.absorb effect).bus.values path = _
    cases effect with
    | announce event =>
        have silent : event.valueAt? path = none := Option.isNone_iff_eq_none.1 spares
        rw [Bus.values_eq, Bus.values_eq]
        simp [Site.absorb, Bus.announce, silent]
    | keep configuration model t =>
        exact congrArg (Bus.values · path) (i.site.log_keep configuration model t)
    | share other x | unlist other | tell hook x => rfl
  · cases effect with
    | share other x | unlist other => exact if_neg (of_decide_eq_true spares)
    | announce event | keep configuration model t | tell hook x => rfl

/-- An operation shows at the path what it enters under the key. -/
theorem Visible.shows_perform (visible : i.Visible key path) {op : Sensor.Op}
    (keeps : ∀ other, op ≠ .attach other) :
    ∃ x : Option Float, Shows key path i (i.step (.perform op)) x.toList := by
  let effects := (i.sensor.perform i.site.conditions op).effects
  have values : (i.step (.perform op)).site.bus.values path = i.site.bus.values path ++
      (Sensor.announced (Sensor.shown effects)).filterMap (Event.valueAt? path) :=
    i.site.values_absorbAll effects path
  have entry : (i.step (.perform op)).site.directory.lookup key =
      (Sensor.shown effects).foldl (Sensor.Effect.enter key) (i.site.directory.lookup key) := by
    rw [Sensor.foldl_enter_shown]
    exact i.site.lookup_absorbAll effects key
  cases Sensor.showsOne_perform i.site.conditions visible.rest keeps with
  | nothing mute =>
      change Sensor.shown effects = [] at mute
      rw [mute] at values entry
      exact ⟨none, values, fun _ there => entry.trans there⟩
  | one x told =>
      change Sensor.shown effects = _ at told
      have store : (Sensor.Act.store x i.sensor).2 =
          [.announce (.changed path (.value x)), .share key x] := by
        simp only [Sensor.Act.store, Sensor.Act.change, Sensor.Act.publish, Sensor.Act.share,
          Sensor.Act.andThen, visible.given, visible.published]
        rfl
      rw [told, store] at values entry
      refine ⟨some x, values.trans ?_, fun _ there => entry.trans ?_⟩
      · simp [Sensor.announced, Sensor.Effect.event?, Event.valueAt?]
      · simp [Sensor.Effect.enter, there, PeerEntry.follow]

/-- **A turn shows one value at most, at the path and under the key alike.** -/
theorem Visible.turn (visible : i.Visible key path) {t : Turn} (spares : t.spares key path = true) :
    (i.turn t).Visible key path ∧ ∃ x : Option Float, Shows key path i (i.turn t) x.toList := by
  have still : ∀ xs : List Float, (i.turn t).sensor.key = some key →
      Shows key path i (i.turn t) xs → (i.turn t).Visible key path := by
    intro xs given shows
    obtain ⟨rest, identity⟩ := go_control visible.rest [t]
    obtain ⟨entry, there⟩ := visible.entered
    exact ⟨given, (congrArg Identity.path identity).trans visible.published, rest,
      _, shows.entry entry there⟩
  cases t with
  | others effect =>
      have shows := i.shows_others spares
      exact ⟨still [] visible.given shows, none, shows⟩
  | own h =>
      cases h with
      | power status | access access =>
          exact ⟨still [] visible.given (.nothing rfl rfl), none, .nothing rfl rfl⟩
      | perform op =>
          have keeps : ∀ other, op ≠ .attach other := by
            rintro other rfl
            cases spares
          obtain ⟨x, shows⟩ := visible.shows_perform keeps
          have contained := Sensor.contained_perform i.site.conditions i.sensor keeps
          exact ⟨still _ (contained.key.trans visible.given) shows, x, shows⟩

theorem Visible.go (visible : i.Visible key path) {turns : List Turn}
    (spares : ∀ t ∈ turns, t.spares key path = true) :
    (i.go turns).Visible key path ∧ ∃ xs, Shows key path i (i.go turns) xs := by
  induction turns generalizing i with
  | nil => exact ⟨visible, [], .nothing rfl rfl⟩
  | cons t turns ih =>
      obtain ⟨first, later⟩ := List.forall_mem_cons.1 spares
      obtain ⟨visible', x, shows⟩ := visible.turn first
      obtain ⟨visible'', xs, further⟩ := ih visible' later
      exact ⟨visible'', x.toList ++ xs, shows.trans further⟩

/-- What peers find of a sensor under a key, and what others find under theirs, some turns after
it was given the key. -/
structure Found (attached now : Installation) (key path : String) : Prop where
  /-- The value that was published last since then, or else the one that the sensor had. -/
  current : ∃ entry published, now.site.directory.lookup key = some entry ∧
    now.site.bus.values path = attached.site.bus.values path ++ published ∧
    sameValue entry.value (published.getLastD attached.sensor.value) = true
  /-- The next turn moves the generation, by one, exactly if it changes the value. -/
  dated : ∀ t : Turn, t.spares key path = true → ∃ old new,
    now.site.directory.lookup key = some old ∧ (now.turn t).site.directory.lookup key = some new ∧
    new.generation =
      if sameValue old.value new.value then old.generation else old.generation + 1
  /-- The end of the sensor is the end of the entry. -/
  dropped : (now.site.retire now.sensor).directory.lookup key = none

theorem Visible.dated (visible : i.Visible key path) {t : Turn} (spares : t.spares key path = true) :
    ∃ old new, i.site.directory.lookup key = some old ∧
      (i.turn t).site.directory.lookup key = some new ∧ new.generation =
        if sameValue old.value new.value then old.generation else old.generation + 1 := by
  obtain ⟨old, there⟩ := visible.entered
  obtain ⟨-, x, shows⟩ := visible.turn spares
  refine ⟨old, _, there, shows.entry old there, ?_⟩
  cases x with
  | none => exact (if_pos (sameValue_refl old.value)).symm
  | some x => exact old.generation_update x

/-- **Peers see what the bus sees.**  A sensor may be given a key at any point of a run.  As long
as it is not given another one and nobody else enters anything under this one or publishes values
at its path, the entry has the value that was published last since then, its generation moves
exactly when the value does, and it is gone with the sensor.  Under a key that the sensor is never
given, everything is as if it were not there. -/
theorem peers_see_published_value (site : Site) (d : Definition) (i : Installation)
    (before after : List Turn) (key : String) (made : make site d = .ok i)
    (spared : ∀ t ∈ after, t.spares key i.sensor.identity.path = true) :
    let attached := i.go (before ++ [.own (.perform (.attach key))])
    let now := attached.go after
    let turns := before ++ .own (.perform (.attach key)) :: after
    Found attached now key i.sensor.identity.path ∧
      ∀ other, .own (.perform (.attach other)) ∉ turns →
        let absent := i.site.absorbAll (turns.flatMap Turn.foreign)
        now.site.directory.lookup other = absent.directory.lookup other ∧
          (now.site.retire now.sensor).directory.lookup other = absent.directory.lookup other := by
  intro attached now turns
  have defined := (make_eq_ok made).1
  obtain ⟨-, rest, -⟩ := defined.start
  obtain ⟨quantity, thresholds, described⟩ := defined.described
  obtain ⟨rest', identity⟩ := go_control rest before
  have attached_eq : attached = (i.go before).step (.perform (.attach key)) := go_append ..
  have entered : attached.site.directory.lookup key = some (PeerEntry.update
      ((i.go before).site.directory.lookup key) attached.sensor.value) := by
    rw [attached_eq]
    exact (Directory.lookup_update ..).trans (if_pos rfl)
  have visible : attached.Visible key i.sensor.identity.path := by
    refine ⟨?_, ?_, ?_, _, entered⟩ <;> rw [attached_eq]
    · rfl
    · exact congrArg Identity.path identity
    · exact rest'
  obtain ⟨visible', published, shows⟩ := visible.go spared
  refine ⟨⟨?_, fun t spares => visible'.dated spares, ?_⟩, ?_⟩
  · refine ⟨_, published, shows.entry _ entered, shows.values, ?_⟩
    exact PeerEntry.sameValue_follow (PeerEntry.sameValue_update _ _) published
  · rw [Site.lookup_retire, if_pos visible'.given]
  · intro other ungiven absent
    have unkeyed : i.sensor.key ≠ some other := by
      rw [described.key]
      exact Option.some_ne_none other |>.symm
    have now_eq : now = i.go turns := by
      simp only [now, attached, turns, ← go_append, List.append_assoc, List.singleton_append]
    obtain ⟨foreign, same⟩ := lookup_go unkeyed ungiven
    rw [now_eq]
    exact ⟨same, by rw [Site.lookup_retire, if_neg foreign, same]⟩

/-- A reading before the sensor is given its key, beside a peer. -/
def peerSampleBefore : List Turn :=
  [.own (.power ⟨true, false⟩), .own (.perform (.feed 40)), .others (.share "fan" 3)]

/-- A reading and a write that are published, and then the end of the override and of the power. -/
def peerSampleAfter : List Turn :=
  [.own (.perform (.feed 50)), .others (.share "fan" 4), .own (.access ⟨true, false⟩),
    .own (.perform (.write 75)), .own (.perform .clearOverride), .own (.power .off)]

/-- The sensor has forgotten the value that its peers still see. -/
theorem peers_see_published_value_sample : ∃ i, make .fresh editedDefinition = .ok i ∧
    (∀ t ∈ peerSampleAfter, t.spares "inlet" i.sensor.identity.path = true) ∧
      let attached := i.go (peerSampleBefore ++ [.own (.perform (.attach "inlet"))])
      let now := attached.go peerSampleAfter
      now.sensor.value.isNaN = true ∧
        now.site.directory.lookup "inlet" = some ⟨75, 2⟩ ∧
        Found attached now "inlet" i.sensor.identity.path ∧
        (now.site.retire now.sensor).directory.lookup "fan" = some ⟨4, 1⟩ := by
  have found : (make .fresh editedDefinition).toOption.any (fun i =>
      let attached := i.go (peerSampleBefore ++ [.own (.perform (.attach "inlet"))])
      let now := attached.go peerSampleAfter
      peerSampleAfter.all (·.spares "inlet" i.sensor.identity.path) && now.sensor.value.isNaN &&
        now.site.directory.lookup "inlet" == some ⟨75, 2⟩ &&
        i.site.directory.lookup "fan" == none) = true := by
    decide +kernel
  obtain ⟨i, made, found⟩ := exists_made found
  simp only [Bool.and_eq_true, List.all_eq_true, beq_iff_eq] at found
  obtain ⟨⟨⟨spared, forgotten⟩, entry⟩, unlisted⟩ := found
  obtain ⟨seen, apart⟩ := peers_see_published_value .fresh editedDefinition i peerSampleBefore
    peerSampleAfter "inlet" made spared
  obtain ⟨-, fan⟩ := apart "fan" (by simp [peerSampleBefore, peerSampleAfter])
  rw [Site.lookup_absorbAll, unlisted] at fan
  exact ⟨i, made, spared, forgotten, entry, seen, fan⟩

end Installation

end SensorMonitor
