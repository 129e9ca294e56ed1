/-
# Proofs.Roster.Standing -- sensors in places, and the marks that they leave

Sensors have places, whatever these are: configuration paths, or those and one more for a
sensor that is on its way out.  Each leaves marks at the site: its object path is registered
on the bus, and its key, if it has one, is listed in the directory.  The marks are those of
the sensors and no others, each of one sensor (`Covers`).  This is kept when a sensor ends
(`ends`), when one starts (`starts`), when one lives on (`lives`) and when one is moved to
another place (`moves`), for the bus (`Standing`) and for the directory (`Listed`).
-/
import Mathlib.Logic.Function.Basic
import SensorMonitor.Proofs.Roster.Lifetimes
import SensorMonitor.Proofs.Sensor.Reach

namespace SensorMonitor

set_option autoImplicit false

open Function (update)

/-! ## Marks -/

section Marks

variable {ι : Type}

/-- What is marked are the marks of the places, each left by one place. -/
structure Covers (marked : String → Bool) (mark? : ι → Option String) : Prop where
  marked_iff : ∀ m, marked m = true ↔ ∃ i, mark? i = some m
  once : ∀ i j m, mark? i = some m → mark? j = some m → i = j

namespace Covers

variable {marked marked' : String → Bool} {mark? : ι → Option String} {i j : ι}

theorem congr (covers : Covers marked mark?) (same : ∀ m, marked' m = marked m) :
    Covers marked' mark? :=
  ⟨fun m => by rw [same]; exact covers.marked_iff m, covers.once⟩

/-- Where nobody is, nothing is marked. -/
theorem of_nobody (unmarked : ∀ m, marked m = false) (nobody : ∀ i, mark? i = none) :
    Covers marked mark? := by
  refine ⟨fun m => ?_, fun i j m left => ?_⟩
  · rw [unmarked]
    simp [nobody]
  · rw [nobody] at left
    cases left

variable [DecidableEq ι]

/-- A place is emptied, and its mark is gone. -/
theorem clear (covers : Covers marked mark?)
    (cleared : ∀ m, marked' m = (!decide (mark? i = some m) && marked m)) :
    Covers marked' (update mark? i none) := by
  refine ⟨fun m => ?_, fun j k m left left' => ?_⟩
  · rw [cleared, Bool.and_eq_true, Bool.not_eq_true', decide_eq_false_iff_not, covers.marked_iff]
    constructor
    · rintro ⟨gone, j, left⟩
      refine ⟨j, ?_⟩
      rwa [Function.update_of_ne]
      rintro rfl
      exact gone left
    · rintro ⟨j, left⟩
      by_cases here : j = i
      · subst here
        simp at left
      · rw [Function.update_of_ne here] at left
        exact ⟨fun same => here (covers.once j i m left same), j, left⟩
  · by_cases here : j = i
    · subst here
      simp at left
    · by_cases here' : k = i
      · subst here'
        simp at left'
      · rw [Function.update_of_ne here] at left
        rw [Function.update_of_ne here'] at left'
        exact covers.once j k m left left'

/-- An empty place is filled, and its mark is new. -/
theorem set (covers : Covers marked mark?) (empty : mark? i = none) {mark : Option String}
    (free : ∀ m, mark = some m → marked m = false)
    (added : ∀ m, marked' m = (decide (mark = some m) || marked m)) :
    Covers marked' (update mark? i mark) := by
  -- nobody else leaves the new mark
  have apart : ∀ j m, j ≠ i → mark? j = some m → mark ≠ some m := by
    intro j m _ left same
    have taken := (covers.marked_iff m).2 ⟨j, left⟩
    rw [free m same] at taken
    cases taken
  refine ⟨fun m => ?_, fun j k m left left' => ?_⟩
  · rw [added, Bool.or_eq_true, decide_eq_true_eq, covers.marked_iff]
    constructor
    · rintro (here | ⟨j, left⟩)
      · exact ⟨i, by rw [Function.update_self, here]⟩
      · refine ⟨j, ?_⟩
        rwa [Function.update_of_ne]
        rintro rfl
        rw [empty] at left
        cases left
    · rintro ⟨j, left⟩
      by_cases here : j = i
      · subst here
        rw [Function.update_self] at left
        exact Or.inl left
      · rw [Function.update_of_ne here] at left
        exact Or.inr ⟨j, left⟩
  · by_cases here : j = i <;> by_cases here' : k = i
    · rw [here, here']
    · subst here
      rw [Function.update_self] at left
      rw [Function.update_of_ne here'] at left'
      exact absurd left (apart k m here' left')
    · subst here'
      rw [Function.update_self] at left'
      rw [Function.update_of_ne here] at left
      exact absurd left' (apart j m here left)
    · rw [Function.update_of_ne here] at left
      rw [Function.update_of_ne here'] at left'
      exact covers.once j k m left left'

/-- A mark is moved to an empty place. -/
theorem move (covers : Covers marked mark?) (empty : mark? j = none) :
    Covers marked (update (update mark? i none) j (mark? i)) := by
  have cleared : Covers (fun m => !decide (mark? i = some m) && marked m) (update mark? i none) :=
    covers.clear fun _ => rfl
  refine cleared.set ?_ ?_ ?_
  · by_cases here : j = i
    · rw [here, Function.update_self]
    · rw [Function.update_of_ne here, empty]
  · intro m here
    simp [here]
  · intro m
    by_cases here : mark? i = some m
    · simp [here, (covers.marked_iff m).2 ⟨i, here⟩]
    · simp [here]

end Covers

end Marks

/-! ## The bus -/

section Bus

variable {ι : Type}

/-- The object paths of the sensors in their places. -/
def pathOf (sensor? : ι → Option Sensor) (i : ι) : Option String :=
  (sensor? i).map (·.identity.path)

theorem pathOf_eq_some_iff {sensor? : ι → Option Sensor} {i : ι} {path : String} :
    pathOf sensor? i = some path ↔ ∃ s, sensor? i = some s ∧ s.identity.path = path :=
  Option.map_eq_some_iff

/-- All sensors in their places are registered; the registered paths are theirs, and at every path
there are lifetimes. -/
structure Standing (bus : Bus) (sensor? : ι → Option Sensor) : Prop where
  covers : Covers bus.isRegistered (pathOf sensor?)
  bracketed : bus.WellBracketed
  known : ∀ i s, sensor? i = some s → s.registered = true

namespace Standing

variable {site : Site} {sensor? : ι → Option Sensor} {i j : ι} {s s' : Sensor}

theorem of_nobody (nobody : ∀ i, sensor? i = none) : Standing Bus.empty sensor? := by
  refine ⟨.of_nobody (fun _ => rfl) fun i => ?_, Bus.wellBracketed_empty, fun i s there => ?_⟩
  · rw [pathOf, nobody]
    rfl
  · cases (nobody i).symm.trans there

theorem registered (standing : Standing site.bus sensor?) (there : sensor? i = some s) :
    site.bus.isRegistered s.identity.path = true :=
  (standing.covers.marked_iff _).2 ⟨i, pathOf_eq_some_iff.2 ⟨s, there, rfl⟩⟩

variable [DecidableEq ι]

theorem pathOf_update (sensor? : ι → Option Sensor) (i : ι) (new : Option Sensor) :
    pathOf (update sensor? i new) = update (pathOf sensor?) i (new.map (·.identity.path)) :=
  funext fun j => Function.apply_update
    (fun _ => Option.map fun s : Sensor => s.identity.path) sensor? i new j

/-- All are registered if whoever comes to a place is. -/
theorem known_update (standing : Standing site.bus sensor?) {new : Option Sensor}
    (here : ∀ s, new = some s → s.registered = true) (j : ι) (s : Sensor)
    (there : update sensor? i new j = some s) : s.registered = true := by
  by_cases same : j = i
  · subst same
    rw [Function.update_self] at there
    exact here s there
  · rw [Function.update_of_ne same] at there
    exact standing.known j s there

theorem known_clear (standing : Standing site.bus sensor?) (j : ι) (s : Sensor)
    (there : update sensor? i none j = some s) : s.registered = true :=
  standing.known_update (by rintro _ ⟨⟩) j s there

/-- A sensor ends. -/
theorem ends (standing : Standing site.bus sensor?) (there : sensor? i = some s) :
    Standing (site.retire s).bus (update sensor? i none) := by
  have known := standing.known i s there
  refine ⟨?_, ?_, standing.known_clear⟩
  · rw [pathOf_update]
    refine standing.covers.clear fun m => ?_
    rw [pathOf, there, Site.isRegistered_retire _ known]
    simp
  · rw [Site.retire, Site.bus_absorbAll, Sensor.announced_retire known]
    exact standing.bracketed.announce (standing.registered there)

/-- A sensor starts, at a path that is free. -/
theorem starts (standing : Standing site.bus sensor?) (absent : sensor? i = none)
    (free : site.bus.isRegistered s.identity.path = false) (known : s.registered = true) :
    Standing (site.absorbAll s.debut).bus (update sensor? i (some s)) := by
  refine ⟨?_, ?_, standing.known_update (by rintro _ ⟨⟩; exact known)⟩
  · rw [pathOf_update]
    refine standing.covers.set ?_ ?_ ?_
    · rw [pathOf, absent]
      rfl
    · rintro _ ⟨⟩
      exact free
    · intro m
      rw [Site.isRegistered_debut]
      simp
  · rw [Site.bus_absorbAll, Sensor.announced_debut]
    exact standing.bracketed.announce free

theorem isRegistered_changes (bus : Bus) (path : String) (ps : List Property) (at_ : String) :
    ((ps.map (.changed path)).foldl Bus.announce bus).isRegistered at_ = bus.isRegistered at_ := by
  induction ps generalizing bus with
  | nil => rfl
  | cons p rest ih =>
      rw [List.map_cons, List.foldl_cons, ih, Bus.isRegistered_announce]
      rfl

/-- A sensor lives on at its path. -/
theorem lives (standing : Standing site.bus sensor?) (there : sensor? i = some s)
    {effects : List Sensor.Effect} (identity : s'.identity = s.identity)
    (known : s'.registered = s.registered) {ps : List Property}
    (told : Sensor.announced effects = ps.map (.changed s.identity.path)) :
    Standing (site.absorbAll effects).bus (update sensor? i (some s')) := by
  rw [Site.bus_absorbAll, told]
  refine ⟨?_, standing.bracketed.announceChanges (standing.registered there) ps,
    standing.known_update ?_⟩
  · have here : pathOf sensor? i = some s'.identity.path := by rw [pathOf, there, identity]; rfl
    rw [pathOf_update, Option.map_some, ← here, Function.update_eq_self]
    exact standing.covers.congr (isRegistered_changes _ _ ps)
  · rintro _ ⟨⟩
    exact known.trans (standing.known i s there)

/-- A sensor is moved to another place. -/
theorem moves (standing : Standing site.bus sensor?) (absent : sensor? j = none) :
    Standing site.bus (update (update sensor? i none) j (sensor? i)) := by
  refine ⟨?_, standing.bracketed, fun k s there => ?_⟩
  · rw [pathOf_update, pathOf_update]
    exact standing.covers.move (by rw [pathOf, absent]; rfl)
  · by_cases here : k = j
    · subst here
      rw [Function.update_self] at there
      exact standing.known i s there
    · rw [Function.update_of_ne here] at there
      exact standing.known_clear k s there

end Standing

end Bus

/-! ## The directory -/

namespace Site

theorem lookup_debut (site : Site) (s : Sensor) (key : String) :
    (site.absorbAll s.debut).directory.lookup key =
      if s.key = some key then some (PeerEntry.update (site.directory.lookup key) s.value)
      else site.directory.lookup key := by
  simp only [Sensor.debut]
  cases s.key with
  | none => rfl
  | some key' =>
      simp only [Option.some.injEq]
      refine (Directory.lookup_update site.directory key' key s.value).trans ?_
      split
      · next same => rw [same]
      · rfl

/-- Effects within reach of a sensor whose key is listed list no key and drop none. -/
theorem isSome_lookup_within (site : Site) {s : Sensor} {effects : List Sensor.Effect}
    (within : ∀ e ∈ effects, e.Within s)
    (listed : ∀ key, s.key = some key → (site.directory.lookup key).isSome = true) (key : String) :
    ((site.absorbAll effects).directory.lookup key).isSome =
      (site.directory.lookup key).isSome := by
  induction effects generalizing site with
  | nil => rfl
  | cons effect rest ih =>
      obtain ⟨here, later⟩ := List.forall_mem_cons.1 within
      have first : ∀ key, ((site.absorb effect).directory.lookup key).isSome =
          (site.directory.lookup key).isSome := by
        intro key
        rw [lookup_absorb]
        by_cases own : s.key = some key
        · cases effect with
          | share key' x =>
              simp only [Sensor.Effect.enter]
              split
              · exact (listed key own).symm
              · rfl
          | unlist key' => exact here.elim
          | announce event | keep configuration model t | tell hook x => rfl
        · rw [here.enter own]
      have further : site.absorbAll (effect :: rest) = (site.absorb effect).absorbAll rest := rfl
      rw [further, ih (site.absorb effect) later fun key there => (first key).trans (listed key there),
        first]

end Site

section Directory

variable {ι : Type}

/-- The keys of the sensors in their places. -/
def keyOf (sensor? : ι → Option Sensor) (i : ι) : Option String := (sensor? i).bind (·.key)

/-- The listed keys are those of the sensors. -/
abbrev Listed (directory : Directory) (sensor? : ι → Option Sensor) : Prop :=
  Covers (fun key => (directory.lookup key).isSome) (keyOf sensor?)

namespace Listed

variable {site : Site} {sensor? : ι → Option Sensor} {i : ι} {s s' : Sensor}

theorem of_nobody (nobody : ∀ i, sensor? i = none) : Listed Directory.empty sensor? := by
  refine Covers.of_nobody (fun key => ?_) fun i => ?_
  · simp [Directory.lookup, Directory.empty]
  · rw [keyOf, nobody]
    rfl

variable [DecidableEq ι]

theorem keyOf_update (sensor? : ι → Option Sensor) (i : ι) (new : Option Sensor) :
    keyOf (update sensor? i new) = update (keyOf sensor?) i (new.bind (·.key)) :=
  funext fun j => Function.apply_update (fun _ (s : Option Sensor) => s.bind (·.key)) sensor? i new j

theorem ends (listed : Listed site.directory sensor?) (there : sensor? i = some s) :
    Listed (site.retire s).directory (update sensor? i none) := by
  rw [Listed, keyOf_update]
  refine Covers.clear listed fun key => ?_
  rw [keyOf, there, Site.lookup_retire, Option.bind_some]
  by_cases here : s.key = some key <;> simp [here]

theorem starts (listed : Listed site.directory sensor?) (absent : sensor? i = none)
    (free : ∀ key, s.key = some key → site.directory.lookup key = none) :
    Listed (site.absorbAll s.debut).directory (update sensor? i (some s)) := by
  rw [Listed, keyOf_update]
  refine Covers.set listed ?_ ?_ ?_
  · rw [keyOf, absent]
    rfl
  · intro key here
    rw [free key here]
    rfl
  · intro key
    rw [Site.lookup_debut, Option.bind_some]
    by_cases here : s.key = some key <;> simp [here]

theorem lives (listed : Listed site.directory sensor?) (there : sensor? i = some s)
    {effects : List Sensor.Effect} (contained : Sensor.Contained s s' effects) :
    Listed (site.absorbAll effects).directory (update sensor? i (some s')) := by
  have here : keyOf sensor? i = s'.key := by rw [keyOf, there, contained.key]; rfl
  rw [Listed, keyOf_update, Option.bind_some, ← here, Function.update_eq_self]
  refine Covers.congr listed (site.isSome_lookup_within contained.within fun key same => ?_)
  exact (Covers.marked_iff listed key).2 ⟨i, by rw [here, contained.key, same]⟩

end Listed

end Directory

end SensorMonitor
