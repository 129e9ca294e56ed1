/-
# Proofs.Sensor.Reach -- what an operation can touch around its sensor

An act stays within reach of its sensor: the events that it announces are changes at the
sensor's own path, the values that it shares stand under the sensor's own key, and it
changes neither the identity nor the key, nor whether the sensor is registered (`Contained`).
This is a law of acts, so every operation but the one that asks for another key stays within
reach (`contained_perform`): whoever looks at another path of the bus, or at another key of
the directory, sees nothing of it.  What stands under a key of the directory depends on what stood there and on the
effects that enter something under this key (`Site.lookup_absorbAll`).
-/
import SensorMonitor.Proofs.Sensor.Installation
import SensorMonitor.Proofs.Sensor.Laws

namespace SensorMonitor

set_option autoImplicit false

namespace Sensor

/-- The effect reaches no further than the sensor's own path and key. -/
def Effect.Within (s : Sensor) : Effect → Prop
  | .announce event => ∃ property, event = .changed s.identity.path property
  | .share key _ => s.key = some key
  | .unlist _ => False
  | .keep _ _ _ => True
  | .tell _ _ => True

/-- A sensor afterwards and effects that stay within reach of the sensor before. -/
structure Contained (s s' : Sensor) (effects : List Effect) : Prop where
  identity : s'.identity = s.identity
  registered : s'.registered = s.registered
  key : s'.key = s.key
  within : ∀ e ∈ effects, e.Within s

theorem Effect.within_congr {s s' : Sensor} (identity : s'.identity = s.identity)
    (key : s'.key = s.key) (e : Effect) : e.Within s' ↔ e.Within s := by
  cases e with
  | announce event =>
      simp only [Effect.Within]
      rw [identity]
  | share key' x =>
      simp only [Effect.Within]
      rw [key]
  | unlist key' | keep configuration model t | tell hook x => exact Iff.rfl

namespace Contained

variable {s s' s'' : Sensor} {effects effects' : List Effect}

theorem silent (identity : s'.identity = s.identity) (registered : s'.registered = s.registered)
    (key : s'.key = s.key) : Contained s s' [] :=
  ⟨identity, registered, key, List.forall_mem_nil _⟩

theorem refl (s : Sensor) : Contained s s [] := silent rfl rfl rfl

theorem trans (first : Contained s s' effects) (second : Contained s' s'' effects') :
    Contained s s'' (effects ++ effects') := by
  refine ⟨second.identity.trans first.identity, second.registered.trans first.registered,
    second.key.trans first.key, ?_⟩
  intro e member
  rcases List.mem_append.1 member with early | late
  · exact first.within e early
  · exact (e.within_congr first.identity first.key).1 (second.within e late)

/-- What is announced are changes at the sensor's own path. -/
theorem announced (contained : Contained s s' effects) :
    ∃ ps : List Property, Sensor.announced effects = ps.map (.changed s.identity.path) := by
  have within := contained.within
  clear contained
  induction effects with
  | nil => exact ⟨[], rfl⟩
  | cons e rest ih =>
      obtain ⟨here, later⟩ := List.forall_mem_cons.1 within
      obtain ⟨ps, told⟩ := ih later
      cases e with
      | announce event =>
          obtain ⟨property, rfl⟩ := here
          exact ⟨property :: ps, congrArg (List.cons _) told⟩
      | share key x | unlist key | keep configuration model t | tell hook x => exact ⟨ps, told⟩

end Contained

/-! ## Operations -/

theorem law_contained : Law Contained where
  trans := .trans
  move wiring := .silent wiring.identity wiring.registered wiring.key
  evaluate _ _ := .silent rfl rfl rfl
  announce s p := ⟨rfl, rfl, rfl, by simp [Effect.Within]⟩
  share x key := ⟨rfl, rfl, rfl, by simpa [Effect.Within] using key⟩
  rewire _ _ := .silent rfl rfl rfl
  tell s hook x := ⟨rfl, rfl, rfl, by simp [Effect.Within]⟩

theorem contained_editThreshold (thresholds : Thresholds) (edited : Threshold) (s : Sensor) :
    Contained s (Act.editThreshold thresholds edited s).1
      (Act.editThreshold thresholds edited s).2 :=
  ⟨rfl, rfl, rfl, by simp [Act.editThreshold, Act.publish, Act.forget, Act.change, Effect.Within]⟩

/-- **Every operation stays within reach**, unless it asks for a key. -/
theorem contained_perform (c : Conditions) {op : Op} (s : Sensor)
    (keeps : ∀ key, op ≠ .attach key) :
    Contained s (s.perform c op).sensor (s.perform c op).effects := by
  by_cases plain : op.isPlain = true
  · exact law_contained.perform c plain s
  · cases op with
    | setTrigger slot x =>
        simp only [perform, setTrigger]
        split
        · exact .refl s
        · exact contained_editThreshold _ _ s
    | replaceThresholds ts =>
        simp only [perform, replaceThresholds]
        split
        · exact .refl s
        · split
          · exact .refl s
          · exact law_contained.readings.adoptThresholds _ _ (.silent rfl rfl rfl)
    | attach key => exact absurd rfl (keeps key)
    | _ => exact absurd rfl plain

/-- No operation registers a sensor or frees its path. -/
theorem registered_perform (c : Conditions) (op : Op) (s : Sensor) :
    (s.perform c op).sensor.registered = s.registered := by
  by_cases keeps : ∀ key, op ≠ .attach key
  · exact (contained_perform c s keeps).registered
  · simp only [not_forall, not_not] at keeps
    obtain ⟨key, rfl⟩ := keeps
    rfl

/-- Whatever the operation, what it announces are changes at the sensor's path. -/
theorem told_perform (c : Conditions) (op : Op) (s : Sensor) :
    ∃ ps : List Property,
      announced (s.perform c op).effects = ps.map (.changed s.identity.path) := by
  by_cases keeps : ∀ key, op ≠ .attach key
  · exact (contained_perform c s keeps).announced
  · simp only [not_forall, not_not] at keeps
    obtain ⟨key, rfl⟩ := keeps
    exact ⟨[], rfl⟩

/-! ## Entries of the directory -/

/-- What an effect makes of the entry under a key. -/
def Effect.enter (key : String) (entry : Option PeerEntry) : Effect → Option PeerEntry
  | .share other x => if other = key then some (PeerEntry.update entry x) else entry
  | .unlist other => if other = key then none else entry
  | .announce _ | .keep _ _ _ | .tell _ _ => entry

theorem Effect.Within.enter {s : Sensor} {e : Effect} (within : e.Within s) {key : String}
    (foreign : s.key ≠ some key) (entry : Option PeerEntry) : e.enter key entry = entry := by
  cases e with
  | share other x =>
      refine if_neg ?_
      rintro rfl
      exact foreign within
  | unlist other => exact within.elim
  | announce event | keep configuration model t | tell hook x => rfl

end Sensor

namespace Site

theorem lookup_absorb (site : Site) (e : Sensor.Effect) (key : String) :
    (site.absorb e).directory.lookup key = e.enter key (site.directory.lookup key) := by
  cases e with
  | share other x =>
      refine (Directory.lookup_update site.directory other key x).trans ?_
      simp only [Sensor.Effect.enter]
      split
      · next same => rw [same]
      · rfl
  | unlist other => exact Directory.lookup_remove ..
  | keep configuration model t =>
      simp only [absorb, keep]
      cases site.store <;> rfl
  | announce event | tell hook x => rfl

theorem lookup_absorbAll (site : Site) (effects : List Sensor.Effect) (key : String) :
    (site.absorbAll effects).directory.lookup key =
      effects.foldl (Sensor.Effect.enter key) (site.directory.lookup key) := by
  induction effects generalizing site with
  | nil => rfl
  | cons e rest ih =>
      rw [List.foldl_cons, ← lookup_absorb]
      exact ih (site.absorb e)

/-- Effects within reach of a sensor leave the entries under other keys alone. -/
theorem lookup_of_within (site : Site) {s : Sensor} {effects : List Sensor.Effect}
    (within : ∀ e ∈ effects, e.Within s) {key : String} (foreign : s.key ≠ some key) :
    (site.absorbAll effects).directory.lookup key = site.directory.lookup key := by
  rw [lookup_absorbAll]
  induction effects with
  | nil => rfl
  | cons e rest ih =>
      obtain ⟨here, later⟩ := List.forall_mem_cons.1 within
      rw [List.foldl_cons, here.enter foreign]
      exact ih later

theorem lookup_retire (site : Site) (s : Sensor) (key : String) :
    (site.retire s).directory.lookup key =
      if s.key = some key then none else site.directory.lookup key := by
  -- whether the bus is told as well makes no difference to the directory
  have told : ∀ entry, (if s.registered then [.announce (.removed s.identity.path)]
      else []).foldl (Sensor.Effect.enter key) entry = entry := by
    intro entry
    split <;> rfl
  rw [retire, lookup_absorbAll, Sensor.retire, List.foldl_append, told]
  cases s.key with
  | none => rfl
  | some key' =>
      simp only [Option.some.injEq]
      rfl

end Site

end SensorMonitor
