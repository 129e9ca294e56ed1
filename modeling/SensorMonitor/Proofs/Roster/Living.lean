/-
# Proofs.Roster.Living -- what the loops do to their sensors

A live sensor is read, written or looked at by its loop, and others perform operations on
it.  What a loop does keeps every law of acts (`LiveSensor.governed_step`).  Through all of
this the sensor lives on within its own reach (`Lived`): it stays at its path and under its
key, it announces changes at its path only and shows values under its key only.
-/
import SensorMonitor.Proofs.Poll.Resumption
import SensorMonitor.Proofs.Roster.Soundness
import SensorMonitor.Proofs.Roster.Standing

namespace SensorMonitor

set_option autoImplicit false

open ObjectPath (escape)
open Function (update)

theorem Site.absorbAll_append (site : Site) (effects effects' : List Sensor.Effect) :
    site.absorbAll (effects ++ effects') = (site.absorbAll effects).absorbAll effects' :=
  List.foldl_append

/-- A sensor, if it is there, lives on within its reach. -/
inductive Lived (site : Site) : Option Sensor → Option Sensor → Site → Prop where
  | absent : Lived site none none site
  | there {s s' : Sensor} {effects : List Sensor.Effect}
      (contained : Sensor.Contained s s' effects) :
      Lived site (some s) (some s') (site.absorbAll effects)

theorem Lived.refl (site : Site) (s : Option Sensor) : Lived site s s site := by
  cases s with
  | none => exact .absent
  | some s => exact .there (.refl s)

/-- A sensor, if it is there, goes on at its path, whatever becomes of its key. -/
inductive Went (site : Site) : Option Sensor → Option Sensor → Site → Prop where
  | absent : Went site none none site
  | there {s s' : Sensor} {effects : List Sensor.Effect} {ps : List Property}
      (identity : s'.identity = s.identity) (known : s'.registered = s.registered)
      (told : Sensor.announced effects = ps.map (.changed s.identity.path)) :
      Went site (some s) (some s') (site.absorbAll effects)

theorem Lived.went {site site' : Site} {s s' : Option Sensor} (lived : Lived site s s' site') :
    Went site s s' site' := by
  cases lived with
  | absent => exact .absent
  | there contained =>
      obtain ⟨ps, told⟩ := contained.announced
      exact .there contained.identity contained.registered told

section Places

variable {ι : Type} [DecidableEq ι] {site site' : Site} {sensor? : ι → Option Sensor} {i : ι}
variable {after : Option Sensor}

theorem Standing.goes (standing : Standing site.bus sensor?)
    (went : Went site (sensor? i) after site') : Standing site'.bus (update sensor? i after) := by
  generalize here : sensor? i = before at went
  cases went with
  | absent =>
      rw [← here, Function.update_eq_self]
      exact standing
  | there identity known told => exact standing.lives here identity known told

theorem Listed.goes (listed : Listed site.directory sensor?)
    (lived : Lived site (sensor? i) after site') :
    Listed site'.directory (update sensor? i after) := by
  generalize here : sensor? i = before at lived
  cases lived with
  | absent =>
      rw [← here, Function.update_eq_self]
      exact listed
  | there contained => exact Listed.lives listed here contained

end Places

/-! ## Loops that read -/

/-- A sensor, if it is there, becomes another with effects on the site, as a relation has it. -/
inductive Governed (R : Sensor → Sensor → List Sensor.Effect → Prop) (site : Site) :
    Option Sensor → Option Sensor → Site → Prop where
  | absent : Governed R site none none site
  | there {s s' : Sensor} {effects : List Sensor.Effect} (related : R s s' effects) :
      Governed R site (some s) (some s') (site.absorbAll effects)

theorem Lived.of_governed {site site' : Site} {s s' : Option Sensor}
    (governed : Governed Sensor.Contained site s s' site') : Lived site s s' site' := by
  cases governed with
  | absent => exact .absent
  | there contained => exact .there contained

section Loops

variable {R : Sensor → Sensor → List Sensor.Effect → Prop} (law : Sensor.Law R)

include law

namespace Governed

variable {site site' site'' : Site} {s s' s'' : Option Sensor}

theorem refl (site : Site) (s : Option Sensor) : Governed R site s s site := by
  cases s with
  | none => exact .absent
  | some s => exact .there (law.refl s)

theorem trans (first : Governed R site s s' site') (second : Governed R site' s' s'' site'') :
    Governed R site s s'' site'' := by
  cases first with
  | absent => exact second
  | there related =>
      cases second with
      | there related' =>
          rw [← Site.absorbAll_append]
          exact .there (law.trans related related')

end Governed

namespace Poll

omit law in
/-- All that deeds ask for is plain. -/
theorem Deed.isPlain_of_mem {deed : Deed} {op : Sensor.Op} (member : op ∈ deed.ops) :
    op.isPlain = true := by
  cases deed with
  | startRead => cases member
  | reportNothing | countError =>
      obtain rfl := List.mem_singleton.1 member
      rfl
  | take reading =>
      rcases List.mem_pair.1 member with rfl | rfl <;> rfl

namespace Poller

variable {σ : Type} (p : Poller σ) (now : Nat) (site : Site)

theorem governed_perform {op : Sensor.Op} (plain : op.isPlain = true) :
    Governed R site p.sensor (p.perform site op).1.sensor (p.perform site op).2.1 := by
  simp only [perform]
  cases sensor : p.sensor with
  | none =>
      rw [sensor]
      exact .absent
  | some s => exact .there (law.perform site.conditions plain s)

theorem governed_performAll {ops : List Sensor.Op} (plain : ∀ op ∈ ops, op.isPlain = true) :
    Governed R site p.sensor (p.performAll site ops).1.sensor (p.performAll site ops).2 := by
  induction ops generalizing p site with
  | nil => exact .refl law site p.sensor
  | cons op rest ih =>
      obtain ⟨here, later⟩ := List.forall_mem_cons.1 plain
      exact (p.governed_perform law site here).trans law (ih _ _ later)

theorem governed_wake (w : Wake) :
    Governed R site p.sensor (p.wake now site w).1.sensor (p.wake now site w).2 := by
  rw [wake_eq]
  generalize (p.phase.resume p.schedule now (p.view site) w).1 = phase
  refine governed_performAll law ({ p with phase := phase } : Poller σ) site ?_
  cases p.deed? now site w with
  | none => exact List.forall_mem_nil _
  | some deed => exact fun op => Deed.isPlain_of_mem

theorem governed_turn (read : ReadFrom σ) :
    Governed R site p.sensor (p.turn read now site).1.sensor (p.turn read now site).2 := by
  have turned := p.governed_wake law now site .turn
  simp only [turn]
  generalize p.wake now site .turn = woken at turned
  obtain ⟨p', site'⟩ := woken
  dsimp only
  split
  · generalize read site' p'.source = answered
    obtain ⟨result, source⟩ := answered
    exact turned.trans law
      (governed_wake law { p' with source := source } now site' (.answer result))
  · exact turned

theorem governed_step (read : ReadFrom σ) :
    Governed R site p.sensor (p.step read now site).1.sensor (p.step read now site).2 := by
  simp only [step]
  split
  · split
    · exact p.governed_wake law now site .signal
    · exact p.governed_turn law now site read
  · exact p.governed_turn law now site read

omit law in
theorem lived_wake (w : Wake) :
    Lived site p.sensor (p.wake now site w).1.sensor (p.wake now site w).2 :=
  .of_governed (p.governed_wake Sensor.law_contained now site w)

end Poller

end Poll

/-! ## Loops that look -/

theorem FreshnessWatch.governed_look (w : FreshnessWatch) (now instant : Nat) (site : Site) :
    Governed R site (w.sensor.map (·.sensor)) ((w.look now instant site).1.sensor.map (·.sensor))
      (w.look now instant site).2 := by
  simp only [look]
  cases sensor : w.sensor with
  | none => exact .absent
  | some e =>
      dsimp only
      split
      · exact .refl law site _
      · simp only [ExternalSensor.checkTimeout]
        split
        · exact .refl law site _
        · exact .there (law.perform site.conditions rfl e.sensor)

omit law in
theorem FreshnessWatch.lived_look (w : FreshnessWatch) (now instant : Nat) (site : Site) :
    Lived site (w.sensor.map (·.sensor)) ((w.look now instant site).1.sensor.map (·.sensor))
      (w.look now instant site).2 :=
  .of_governed (w.governed_look Sensor.law_contained now instant site)

/-! ## Live sensors -/

namespace LiveSensor

/-- What a loop does to its sensor keeps every law. -/
theorem governed_step (live : LiveSensor) (now : Nat) (site : Site) :
    Governed R site live.sensor? (live.step now site).1.sensor? (live.step now site).2 := by
  cases live with
  | polled poller => exact poller.governed_step law now site readSource
  | external e => exact .refl law site (some e.sensor)
  | perishable watch => exact watch.governed_look law now (instantOf now) site

end LiveSensor

end Loops

namespace LiveSensor

theorem lived_step (live : LiveSensor) (now : Nat) (site : Site) :
    Lived site live.sensor? (live.step now site).1.sensor? (live.step now site).2 :=
  .of_governed (live.governed_step Sensor.law_contained now site)

/-- What an operation does to a live sensor and its site. -/
theorem perform_spec (live : LiveSensor) (now : Nat) (site : Site) (op : Sensor.Op) :
    (live.perform now site op).1.sensor? =
        live.sensor?.map (fun s => (s.perform site.conditions op).sensor) ∧
      (live.perform now site op).2.1 =
        site.absorbAll ((live.sensor?.map fun s => (s.perform site.conditions op).effects).getD
          []) := by
  cases live with
  | polled poller =>
      cases sensor : poller.sensor <;>
        simp [perform, Poll.Poller.perform, sensor?, sensor, Site.absorbAll]
  | external e => exact ⟨rfl, rfl⟩
  | perishable watch =>
      cases sensor : watch.sensor <;>
        simp [perform, FreshnessWatch.perform, sensor?, sensor, Site.absorbAll,
          ExternalSensor.perform, ExternalSensor.absorb]

theorem perform_reply (live : LiveSensor) (now : Nat) (site : Site) (op : Sensor.Op) :
    (live.perform now site op).2.2 =
      live.sensor?.map (fun s => (s.perform site.conditions op).reply) := by
  cases live with
  | polled poller => cases sensor : poller.sensor <;>
      simp [perform, Poll.Poller.perform, sensor?, sensor]
  | external e => rfl
  | perishable watch => cases sensor : watch.sensor <;>
      simp [perform, FreshnessWatch.perform, sensor?, sensor, ExternalSensor.perform]

theorem went_perform (live : LiveSensor) (now : Nat) (site : Site) (op : Sensor.Op) :
    Went site live.sensor? (live.perform now site op).1.sensor? (live.perform now site op).2.1 := by
  obtain ⟨sensor, effects⟩ := live.perform_spec now site op
  rw [sensor, effects]
  cases live.sensor? with
  | none => exact .absent
  | some s =>
      obtain ⟨ps, told⟩ := Sensor.told_perform site.conditions op s
      exact .there (Sensor.perform_identity site.conditions op s)
        (Sensor.registered_perform site.conditions op s) told

theorem lived_perform (live : LiveSensor) (now : Nat) (site : Site) {op : Sensor.Op}
    (keeps : ∀ key, op ≠ .attach key) : Lived site live.sensor?
      (live.perform now site op).1.sensor? (live.perform now site op).2.1 := by
  obtain ⟨sensor, effects⟩ := live.perform_spec now site op
  rw [sensor, effects]
  cases live.sensor? with
  | none => exact .absent
  | some s => exact .there (Sensor.contained_perform site.conditions s keeps)

end LiveSensor

/-! ## Sensors under their paths -/

namespace Roster

/-- The sensor under a path. -/
def occupant (live : Std.TreeMap String RosterEntry) (path : String) : Option Sensor :=
  live[path]?.bind (·.live.sensor?)

theorem occupant_erase (live : Std.TreeMap String RosterEntry) (path : String) :
    occupant (live.erase path) = update (occupant live) path none := by
  funext other
  rw [occupant, getElem?_erase]
  by_cases here : path = other
  · subst here
    simp
  · rw [if_neg here, Function.update_of_ne (Ne.symm here), occupant]

theorem occupant_insert (live : Std.TreeMap String RosterEntry) (path : String)
    (entry : RosterEntry) :
    occupant (live.insert path entry) = update (occupant live) path entry.live.sensor? := by
  funext other
  rw [occupant, getElem?_insert]
  by_cases here : path = other
  · subst here
    simp
  · rw [if_neg here, Function.update_of_ne (Ne.symm here), occupant]

end Roster

/-! ## Time that passes -/

namespace Roster

/-- The roster in which one live sensor and the site are others. -/
abbrev withLive (r : Roster) (path : String) (entry : RosterEntry) (lived : LiveSensor × Site) :
    Roster :=
  { r with site := lived.2, live := r.live.insert path { entry with live := lived.1 } }

/-- **Time that passes keeps whatever the clock and the single steps of the loops keep.** -/
theorem run_invariant {P : Roster → Prop}
    (tick : ∀ {r : Roster} (now : Nat), P r → P { r with now := now })
    (step : ∀ {r : Roster} {path : String} {entry : RosterEntry}, P r →
      r.live[path]? = some entry → P (r.withLive path entry (entry.live.step r.now r.site)))
    {r : Roster} (holds : P r) (ms : Nat) : P (r.run ms) := by
  have stepAt : ∀ {r : Roster} (path : String), P r → P (r.stepAt path) := by
    intro r path holds
    unfold Roster.stepAt
    cases there : r.live[path]? with
    | none => exact holds
    | some entry =>
        dsimp only
        cases entry.live.next? r.now with
        | none => exact holds
        | some due =>
            dsimp only
            split
            · exact step holds there
            · exact holds
  have stepAll : ∀ {r : Roster}, P r → P r.stepAll := by
    intro r holds
    unfold Roster.stepAll
    generalize r.live.keys = paths
    induction paths generalizing r with
    | nil => exact holds
    | cons path rest ih => exact ih (stepAt path holds)
  have runFor : ∀ (limit fuel : Nat) {r : Roster}, P r → P (r.runFor limit fuel) := by
    intro limit fuel
    induction fuel with
    | zero => exact id
    | succ fuel ih =>
        intro r holds
        unfold Roster.runFor
        split
        · exact holds
        · next due _ =>
            split
            · exact ih (stepAll (tick due holds))
            · exact holds
  exact tick _ (runFor _ _ holds)

end Roster

end SensorMonitor
