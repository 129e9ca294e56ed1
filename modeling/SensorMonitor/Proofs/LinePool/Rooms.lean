/-
# Proofs.LinePool.Rooms -- a room keeps its books

Every part of a request does to the places of a room what the books of `Accounts` say: a
line is joined or started and a lease is in hand (`acquired`), a lease that is given back
is taken off the entry of its place (`release_spec`), and the lease in hand is stored.  So
the books are in order at all times (`Kept`), also between the parts, and what is told is
what becomes of the lines (`Kept.Step`).

Lines are known by the number of their opening, which the room hands to the opener: two
lines are not the same because they look the same.
-/
import Mathlib.Data.List.Nodup
import SensorMonitor.Proofs.LinePool.Accounts

namespace SensorMonitor

set_option autoImplicit false

/-! ## Leases under identities -/

/-- A map with one more entry than another. -/
theorem toList_perm_cons {β : Type} {small large : Std.TreeMap String β} {id : String} {x : β}
    (absent : small[id]? = none)
    (more : ∀ other, large[other]? = if id = other then some x else small[other]?) :
    large.toList.Perm ((id, x) :: small.toList) := by
  have nodup : ∀ t : Std.TreeMap String β, t.toList.Nodup := by
    intro t
    refine List.Nodup.of_map Prod.fst ?_
    rw [Std.TreeMap.map_fst_toList_eq_keys]
    exact Std.TreeMap.nodup_keys
  have new : (id, x) ∉ small.toList := by
    rw [Std.TreeMap.mem_toList_iff_getElem?_eq_some, absent]
    simp
  refine (List.perm_ext_iff_of_nodup (nodup large) (List.nodup_cons.2 ⟨new, nodup small⟩)).2 ?_
  rintro ⟨other, y⟩
  rw [List.mem_cons, Std.TreeMap.mem_toList_iff_getElem?_eq_some,
    Std.TreeMap.mem_toList_iff_getElem?_eq_some, more, Prod.mk.injEq]
  split
  · next same =>
      subst same
      simp [absent, eq_comm]
  · next apart => simp [Ne.symm apart]

theorem LinePool.lines_release {α : Type} (pool : LinePool α) {name other : String}
    (apart : name ≠ other) : (pool.release name).1.lines[other]? = pool.lines[other]? := by
  simp only [release]
  split
  · rfl
  · split <;>
      simp only [Std.TreeMap.getElem?_erase, Std.TreeMap.getElem?_insert,
        Std.LawfulEqCmp.compare_eq_iff_eq, if_neg apart]

namespace LineRoom

section Rooms

variable {α : Type}

/-! ## Places of a room -/

/-- The entry of a place. -/
def entryAt? (room : LineRoom α) (p : LinePlace) : Option (OpenLine α) :=
  (room.pool p.pool).lines[p.name]?

/-- The line that is open at a place. -/
def line? (room : LineRoom α) (p : LinePlace) : Option α := (room.entryAt? p).map (·.line)

/-- The leases that are stored. -/
def live (room : LineRoom α) : List (LineLease α) := room.leases.toList.map (·.2)

/-- The live leases on a place. -/
def leasesOn (room : LineRoom α) (p : LinePlace) : List (LineLease α) := LineLease.allOn p room.live

variable {room after : LineRoom α}

theorem leases_pool (room : LineRoom α) (p : LinePlace) :
    (room.pool p.pool).leases p.name = ((room.entryAt? p).map (·.leases)).getD 0 := by
  simp only [LinePool.leases, entryAt?]
  cases (room.pool p.pool).lines[p.name]? <;> rfl

theorem isOpen_pool (room : LineRoom α) (p : LinePlace) :
    (room.pool p.pool).isOpen p.name = (room.entryAt? p).isSome :=
  Std.TreeMap.contains_eq_isSome_getElem?

theorem live_insert {id : String} {lease : LineLease α} (absent : room.leases[id]? = none)
    (leases : after.leases = room.leases.insert id lease) :
    after.live.Perm (lease :: room.live) := by
  refine (toList_perm_cons absent fun other => ?_).map (·.2)
  simp only [leases, Std.TreeMap.getElem?_insert, Std.LawfulEqCmp.compare_eq_iff_eq]

theorem live_erase {id : String} {lease : LineLease α} (there : room.leases[id]? = some lease)
    (leases : after.leases = room.leases.erase id) : room.live.Perm (lease :: after.live) := by
  have absent : after.leases[id]? = none := by
    rw [leases]
    exact Std.TreeMap.getElem?_erase_self
  refine (toList_perm_cons absent fun other => ?_).map (·.2)
  simp only [leases, Std.TreeMap.getElem?_erase, Std.LawfulEqCmp.compare_eq_iff_eq]
  split
  · next same => rw [← same, there]
  · rfl

/-- A pool is put back with one name changed. -/
theorem entryAt?_eq_update {p : LinePlace} {pool : LinePool α} {entry : Option (OpenLine α)}
    (pools : after.pools = room.pools.insert p.pool pool)
    (lines : ∀ name, pool.lines[name]? =
      if p.name = name then entry else (room.pool p.pool).lines[name]?) :
    after.entryAt? = Function.update room.entryAt? p entry := by
  funext q
  have reached : after.pool q.pool = if p.pool = q.pool then pool else room.pool q.pool := by
    simp only [LineRoom.pool, pools, Std.TreeMap.getElem?_insert,
      Std.LawfulEqCmp.compare_eq_iff_eq]
    split <;> rfl
  rw [entryAt?, reached, Function.update_apply]
  split
  · next same =>
      rw [lines]
      split
      · next named => rw [if_pos (by cases p; cases q; simp_all)]
      · next named => rw [if_neg (by rintro rfl; exact named rfl), entryAt?, same]
  · next other =>
      rw [if_neg (by rintro rfl; exact other rfl)]
      rfl

/-! ## What the parts of a request do to the places -/

theorem entryAt?_start {p : LinePlace} {line : α}
    (pools : after.pools =
      room.pools.insert p.pool ((room.pool p.pool).start p.name line)) :
    after.entryAt? = Function.update room.entryAt? p (some ⟨line, 1⟩) := by
  refine entryAt?_eq_update pools fun name => ?_
  simp only [LinePool.start, Std.TreeMap.getElem?_insert, Std.LawfulEqCmp.compare_eq_iff_eq]

/-- A line is joined where there is an entry. -/
theorem join?_eq_some (room : LineRoom α) (p : LinePlace) {line : α} {pool : LinePool α}
    (joined : (room.pool p.pool).join? p.name = some (line, pool)) :
    ∃ entry, room.entryAt? p = some entry ∧ line = entry.line ∧
      ∀ after : LineRoom α, after.pools = room.pools.insert p.pool pool →
        after.entryAt? = Function.update room.entryAt? p
          (some { entry with leases := entry.leases + 1 }) := by
  simp only [LinePool.join?] at joined
  cases found : (room.pool p.pool).lines[p.name]? with
  | none =>
      rw [found] at joined
      cases joined
  | some entry =>
      rw [found] at joined
      cases joined
      refine ⟨entry, found, rfl, fun after pools => ?_⟩
      refine entryAt?_eq_update pools fun name => ?_
      simp only [Std.TreeMap.getElem?_insert, Std.LawfulEqCmp.compare_eq_iff_eq]

theorem join?_eq_none_iff (room : LineRoom α) (p : LinePlace) :
    (room.pool p.pool).join? p.name = none ↔ room.entryAt? p = none := by
  rw [LinePool.join?, Option.map_eq_none_iff]
  rfl

/-- What becomes of the entry of a name that is given back once, and what is closed by it. -/
theorem release_pool {p : LinePlace} {entry : OpenLine α} (found : room.entryAt? p = some entry) :
    ((room.pool p.pool).release p.name).2 = (if entry.leases ≤ 1 then some entry.line else none) ∧
      ∀ name, ((room.pool p.pool).release p.name).1.lines[name]? =
        if p.name = name then
          if entry.leases ≤ 1 then none else some { entry with leases := entry.leases - 1 }
        else (room.pool p.pool).lines[name]? := by
  have found : (room.pool p.pool).lines[p.name]? = some entry := found
  simp only [LinePool.release, found]
  split
  · refine ⟨rfl, fun name => ?_⟩
    simp only [Std.TreeMap.getElem?_erase, Std.LawfulEqCmp.compare_eq_iff_eq]
  · refine ⟨rfl, fun name => ?_⟩
    simp only [Std.TreeMap.getElem?_insert, Std.LawfulEqCmp.compare_eq_iff_eq]

theorem release_eq {id : String} {lease : LineLease α} (there : room.leases[id]? = some lease) :
    room.release id =
      ({ room with
          pools := room.pools.insert lease.pool ((room.pool lease.pool).release lease.name).1
          leases := room.leases.erase id },
        ((room.pool lease.pool).release lease.name).2.toList.map .closed, true) := by
  simp only [release, there]

theorem release_of_absent {id : String} (absent : room.leases[id]? = none) :
    room.release id = (room, [], false) := by
  simp only [release, absent]

/-- What becomes of the entry of a lease that is given back, and what is told. -/
theorem release_spec {id : String} {lease : LineLease α} {entry : OpenLine α}
    (there : room.leases[id]? = some lease) (found : room.entryAt? lease.place = some entry) :
    (room.release id).1.entryAt? = Function.update room.entryAt? lease.place
        (if entry.leases ≤ 1 then none else some { entry with leases := entry.leases - 1 }) ∧
      (room.release id).2.1 = if entry.leases ≤ 1 then [.closed entry.line] else [] := by
  obtain ⟨closed, lines⟩ := release_pool found
  have closed : ((room.pool lease.pool).release lease.name).2 = _ := closed
  rw [release_eq there]
  refine ⟨entryAt?_eq_update rfl lines, ?_⟩
  dsimp only
  rw [closed]
  split <;> rfl

/-- A lease that is given back leaves handles and numbers alone. -/
theorem release_frame (room : LineRoom α) (id : String) :
    (room.release id).1.handles = room.handles ∧ (room.release id).1.openings = room.openings ∧
      (room.release id).1.made = room.made := by
  simp only [release]
  split <;> exact ⟨rfl, rfl, rfl⟩

/-- Giving a lease back touches the place of the lease alone. -/
theorem entryAt?_release (room : LineRoom α) {id : String} {p : LinePlace}
    (elsewhere : ∀ lease, room.leases[id]? = some lease → lease.place ≠ p) :
    (room.release id).1.entryAt? p = room.entryAt? p := by
  cases there : room.leases[id]? with
  | none => rw [release_of_absent there]
  | some lease =>
      rw [release_eq there]
      let pool := ((room.pool lease.pool).release lease.name).1
      let after : LineRoom α :=
        { room with
          pools := room.pools.insert lease.pool pool, leases := room.leases.erase id }
      have entries : after.entryAt? =
          Function.update room.entryAt? lease.place pool.lines[lease.name]? := by
        refine entryAt?_eq_update rfl fun name => ?_
        split
        · next same => rw [← same]; rfl
        · next apart => exact LinePool.lines_release _ apart
      exact (congrFun entries p).trans (Function.update_of_ne (elsewhere lease there).symm ..)

theorem leases_release (room : LineRoom α) (id other : String) :
    (room.release id).1.leases[other]? = if id = other then none else room.leases[other]? := by
  cases there : room.leases[id]? with
  | none =>
      rw [release_of_absent there]
      split
      · next here => rw [← here, there]
      · rfl
  | some lease =>
      rw [release_eq there]
      simp only [Std.TreeMap.getElem?_erase, Std.LawfulEqCmp.compare_eq_iff_eq]

theorem live_release (room : LineRoom α) (id : String) :
    room.live.Perm (room.leases[id]?.toList ++ (room.release id).1.live) := by
  cases there : room.leases[id]? with
  | none => rw [release_of_absent there]; exact .refl _
  | some lease =>
      refine live_erase there ?_
      rw [release_eq there]

theorem live_hold (room : LineRoom α) (id : String) (lease : LineLease α) :
    (room.hold id lease).1.live.Perm (lease :: (room.release id).1.live) :=
  live_insert (by rw [leases_release, if_pos rfl]) rfl

end Rooms

section Books

variable {β : Type}

/-! ## The books of a room -/

/-- The books of a room are in order, with the leases in hand that are not stored yet.  Pools are
numbered as they are made. -/
structure Kept (room : LineRoom (NumberedLine β)) (hand : List (LineLease (NumberedLine β)))
    (log : List (LineEvent (NumberedLine β))) : Prop where
  balanced : Balanced room.entryAt? (hand ++ room.live)
  ledger : Ledger room.line? room.openings log
  pools : ∀ lease ∈ hand ++ room.live, lease.pool < room.made
  handles : ∀ {handle : String} {n : Nat}, room.handles[handle]? = some n → n < room.made

variable {room after : LineRoom (NumberedLine β)} {hand : List (LineLease (NumberedLine β))}
  {log : List (LineEvent (NumberedLine β))}

/-- The lines at the places, after the entry of one was changed. -/
theorem line?_eq_update {p : LinePlace} {entry : Option (OpenLine (NumberedLine β))}
    (entries : after.entryAt? = Function.update room.entryAt? p entry) :
    after.line? = Function.update room.line? p (entry.map (·.line)) := by
  funext q
  rw [line?, entries, Function.update_apply, Function.update_apply]
  split <;> rfl

/-- The line at the place of a lease is that of the lease. -/
theorem Kept.line?_eq_some {lease : LineLease (NumberedLine β)} (kept : Kept room hand log)
    (member : lease ∈ hand ++ room.live) : room.line? lease.place = some lease.line := by
  obtain ⟨entry, found, line⟩ := kept.balanced.found member
  rw [line?, found, ← line]
  rfl

theorem Kept.entryAt?_eq_none_iff (kept : Kept room [] log) (p : LinePlace) :
    room.entryAt? p = none ↔ room.leasesOn p = [] :=
  kept.balanced.eq_none_iff p

theorem Kept.line?_eq_none_iff (kept : Kept room [] log) (p : LinePlace) :
    room.line? p = none ↔ room.leasesOn p = [] := by
  rw [line?, Option.map_eq_none_iff, kept.entryAt?_eq_none_iff]

/-- A line is open for the sake of a lease. -/
theorem Kept.exists_lease {p : LinePlace} {line : NumberedLine β} (kept : Kept room [] log)
    (found : room.line? p = some line) : ∃ lease ∈ room.leasesOn p, lease.line = line := by
  have some : room.leasesOn p ≠ [] := by
    rw [ne_eq, ← kept.line?_eq_none_iff, found]
    simp
  obtain ⟨lease, member⟩ := List.exists_mem_of_ne_nil _ some
  obtain ⟨there, rfl⟩ := LineLease.mem_allOn.1 member
  exact ⟨lease, member, Option.some.inj ((kept.line?_eq_some there).symm.trans found)⟩

/-- A change of counts alone. -/
theorem line?_eq_of_count {p : LinePlace} {entry : OpenLine (NumberedLine β)} {leases : Nat}
    (found : room.entryAt? p = some entry)
    (entries : after.entryAt? =
      Function.update room.entryAt? p (some { entry with leases := leases })) :
    after.line? = room.line? := by
  rw [line?_eq_update entries]
  refine Function.update_eq_self_iff.2 ?_
  rw [line?, found]
  rfl

/-- What a part of a request did to a room, its log and the lines at the places. -/
structure Kept.Step (room after : LineRoom (NumberedLine β))
    (hand : List (LineLease (NumberedLine β))) (log events : List (LineEvent (NumberedLine β))) :
    Prop where
  kept : Kept after hand (log ++ events)
  shift : Shift room.line? after.line? events

theorem Kept.idle (kept : Kept room hand log) : Kept.Step room room hand log [] :=
  ⟨by rwa [List.append_nil], .refl _⟩

/-- A lease is given back. -/
theorem Kept.release (kept : Kept room hand log) (id : String) :
    Kept.Step room (room.release id).1 hand log (room.release id).2.1 := by
  cases there : room.leases[id]? with
  | none =>
      rw [release_of_absent there]
      exact kept.idle
  | some lease =>
      have erased := room.live_release id
      rw [there] at erased
      have live : (hand ++ room.live).Perm (lease :: (hand ++ (room.release id).1.live)) :=
        (erased.append_left hand).trans List.perm_middle
      obtain ⟨entry, found, -⟩ := (kept.balanced.perm live).found List.mem_cons_self
      obtain ⟨entries, told⟩ := release_spec there found
      have balanced := (kept.balanced.perm live).leave found
      rw [← entries] at balanced
      obtain ⟨handles, openings, made⟩ := room.release_frame id
      have pools : ∀ other ∈ hand ++ (room.release id).1.live, other.pool < room.made :=
        fun other member => kept.pools other (live.mem_iff.2 (List.mem_cons_of_mem _ member))
      have ordered : ∀ events, Ledger (room.release id).1.line? room.openings (log ++ events) →
          Kept (room.release id).1 hand (log ++ events) := fun events ledger =>
        ⟨balanced, openings ▸ ledger, made ▸ pools, fun reached =>
          made ▸ kept.handles (handles ▸ reached)⟩
      split at entries
      · next last =>
          have closed := line?_eq_update entries
          have held : room.line? lease.place = some entry.line := by
            rw [line?, found]
            rfl
          rw [told, if_pos last]
          refine ⟨ordered _ ?_, ?_⟩
          · rw [closed]
            exact kept.ledger.close held
          · rw [closed]
            exact .close held
      · next more =>
          have unmoved := line?_eq_of_count found entries
          rw [told, if_neg more]
          refine ⟨ordered _ ?_, ?_⟩
          · rw [unmoved, List.append_nil]
            exact kept.ledger
          · rw [unmoved]
            exact .refl _

/-- A lease in hand is stored, once the one that it replaces has been given back. -/
theorem Kept.hold {lease : LineLease (NumberedLine β)} (kept : Kept room [lease] log)
    (id : String) : Kept.Step room (room.hold id lease).1 [] log (room.hold id lease).2 := by
  obtain ⟨released, shift⟩ := kept.release id
  have live := live_hold room id lease
  refine ⟨⟨released.balanced.perm live.symm, released.ledger, ?_, released.handles⟩, shift⟩
  intro other member
  exact released.pools other (live.mem_iff.1 member)

/-! ## Taking a lease -/

/-- Numbers the device that is made. -/
def opener (device : Except Failure β) (number : Nat) : Except Failure (NumberedLine β) :=
  device.map fun device => ⟨number, device⟩

section Acquire

variable {handle id name : String} {n : Nat}

/-- Where there is a line, it is joined, and the opener is not consulted. -/
theorem acquire_of_found {entry : OpenLine (NumberedLine β)}
    (reached : room.handles[handle]? = some n) (found : room.entryAt? ⟨n, name⟩ = some entry) :
    ∃ pools, let joined := { room with pools := pools }
      joined.entryAt? = Function.update room.entryAt? ⟨n, name⟩
        (some { entry with leases := entry.leases + 1 }) ∧
      ∀ id opener, room.acquire handle id name opener =
        ((joined.hold id ⟨n, name, entry.line⟩).1, (joined.hold id ⟨n, name, entry.line⟩).2,
          .ok (some ⟨n, name, entry.line⟩)) := by
  cases joined : (room.pool n).join? name with
  | none => cases ((room.join?_eq_none_iff ⟨n, name⟩).1 joined).symm.trans found
  | some pair =>
      obtain ⟨line, pool⟩ := pair
      obtain ⟨entry', found', rfl, entries⟩ := room.join?_eq_some ⟨n, name⟩ joined
      cases found.symm.trans found'
      refine ⟨room.pools.insert n pool, entries _ rfl, fun id opener => ?_⟩
      simp only [acquire, reached, joined]

/-- Where there is none, a failure of the opener is all that comes of it. -/
theorem acquire_of_failure (failure : Failure) (reached : room.handles[handle]? = some n)
    (free : room.entryAt? ⟨n, name⟩ = none) :
    room.acquire handle id name (opener (.error failure)) = (room, [], .error failure) := by
  have joined : (room.pool n).join? name = none := (room.join?_eq_none_iff ⟨n, name⟩).2 free
  simp only [acquire, reached, joined]
  rfl

/-- Else the line that it makes is opened. -/
theorem acquire_of_free (device : β) (reached : room.handles[handle]? = some n)
    (free : room.entryAt? ⟨n, name⟩ = none) :
    let line : NumberedLine β := ⟨room.openings + 1, device⟩
    ∃ pools, let opened := { room with pools := pools, openings := room.openings + 1 }
      opened.entryAt? = Function.update room.entryAt? ⟨n, name⟩ (some ⟨line, 1⟩) ∧
      ∀ id, room.acquire handle id name (opener (.ok device)) =
        ((opened.hold id ⟨n, name, line⟩).1, .opened line :: (opened.hold id ⟨n, name, line⟩).2,
          .ok (some ⟨n, name, line⟩)) := by
  have joined : (room.pool n).join? name = none := (room.join?_eq_none_iff ⟨n, name⟩).2 free
  refine ⟨room.pools.insert n ((room.pool n).start name ⟨room.openings + 1, device⟩),
    entryAt?_start (p := ⟨n, name⟩) rfl, fun id => ?_⟩
  simp only [acquire, reached, joined]
  rfl

/-- What may come of taking a lease: nothing; or a line was joined, or opened, and the lease on it
was stored. -/
inductive Acquired (room : LineRoom (NumberedLine β)) (handle id name : String)
    (outcome : LineRoom (NumberedLine β) × List (LineEvent (NumberedLine β)) ×
      Except Failure (Option (LineLease (NumberedLine β)))) : Prop where
  | nothing {reply : Except Failure (Option (LineLease (NumberedLine β)))}
      (spared : outcome = (room, [], reply)) (refused : reply.toOption.join = none)
  | joined {n : Nat} {entry : OpenLine (NumberedLine β)}
      {pools : Std.TreeMap Nat (LinePool (NumberedLine β))}
      (reached : room.handles[handle]? = some n) (found : room.entryAt? ⟨n, name⟩ = some entry)
      (entries : ({ room with pools := pools } : LineRoom (NumberedLine β)).entryAt? =
        Function.update room.entryAt? ⟨n, name⟩ (some { entry with leases := entry.leases + 1 }))
      (stored : outcome =
        let held := LineRoom.hold { room with pools := pools } id ⟨n, name, entry.line⟩
        (held.1, held.2, .ok (some ⟨n, name, entry.line⟩)))
  | opened {n : Nat} {line : NumberedLine β}
      {pools : Std.TreeMap Nat (LinePool (NumberedLine β))}
      (reached : room.handles[handle]? = some n) (free : room.entryAt? ⟨n, name⟩ = none)
      (number : line.number = room.openings + 1)
      (entries : ({ room with pools := pools, openings := room.openings + 1 } :
        LineRoom (NumberedLine β)).entryAt? =
          Function.update room.entryAt? ⟨n, name⟩ (some ⟨line, 1⟩))
      (stored : outcome =
        let held := LineRoom.hold { room with pools := pools, openings := room.openings + 1 } id
          ⟨n, name, line⟩
        (held.1, .opened line :: held.2, .ok (some ⟨n, name, line⟩)))

theorem acquired (room : LineRoom (NumberedLine β)) (handle id name : String)
    (device : Except Failure β) :
    Acquired room handle id name (room.acquire handle id name (opener device)) := by
  cases reached : room.handles[handle]? with
  | none =>
      have spared : room.acquire handle id name (opener device) = (room, [], .ok none) := by
        simp only [acquire, reached]
      exact .nothing spared rfl
  | some n =>
      cases found : room.entryAt? ⟨n, name⟩ with
      | some entry =>
          obtain ⟨pools, entries, outcome⟩ := acquire_of_found reached found
          exact .joined reached found entries (outcome id _)
      | none =>
          cases device with
          | error failure => exact .nothing (acquire_of_failure failure reached found) rfl
          | ok device =>
              obtain ⟨pools, entries, outcome⟩ := acquire_of_free device reached found
              exact .opened reached found rfl entries (outcome id)

/-- A lease in hand belongs to a pool that was made. -/
theorem Kept.pools_cons (kept : Kept room [] log) (reached : room.handles[handle]? = some n)
    (line : NumberedLine β) : ∀ lease ∈ [⟨n, name, line⟩] ++ room.live, lease.pool < room.made :=
  List.forall_mem_cons.2 ⟨kept.handles reached, kept.pools⟩

end Acquire

/-- **Taking a lease keeps the books**, whatever comes of it. -/
theorem Kept.acquire (kept : Kept room [] log) (handle id name : String)
    (device : Except Failure β) :
    let outcome := room.acquire handle id name (opener device)
    Kept.Step room outcome.1 [] log outcome.2.1 := by
  dsimp only
  cases room.acquired handle id name device with
  | nothing spared refused =>
      rw [spared]
      exact kept.idle
  | @joined n entry pools reached found entries stored =>
      rw [stored]
      have unmoved := line?_eq_of_count found entries
      have inHand : Kept { room with pools := pools } [⟨n, name, entry.line⟩] log := by
        refine ⟨?_, ?_, kept.pools_cons reached entry.line, kept.handles⟩
        · rw [entries]
          exact kept.balanced.join ⟨n, name, entry.line⟩ found rfl
        · rw [unmoved]
          exact kept.ledger
      obtain ⟨held, shift⟩ := inHand.hold id
      rw [unmoved] at shift
      exact ⟨held, shift⟩
  | @opened n line pools reached free number entries stored =>
      rw [stored]
      let lease : LineLease (NumberedLine β) := ⟨n, name, line⟩
      let opened : LineRoom (NumberedLine β) :=
        { room with pools := pools, openings := room.openings + 1 }
      have entries : opened.entryAt? = Function.update room.entryAt? lease.place _ := entries
      have lines := line?_eq_update entries
      have free' : room.line? lease.place = none := congrArg (Option.map _) free
      have inHand : Kept opened [lease] (log ++ [.opened line]) := by
        refine ⟨?_, ?_, kept.pools_cons reached line, kept.handles⟩
        · rw [entries]
          exact kept.balanced.start lease free
        · rw [lines]
          exact kept.ledger.start free' number
      obtain ⟨held, shift⟩ := inHand.hold id
      rw [List.append_assoc] at held
      rw [lines] at shift
      refine ⟨held, shift.after_start free' ?_⟩
      -- the new line is not closed, since its lease is live
      have member := (live_hold opened id lease).mem_iff.2 List.mem_cons_self
      exact ⟨line, held.line?_eq_some member⟩

/-! ## Handles -/

/-- A pool that is made finds its place empty. -/
theorem Kept.entryAt?_make (kept : Kept room [] log) (handle : String) :
    (room.make handle).entryAt? = room.entryAt? := by
  funext p
  simp only [make, entryAt?, pool, Std.TreeMap.getElem?_insert, Std.LawfulEqCmp.compare_eq_iff_eq]
  split
  · next new =>
      have none : room.leasesOn p = [] := by
        refine List.eq_nil_iff_forall_not_mem.2 fun lease member => ?_
        obtain ⟨there, rfl⟩ := LineLease.mem_allOn.1 member
        exact absurd new.symm (Nat.ne_of_lt (kept.pools lease there))
      exact ((kept.entryAt?_eq_none_iff p).2 none).symm
  · rfl

/-- A request that is about handles only. -/
theorem Kept.rewire {after : LineRoom (NumberedLine β)} (kept : Kept room [] log)
    (entries : after.entryAt? = room.entryAt?) (live : after.live = room.live)
    (openings : after.openings = room.openings) (made : room.made ≤ after.made)
    (handles : ∀ {handle : String} {n : Nat}, after.handles[handle]? = some n → n < after.made) :
    Kept.Step room after [] log [] := by
  have lines : after.line? = room.line? := by
    funext p
    rw [line?, line?, entries]
  refine ⟨⟨?_, ?_, ?_, handles⟩, lines ▸ .refl _⟩
  · rw [entries, live]
    exact kept.balanced
  · rw [lines, openings, List.append_nil]
    exact kept.ledger
  · rw [live]
    exact fun lease member => Nat.lt_of_lt_of_le (kept.pools lease member) made

theorem Kept.share (kept : Kept room [] log) (handle new : String) :
    Kept.Step room (room.share handle new) [] log [] := by
  simp only [LineRoom.share]
  cases reached : room.handles[handle]? with
  | none => exact kept.idle
  | some n =>
      refine kept.rewire rfl rfl rfl (Nat.le_refl _) fun {other m} held => ?_
      rw [Std.TreeMap.getElem?_insert] at held
      split at held
      · cases held
        exact kept.handles reached
      · exact kept.handles held

theorem Kept.make (kept : Kept room [] log) (handle : String) :
    Kept.Step room (room.make handle) [] log [] := by
  refine kept.rewire (kept.entryAt?_make handle) rfl rfl (Nat.le_succ _) fun {other m} held => ?_
  simp only [LineRoom.make, Std.TreeMap.getElem?_insert] at held
  split at held
  · cases held
    exact Nat.lt_succ_self _
  · exact Nat.lt_succ_of_lt (kept.handles held)

theorem Kept.dropHandle (kept : Kept room [] log) (handle : String) :
    Kept.Step room (room.dropHandle handle).1 [] log [] := by
  refine kept.rewire rfl rfl rfl (Nat.le_refl _) fun {other m} held => ?_
  simp only [LineRoom.dropHandle, Std.TreeMap.getElem?_erase] at held
  split at held
  · cases held
  · exact kept.handles held

end Books

end LineRoom

end SensorMonitor
