/-
# Proofs.LinePool.Leasing -- shared lines over every course of requests

Handles are made, shared and dropped, leases are taken, given back and replaced, in any
order and on any number of pools and names (`LineRequest`, `LineRoom.serve`).  The books
are kept all along (`kept_serveAll`), so that the counts and the log agree with the live
leases (`Accounted`).  A request exchanges one lease at most for one at most
(`exchange_serve`).  It opens a line where it takes the first lease, closes one where it
gives back the last, and touches no other place (`Turnover`).  A handle is on the pool that it
comes from, through all the handles that were made of each other in between
(`handles_serveAll`), and the opener has a say only where there is no lease (`Consulted`).
-/
import Mathlib.Data.List.Induction
import SensorMonitor.Proofs.LinePool.Rooms

namespace SensorMonitor

set_option autoImplicit false

/-! ## Requests -/

/-- What can be asked of a room.  The device is what the opener makes if it is consulted. -/
inductive LineRequest (β : Type) where
  | make (handle : String)
  | share (handle new : String)
  | dropHandle (handle : String)
  | acquire (handle id name : String) (device : Except Failure β)
  | release (id : String)

namespace LineRequest

variable {β : Type}

/-- The request makes a pool. -/
def isMake : LineRequest β → Bool
  | .make _ => true
  | _ => false

/-- The pool that a handle comes from, by the requests so far with the latest first: the pool that
was made with it, or else the one that the handle comes from of which it was made.  Pools are
numbered as they are made, and a handle that was dropped comes from nowhere. -/
def origin? : List (LineRequest β) → String → Option Nat
  | [], _ => none
  | .make handle :: earlier, other =>
      if handle = other then some (earlier.countP isMake) else origin? earlier other
  | .share handle new :: earlier, other =>
      if new = other then (origin? earlier handle).or (origin? earlier other)
      else origin? earlier other
  | .dropHandle handle :: earlier, other =>
      if handle = other then none else origin? earlier other
  | .acquire _ _ _ _ :: earlier, other => origin? earlier other
  | .release _ :: earlier, other => origin? earlier other

end LineRequest

namespace LineRoom

section Requests

variable {β : Type} {room after : LineRoom (NumberedLine β)}
  {log : List (LineEvent (NumberedLine β))}

/-- Does what is asked. -/
def serve (room : LineRoom (NumberedLine β)) :
    LineRequest β → LineRoom (NumberedLine β) × List (LineEvent (NumberedLine β))
  | .make handle => (room.make handle, [])
  | .share handle new => (room.share handle new, [])
  | .dropHandle handle => ((room.dropHandle handle).1, [])
  | .acquire handle id name device =>
      let (room, events, _) := room.acquire handle id name (opener device)
      (room, events)
  | .release id =>
      let (room, events, _) := room.release id
      (room, events)

/-- **The books are kept by every request.** -/
theorem Kept.serve (kept : Kept room [] log) (r : LineRequest β) :
    Kept.Step room (room.serve r).1 [] log (room.serve r).2 := by
  cases r with
  | make handle => exact kept.make handle
  | share handle new => exact kept.share handle new
  | dropHandle handle => exact kept.dropHandle handle
  | acquire handle id name device => exact kept.acquire handle id name device
  | release id => exact kept.release id

/-- The lease that a request takes. -/
def taken? (room : LineRoom (NumberedLine β)) :
    LineRequest β → Option (LineLease (NumberedLine β))
  | .acquire handle id name device =>
      (room.acquire handle id name (opener device)).2.2.toOption.join
  | _ => none

/-- The lease that a request gives back: one that is dropped, or replaced by another. -/
def given? (room : LineRoom (NumberedLine β)) (r : LineRequest β) :
    Option (LineLease (NumberedLine β)) :=
  match r with
  | .acquire _ id _ _ => (room.taken? r).bind fun _ => room.leases[id]?
  | .release id => room.leases[id]?
  | _ => none

/-- Of the live leases one may be given back and one taken, and other places are left alone. -/
structure Exchange (room after : LineRoom (NumberedLine β))
    (given taken : Option (LineLease (NumberedLine β))) : Prop where
  live : ∃ rest, room.live.Perm (given.toList ++ rest) ∧ after.live.Perm (taken.toList ++ rest)
  elsewhere : ∀ p, (∀ lease, given = some lease → lease.place ≠ p) →
    (∀ lease, taken = some lease → lease.place ≠ p) → after.entryAt? p = room.entryAt? p

theorem Exchange.idle (live : after.live = room.live)
    (entries : after.entryAt? = room.entryAt?) : Exchange room after none none :=
  ⟨⟨room.live, .refl _, live ▸ .refl _⟩, fun p _ _ => congrFun entries p⟩

/-- A lease is stored in the room that was changed at its place for it. -/
theorem Exchange.hold {entry : Option (OpenLine (NumberedLine β))} {pools openings}
    (id : String) (lease : LineLease (NumberedLine β))
    (entries : ({ room with pools := pools, openings := openings } :
      LineRoom (NumberedLine β)).entryAt? = Function.update room.entryAt? lease.place entry) :
    Exchange room
      (LineRoom.hold { room with pools := pools, openings := openings } id lease).1
      room.leases[id]? (some lease) := by
  let joined : LineRoom (NumberedLine β) := { room with pools := pools, openings := openings }
  refine ⟨⟨(joined.release id).1.live, live_release joined id, live_hold joined id lease⟩, ?_⟩
  intro p given taken
  calc (joined.hold id lease).1.entryAt? p = (joined.release id).1.entryAt? p := rfl
    _ = joined.entryAt? p := joined.entryAt?_release given
    _ = room.entryAt? p := by
      rw [show joined.entryAt? = _ from entries]
      exact Function.update_of_ne (taken lease rfl).symm ..

/-- **Every request exchanges one lease at most for one at most.** -/
theorem exchange_serve (kept : Kept room [] log) (r : LineRequest β) :
    Exchange room (room.serve r).1 (room.given? r) (room.taken? r) := by
  cases r with
  | make handle => exact .idle rfl (kept.entryAt?_make handle)
  | share handle new =>
      simp only [serve, share]
      cases room.handles[handle]? <;> exact .idle rfl rfl
  | dropHandle handle => exact .idle rfl rfl
  | release id =>
      refine ⟨⟨(room.release id).1.live, live_release room id, .refl _⟩, ?_⟩
      intro p given _
      exact room.entryAt?_release given
  | acquire handle id name device =>
      simp only [given?, taken?, serve]
      cases room.acquired handle id name device with
      | nothing spared refused =>
          rw [spared, refused]
          exact .idle rfl rfl
      | joined reached found entries stored =>
          rw [stored]
          exact .hold id _ entries
      | opened reached free number entries stored =>
          rw [stored]
          exact .hold id _ entries

/-! ## Courses of requests -/

/-- One request after another in a room without pools, with all that is told. -/
def serveAll (rs : List (LineRequest β)) :
    LineRoom (NumberedLine β) × List (LineEvent (NumberedLine β)) :=
  rs.foldl (fun state r => ((state.1.serve r).1, state.2 ++ (state.1.serve r).2)) (empty, [])

theorem serveAll_concat (rs : List (LineRequest β)) (r : LineRequest β) :
    serveAll (rs ++ [r]) =
      (((serveAll rs).1.serve r).1, (serveAll rs).2 ++ ((serveAll rs).1.serve r).2) :=
  List.foldl_append

theorem kept_empty : Kept (empty : LineRoom (NumberedLine β)) [] [] := by
  have entries : (empty : LineRoom (NumberedLine β)).entryAt? = fun _ => none := by
    funext p
    simp [entryAt?, pool, empty, LinePool.empty]
  have lines : (empty : LineRoom (NumberedLine β)).line? = fun _ => none := by
    funext p
    rw [line?, entries]
    rfl
  refine ⟨?_, ?_, ?_, ?_⟩
  · intro p
    rw [entries]
    rfl
  · rw [lines]
    exact .empty
  · intro lease member
    simp [live, empty] at member
  · intro handle n reached
    simp [empty] at reached

theorem kept_serveAll (rs : List (LineRequest β)) :
    Kept (serveAll rs).1 [] (serveAll rs).2 := by
  induction rs using List.reverseRecOn with
  | nil => exact kept_empty
  | append_singleton before r ih =>
      rw [serveAll_concat]
      exact (ih.serve r).kept

/-! ## Handles -/

/-- Leases come and go without the handles. -/
theorem frame_acquire (room : LineRoom (NumberedLine β)) (handle id name : String)
    (device : Except Failure β) :
    (room.acquire handle id name (opener device)).1.handles = room.handles ∧
      (room.acquire handle id name (opener device)).1.made = room.made := by
  have held : ∀ (joined : LineRoom (NumberedLine β)) (lease : LineLease (NumberedLine β)),
      (joined.hold id lease).1.handles = joined.handles ∧
        (joined.hold id lease).1.made = joined.made := by
    intro joined lease
    obtain ⟨handles, -, made⟩ := joined.release_frame id
    exact ⟨handles, made⟩
  cases room.acquired handle id name device with
  | nothing spared refused =>
      rw [spared]
      exact ⟨rfl, rfl⟩
  | joined reached found entries stored =>
      rw [stored]
      exact held _ _
  | opened reached free number entries stored =>
      rw [stored]
      exact held _ _

/-- Pools are numbered as they are made. -/
theorem made_serve (room : LineRoom (NumberedLine β)) (r : LineRequest β) :
    (room.serve r).1.made = room.made + r.isMake.toNat := by
  cases r with
  | make handle => rfl
  | share handle new =>
      simp only [serve, share]
      cases room.handles[handle]? <;> rfl
  | dropHandle handle => rfl
  | acquire handle id name device => exact (room.frame_acquire handle id name device).2
  | release id => exact (room.release_frame id).2.2

theorem made_serveAll (rs : List (LineRequest β)) :
    (serveAll rs).1.made = rs.countP LineRequest.isMake := by
  induction rs using List.reverseRecOn with
  | nil => rfl
  | append_singleton before r ih =>
      rw [serveAll_concat, made_serve, ih, List.countP_append, List.countP_singleton]
      cases r.isMake <;> rfl

/-- **Every handle is on the pool that it comes from**, also one that was made of another. -/
theorem handles_serveAll (rs : List (LineRequest β)) (handle : String) :
    (serveAll rs).1.handles[handle]? = LineRequest.origin? rs.reverse handle := by
  induction rs using List.reverseRecOn generalizing handle with
  | nil => simp [serveAll, empty, LineRequest.origin?]
  | append_singleton before r ih =>
      rw [serveAll_concat, List.reverse_append, List.reverse_singleton, List.singleton_append]
      cases r with
      | make new =>
          simp only [serve, make, LineRequest.origin?, Std.TreeMap.getElem?_insert,
            Std.LawfulEqCmp.compare_eq_iff_eq]
          rw [made_serveAll, List.countP_reverse, ih]
      | share source new =>
          simp only [serve, share, LineRequest.origin?]
          rw [← ih source, ← ih handle]
          cases (serveAll before).1.handles[source]? with
          | none => simp
          | some n =>
              simp only [Std.TreeMap.getElem?_insert, Std.LawfulEqCmp.compare_eq_iff_eq,
                Option.some_or]
      | dropHandle gone =>
          simp only [serve, dropHandle, LineRequest.origin?, Std.TreeMap.getElem?_erase,
            Std.LawfulEqCmp.compare_eq_iff_eq]
          rw [ih]
      | acquire other id name device =>
          simp only [serve, LineRequest.origin?]
          rw [(frame_acquire _ other id name device).1, ih]
      | release id =>
          simp only [serve, LineRequest.origin?]
          rw [(release_frame _ id).1, ih]

/-- The counts and the log of a room agree with the live leases: they are counted by name and pool,
a line is open just while there are leases on it, the leases of a place and no others share a
line, and a line is opened once, and closed once its leases are gone, and not before. -/
structure Accounted (room : LineRoom (NumberedLine β))
    (log : List (LineEvent (NumberedLine β))) : Prop where
  counted : ∀ p, (room.pool p.pool).leases p.name = (room.leasesOn p).length
  isOpen : ∀ p, (room.pool p.pool).isOpen p.name = true ↔ 0 < (room.leasesOn p).length
  shared : ∀ a ∈ room.live, ∀ b ∈ room.live, a.place = b.place ↔ a.line = b.line
  told : ∀ k,
    (∃ lease ∈ room.live, lease.line.number = k ∧ LineEvent.about k log = [.opened lease.line]) ∨
    (∀ lease ∈ room.live, lease.line.number ≠ k) ∧
      (LineEvent.about k log = [] ∨
        ∃ line, line.number = k ∧ LineEvent.about k log = [.opened line, .closed line])

theorem Kept.accounted (kept : Kept room [] log) : Accounted room log := by
  refine ⟨?_, ?_, ?_, ?_⟩
  · intro p
    rw [leases_pool]
    cases found : room.entryAt? p with
    | none =>
        rw [(kept.entryAt?_eq_none_iff p).1 found]
        rfl
    | some entry =>
        have settles := kept.balanced p
        rw [found] at settles
        exact settles.2.1
  · intro p
    rw [isOpen_pool, List.length_pos_iff, ne_eq, ← kept.entryAt?_eq_none_iff,
      Option.isSome_iff_ne_none]
  · intro a here b here'
    have first := kept.line?_eq_some here
    have second := kept.line?_eq_some here'
    constructor
    · intro same
      rw [same] at first
      exact Option.some.inj (first.symm.trans second)
    · intro same
      exact kept.ledger.apart first second (congrArg _ same)
  · intro k
    by_cases held : ∃ lease ∈ room.live, lease.line.number = k
    · obtain ⟨lease, member, rfl⟩ := held
      exact Or.inl ⟨lease, member, rfl, kept.ledger.held (kept.line?_eq_some member)⟩
    · have gone : ∀ lease ∈ room.live, lease.line.number ≠ k := fun lease member same =>
        held ⟨lease, member, same⟩
      refine Or.inr ⟨gone, kept.ledger.gone k fun p line found => ?_⟩
      obtain ⟨lease, member, rfl⟩ := kept.exists_lease found
      exact gone lease (LineLease.mem_allOn.1 member).1

/-- What a request does to a room: it exchanges the lease that it gives back, if any, for the one
that it takes; a line is opened just where the leases on a place become one from none, and closed
just where they become none; the leases that stay keep their line; and other places are left
alone. -/
structure Turnover (room : LineRoom (NumberedLine β)) (r : LineRequest β) : Prop where
  live : ∃ rest, room.live.Perm ((room.given? r).toList ++ rest) ∧
    (room.serve r).1.live.Perm ((room.taken? r).toList ++ rest)
  opened : ∀ line, .opened line ∈ (room.serve r).2 ↔
    ∃ p, room.leasesOn p = [] ∧ ∃ lease, (room.serve r).1.leasesOn p = [lease] ∧ lease.line = line
  closed : ∀ line, .closed line ∈ (room.serve r).2 ↔
    ∃ p, (∃ lease ∈ room.leasesOn p, lease.line = line) ∧ (room.serve r).1.leasesOn p = []
  kept : ∀ a ∈ room.live, ∀ b ∈ (room.serve r).1.live, a.place = b.place → a.line = b.line
  elsewhere : ∀ p, (∀ lease, room.given? r = some lease → lease.place ≠ p) →
    (∀ lease, room.taken? r = some lease → lease.place ≠ p) →
    (room.serve r).1.entryAt? p = room.entryAt? p ∧
      ((room.serve r).1.leasesOn p).Perm (room.leasesOn p)

/-- Whether the opener of a lease has a say: it is not consulted while there are leases, and else
decides whether there is one. -/
structure Consulted (room : LineRoom (NumberedLine β)) (handle id : String) (p : LinePlace) :
    Prop where
  idle : ∀ lease ∈ room.leasesOn p, ∀ opener,
    (room.acquire handle id p.name opener).2.2 = .ok (some ⟨p.pool, p.name, lease.line⟩) ∧
      ∀ opener', room.acquire handle id p.name opener' = room.acquire handle id p.name opener
  failing : room.leasesOn p = [] → ∀ failure,
    room.acquire handle id p.name (opener (.error failure)) = (room, [], .error failure)
  opening : room.leasesOn p = [] → ∀ device,
    (room.acquire handle id p.name (opener (.ok device))).2.2 =
      .ok (some ⟨p.pool, p.name, ⟨room.openings + 1, device⟩⟩)

/-- A handle that was not made, or was dropped, gives no lease. -/
theorem acquire_of_unreached {handle : String} (unreached : room.handles[handle]? = none)
    (id name : String) (opener : Nat → Except Failure (NumberedLine β)) :
    room.acquire handle id name opener = (room, [], .ok none) := by
  simp only [acquire, unreached]

theorem Kept.consulted (kept : Kept room [] log) {handle : String} {p : LinePlace}
    (reached : room.handles[handle]? = some p.pool) (id : String) :
    Consulted room handle id p := by
  refine ⟨?_, ?_, ?_⟩
  · intro lease member opener
    obtain ⟨there, here⟩ := LineLease.mem_allOn.1 member
    obtain ⟨entry, found, line⟩ := kept.balanced.found there
    rw [here] at found
    obtain ⟨pools, -, outcome⟩ := acquire_of_found reached found
    refine ⟨?_, fun opener' => ?_⟩
    · rw [outcome, line]
    · rw [outcome, outcome]
  · intro none failure
    exact acquire_of_failure failure reached ((kept.entryAt?_eq_none_iff p).2 none)
  · intro none device
    obtain ⟨pools, -, outcome⟩ :=
      acquire_of_free device reached ((kept.entryAt?_eq_none_iff p).2 none)
    rw [outcome]

section Exchange

variable {given taken : Option (LineLease (NumberedLine β))} {p : LinePlace}

theorem Exchange.leasesOn (exchange : Exchange room after given taken) (p : LinePlace) :
    ∃ rest, (room.leasesOn p).Perm (LineLease.allOn p given.toList ++ rest) ∧
      (after.leasesOn p).Perm (LineLease.allOn p taken.toList ++ rest) := by
  obtain ⟨rest, before, now⟩ := exchange.live
  refine ⟨LineLease.allOn p rest, ?_, ?_⟩
  · rw [← LineLease.allOn_append]
    exact before.filter _
  · rw [← LineLease.allOn_append]
    exact now.filter _

/-- Where there was no lease, there is one at most. -/
theorem Exchange.eq_singleton {lease : LineLease (NumberedLine β)}
    (exchange : Exchange room after given taken) (none : room.leasesOn p = [])
    (member : lease ∈ after.leasesOn p) : after.leasesOn p = [lease] := by
  obtain ⟨rest, before, now⟩ := exchange.leasesOn p
  rw [none] at before
  have alone : rest = [] := (List.append_eq_nil_iff.1 before.symm.eq_nil).2
  have few : (LineLease.allOn p taken.toList).length ≤ 1 :=
    Nat.le_trans (List.length_filter_le ..) (by cases taken <;> simp)
  rw [alone, List.append_nil] at now
  rw [← now.length_eq] at few
  obtain ⟨other, single⟩ := List.length_eq_one_iff.1
    (Nat.le_antisymm few (List.length_pos_of_mem member))
  rw [single] at member ⊢
  rw [List.mem_singleton.1 member]

theorem Exchange.perm_elsewhere (exchange : Exchange room after given taken)
    (spared : ∀ lease, given = some lease → lease.place ≠ p)
    (unasked : ∀ lease, taken = some lease → lease.place ≠ p) :
    (after.leasesOn p).Perm (room.leasesOn p) := by
  obtain ⟨rest, before, now⟩ := exchange.leasesOn p
  rw [LineLease.allOn_toList_of_ne spared] at before
  rw [LineLease.allOn_toList_of_ne unasked] at now
  exact now.trans before.symm

end Exchange

theorem Kept.turnover (kept : Kept room [] log) (r : LineRequest β) : Turnover room r := by
  obtain ⟨after, shift⟩ := kept.serve r
  have exchange := exchange_serve kept r
  refine ⟨exchange.live, ?_, ?_, ?_, ?_⟩
  · intro line
    rw [shift.opened]
    constructor
    · rintro ⟨p, closed, opened⟩
      have none := (kept.line?_eq_none_iff p).1 closed
      obtain ⟨lease, member, rfl⟩ := after.exists_lease opened
      exact ⟨p, none, lease, exchange.eq_singleton none member, rfl⟩
    · rintro ⟨p, none, lease, one, rfl⟩
      have member : lease ∈ (room.serve r).1.leasesOn p := one ▸ List.mem_singleton_self lease
      obtain ⟨there, rfl⟩ := LineLease.mem_allOn.1 member
      exact ⟨_, (kept.line?_eq_none_iff _).2 none, after.line?_eq_some there⟩
  · intro line
    rw [shift.closed]
    constructor
    · rintro ⟨p, opened, closed⟩
      exact ⟨p, kept.exists_lease opened, (after.line?_eq_none_iff p).1 closed⟩
    · rintro ⟨p, ⟨lease, member, rfl⟩, none⟩
      obtain ⟨there, rfl⟩ := LineLease.mem_allOn.1 member
      exact ⟨_, kept.line?_eq_some there, (after.line?_eq_none_iff _).2 none⟩
  · intro a here b here' same
    refine shift.kept (kept.line?_eq_some here) ?_
    rw [same]
    exact after.line?_eq_some here'
  · intro p given taken
    exact ⟨exchange.elsewhere p given taken, exchange.perm_elsewhere given taken⟩

/-- **Lines follow their leases.**  After any course of requests the counts and the log agree with
the live leases.  Of any further request, what it opens and closes is where leases begin and end.
Every handle is on the pool that it comes from, however often it was shared; through it the opener
has a say just where there is no lease; and without it there is none. -/
theorem lines_follow_leases (rs : List (LineRequest β)) :
    Accounted (serveAll rs).1 (serveAll rs).2 ∧ (∀ r, Turnover (serveAll rs).1 r) ∧
      (∀ handle, (serveAll rs).1.handles[handle]? = LineRequest.origin? rs.reverse handle) ∧
      (∀ (handle id : String) (p : LinePlace), (serveAll rs).1.handles[handle]? = some p.pool →
        Consulted (serveAll rs).1 handle id p) ∧
      ∀ (handle id name : String) (opener : Nat → Except Failure (NumberedLine β)),
        (serveAll rs).1.handles[handle]? = none →
          (serveAll rs).1.acquire handle id name opener = ((serveAll rs).1, [], .ok none) :=
  ⟨(kept_serveAll rs).accounted, (kept_serveAll rs).turnover, handles_serveAll rs,
    fun _ id _ reached => (kept_serveAll rs).consulted reached id,
    fun _ id name opener unreached => acquire_of_unreached unreached id name opener⟩

/-- Two pools, a lease on a line of the first, and another handle on this pool. -/
def sharedSample : List (LineRequest String) :=
  [.make "a", .make "c", .acquire "a" "1" "PS_PWROK" (.ok "gpio4"), .share "a" "b",
    .dropHandle "a"]

/-- The handle that was shared reaches the line although the one that it was made of is gone, and
what an opener would do does not matter; the other pool has no lease on this name. -/
theorem lines_follow_leases_sample :
    LineRequest.origin? sharedSample.reverse "b" = some 0 ∧
      (∀ opener, ((serveAll sharedSample).1.acquire "b" "2" "PS_PWROK" opener).2.2 =
        .ok (some ⟨0, "PS_PWROK", ⟨1, "gpio4"⟩⟩)) ∧
      ((serveAll sharedSample).1.acquire "c" "2" "PS_PWROK" (opener (.ok "gpio5"))).2.2 =
        .ok (some ⟨1, "PS_PWROK", ⟨2, "gpio5"⟩⟩) ∧
      (∀ opener, ((serveAll sharedSample).1.acquire "a" "2" "PS_PWROK" opener).2.2 = .ok none) := by
  obtain ⟨-, -, origin, consulted, unreached⟩ := lines_follow_leases sharedSample
  have shared : (serveAll sharedSample).1.handles["b"]? = some 0 := (origin "b").trans rfl
  have other : (serveAll sharedSample).1.handles["c"]? = some 1 := (origin "c").trans rfl
  have gone : (serveAll sharedSample).1.handles["a"]? = none := (origin "a").trans rfl
  refine ⟨rfl, fun opener => ?_, ?_, fun opener => ?_⟩
  · exact ((consulted "b" "2" ⟨0, "PS_PWROK"⟩ shared).idle ⟨0, "PS_PWROK", ⟨1, "gpio4"⟩⟩
      (List.mem_singleton_self _) opener).1
  · exact (consulted "c" "2" ⟨1, "PS_PWROK"⟩ other).opening rfl "gpio5"
  · rw [unreached "a" "2" "PS_PWROK" opener gone]

/-- A lease taken through another handle on the pool, and handles that go before the leases. -/
example : (serveAll [.make "a", .acquire "a" "1" "PS_PWROK" (.ok "gpio4"), .share "a" "b",
    .acquire "b" "2" "PS_PWROK" (.ok "gpio5"), .dropHandle "a", .dropHandle "b", .release "1",
    .release "2"]).2 = [.opened ⟨1, "gpio4"⟩, .closed ⟨1, "gpio4"⟩] := by
  rfl

end Requests

end LineRoom

end SensorMonitor
