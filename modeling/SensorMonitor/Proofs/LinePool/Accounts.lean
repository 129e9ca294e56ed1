/-
# Proofs.LinePool.Accounts -- the books of leases and of openings

Two books are kept of lines, both by place, a name in a pool.

* Of leases: the entry of a place counts the leases that are live on it and has their
  line, and there is no entry where there is no lease (`Balanced`).  A lease is taken on a
  place without an entry (`Balanced.start`) or with one (`Balanced.join`), and given back
  (`Balanced.leave`).
* Of openings: every line has the number of its opening.  The log tells of the line with a
  number that it was opened, while it is at a place, and that it was opened and closed
  after that, and tells nothing else (`Ledger`).

What a change tells is what it does to the lines at the places (`Shift`).
-/
import Mathlib.Logic.Function.Basic
import SensorMonitor.LinePool

namespace SensorMonitor

set_option autoImplicit false

/-- A name in a pool. -/
structure LinePlace where
  pool : Nat
  name : String
  deriving DecidableEq

/-- A line that is told from others by the number of its opening. -/
structure NumberedLine (β : Type) where
  number : Nat
  device : β

/-- The line that an event is about. -/
def LineEvent.line {α : Type} : LineEvent α → α
  | .opened line => line
  | .closed line => line

namespace LineLease

variable {α : Type}

/-- Where the lease was taken. -/
def place (lease : LineLease α) : LinePlace := ⟨lease.pool, lease.name⟩

/-- The leases on a place. -/
def allOn (p : LinePlace) (leases : List (LineLease α)) : List (LineLease α) :=
  leases.filter (·.place = p)

theorem allOn_cons_self (lease : LineLease α) (leases : List (LineLease α)) :
    allOn lease.place (lease :: leases) = lease :: allOn lease.place leases :=
  List.filter_cons_of_pos (by simp)

theorem allOn_cons_of_ne {p : LinePlace} {lease : LineLease α} (elsewhere : lease.place ≠ p)
    (leases : List (LineLease α)) : allOn p (lease :: leases) = allOn p leases :=
  List.filter_cons_of_neg (by simpa using elsewhere)

theorem allOn_append (p : LinePlace) (leases leases' : List (LineLease α)) :
    allOn p (leases ++ leases') = allOn p leases ++ allOn p leases' :=
  List.filter_append ..

theorem allOn_toList_of_ne {p : LinePlace} {lease? : Option (LineLease α)}
    (elsewhere : ∀ lease, lease? = some lease → lease.place ≠ p) : allOn p lease?.toList = [] := by
  cases lease? with
  | none => rfl
  | some lease => exact allOn_cons_of_ne (elsewhere lease rfl) []

theorem mem_allOn {p : LinePlace} {lease : LineLease α} {leases : List (LineLease α)} :
    lease ∈ allOn p leases ↔ lease ∈ leases ∧ lease.place = p := by
  simp [allOn]

end LineLease

/-! ## Leases -/

section Leases

variable {α : Type}

/-- What the entry of a place says of the leases on it: they are as many, on its line; and no entry
says that there are none. -/
def OpenLine.Settles : Option (OpenLine α) → List (LineLease α) → Prop
  | none, held => held = []
  | some entry, held =>
      held ≠ [] ∧ entry.leases = held.length ∧ ∀ lease ∈ held, lease.line = entry.line

/-- The entries are right about the live leases, at every place. -/
def Balanced (entries : LinePlace → Option (OpenLine α)) (live : List (LineLease α)) : Prop :=
  ∀ p, OpenLine.Settles (entries p) (LineLease.allOn p live)

namespace Balanced

variable {entries : LinePlace → Option (OpenLine α)} {live live' : List (LineLease α)}
  {lease : LineLease α}

theorem eq_none_iff (balanced : Balanced entries live) (p : LinePlace) :
    entries p = none ↔ LineLease.allOn p live = [] := by
  have settles := balanced p
  cases found : entries p with
  | none =>
      rw [found] at settles
      exact iff_of_true rfl settles
  | some entry =>
      rw [found] at settles
      exact iff_of_false (by simp) settles.1

theorem perm (balanced : Balanced entries live) (same : live.Perm live') :
    Balanced entries live' := by
  intro p
  have settles := balanced p
  have filtered : (LineLease.allOn p live).Perm (LineLease.allOn p live') := same.filter _
  cases found : entries p with
  | none =>
      rw [(balanced.eq_none_iff p).1 found] at filtered
      exact filtered.symm.eq_nil
  | some entry =>
      rw [found] at settles
      obtain ⟨some, count, lines⟩ := settles
      refine ⟨?_, count.trans filtered.length_eq, fun lease member => ?_⟩
      · intro none
        rw [none] at filtered
        exact some filtered.eq_nil
      · exact lines lease (filtered.mem_iff.2 member)

/-- The entry of a lease. -/
theorem found (balanced : Balanced entries live) (member : lease ∈ live) :
    ∃ entry, entries lease.place = some entry ∧ entry.line = lease.line := by
  have here : lease ∈ LineLease.allOn lease.place live := LineLease.mem_allOn.2 ⟨member, rfl⟩
  have settles := balanced lease.place
  cases found : entries lease.place with
  | none =>
      rw [(balanced.eq_none_iff lease.place).1 found] at here
      cases here
  | some entry =>
      rw [found] at settles
      exact ⟨entry, rfl, (settles.2.2 lease here).symm⟩

/-- The first lease on a place. -/
theorem start (lease : LineLease α) (balanced : Balanced entries live)
    (free : entries lease.place = none) :
    Balanced (Function.update entries lease.place (some ⟨lease.line, 1⟩)) (lease :: live) := by
  intro p
  by_cases here : lease.place = p
  · subst here
    rw [Function.update_self, LineLease.allOn_cons_self,
      (balanced.eq_none_iff lease.place).1 free]
    exact ⟨by simp, rfl, by simp⟩
  · rw [Function.update_of_ne (Ne.symm here), LineLease.allOn_cons_of_ne here]
    exact balanced p

/-- One more lease on a place. -/
theorem join (lease : LineLease α) {entry : OpenLine α} (balanced : Balanced entries live)
    (found : entries lease.place = some entry) (same : lease.line = entry.line) :
    Balanced (Function.update entries lease.place
      (some { entry with leases := entry.leases + 1 })) (lease :: live) := by
  intro p
  by_cases here : lease.place = p
  · subst here
    have settles := balanced lease.place
    rw [found] at settles
    obtain ⟨-, count, lines⟩ := settles
    rw [Function.update_self, LineLease.allOn_cons_self]
    exact ⟨by simp, congrArg (· + 1) count, List.forall_mem_cons.2 ⟨same, lines⟩⟩
  · rw [Function.update_of_ne (Ne.symm here), LineLease.allOn_cons_of_ne here]
    exact balanced p

/-- A lease is given back: the entry goes with the last one, and else counts one less. -/
theorem leave {entry : OpenLine α} (balanced : Balanced entries (lease :: live))
    (found : entries lease.place = some entry) :
    Balanced (Function.update entries lease.place (if entry.leases ≤ 1 then none
      else some { entry with leases := entry.leases - 1 })) live := by
  intro p
  by_cases here : lease.place = p
  · subst here
    have settles := balanced lease.place
    rw [found, LineLease.allOn_cons_self] at settles
    obtain ⟨-, count, lines⟩ := settles
    rw [List.length_cons] at count
    rw [Function.update_self]
    split
    · next last => exact List.eq_nil_of_length_eq_zero (by omega)
    · next more =>
        have others : (LineLease.allOn lease.place live).length ≠ 0 := by omega
        refine ⟨fun none => others (by rw [none]; rfl), ?_, (List.forall_mem_cons.1 lines).2⟩
        show entry.leases - 1 = _
        omega
  · rw [Function.update_of_ne (Ne.symm here)]
    have settles := balanced p
    rwa [LineLease.allOn_cons_of_ne here] at settles

end Balanced

end Leases

/-! ## Openings -/

section Openings

variable {β : Type}

/-- The events about the line with a number. -/
def LineEvent.about (k : Nat) (log : List (LineEvent (NumberedLine β))) :
    List (LineEvent (NumberedLine β)) :=
  log.filter (·.line.number = k)

/-- Where a line is found once a place was emptied, it was before. -/
theorem found_of_update_none {lines : LinePlace → Option (NumberedLine β)} {place p : LinePlace}
    {line : NumberedLine β} (there : Function.update lines place none p = some line) :
    p ≠ place ∧ lines p = some line := by
  by_cases here : p = place
  · subst here
    rw [Function.update_self] at there
    cases there
  · rw [Function.update_of_ne here] at there
    exact ⟨here, there⟩

/-- The log tells of every line what became of it, given the lines at the places: the line at a
place was opened, and that is all; a line at no place was never opened, or opened and then
closed. -/
structure Ledger (lines : LinePlace → Option (NumberedLine β)) (openings : Nat)
    (log : List (LineEvent (NumberedLine β))) : Prop where
  apart : ∀ {p q line line'}, lines p = some line → lines q = some line' →
    line.number = line'.number → p = q
  unopened : ∀ k, openings < k → LineEvent.about k log = []
  held : ∀ {p line}, lines p = some line → LineEvent.about line.number log = [.opened line]
  gone : ∀ k, (∀ p line, lines p = some line → line.number ≠ k) →
    LineEvent.about k log = [] ∨
      ∃ line, line.number = k ∧ LineEvent.about k log = [.opened line, .closed line]

namespace LineEvent

theorem about_concat_self (log : List (LineEvent (NumberedLine β)))
    (event : LineEvent (NumberedLine β)) :
    about event.line.number (log ++ [event]) = about event.line.number log ++ [event] := by
  simp [about]

theorem about_concat_of_ne {k : Nat} (log : List (LineEvent (NumberedLine β)))
    (event : LineEvent (NumberedLine β)) (other : event.line.number ≠ k) :
    about k (log ++ [event]) = about k log := by
  simp [about, other]

end LineEvent

namespace Ledger

variable {lines : LinePlace → Option (NumberedLine β)} {openings : Nat}
  {log : List (LineEvent (NumberedLine β))} {place : LinePlace} {line : NumberedLine β}

theorem empty : Ledger (fun _ => none) 0 ([] : List (LineEvent (NumberedLine β))) :=
  ⟨nofun, fun _ _ => rfl, nofun, fun _ _ => Or.inl rfl⟩

/-- The line at a place is one of those that were opened. -/
theorem le_openings (ledger : Ledger lines openings log) (found : lines place = some line) :
    line.number ≤ openings := by
  by_contra later
  have told := ledger.held found
  rw [ledger.unopened line.number (by omega)] at told
  cases told

/-- A line with the next number is opened at a free place. -/
theorem start (ledger : Ledger lines openings log) (free : lines place = none)
    (next : line.number = openings + 1) :
    Ledger (Function.update lines place (some line)) (openings + 1) (log ++ [.opened line]) := by
  -- the lines that were there before have lower numbers, and nothing new is told of them
  have before : ∀ {q line'}, q ≠ place → Function.update lines place (some line) q = some line' →
      lines q = some line' ∧ line.number ≠ line'.number := by
    intro q line' elsewhere found
    rw [Function.update_of_ne elsewhere] at found
    have := ledger.le_openings found
    exact ⟨found, by omega⟩
  refine ⟨?_, ?_, ?_, ?_⟩
  · intro p q line₁ line₂ first second same
    by_cases here : p = place
    · by_cases here' : q = place
      · rw [here, here']
      · subst here
        rw [Function.update_self] at first
        cases first
        exact absurd same (before here' second).2
    · by_cases here' : q = place
      · subst here'
        rw [Function.update_self] at second
        cases second
        exact absurd same.symm (before here first).2
      · exact ledger.apart (before here first).1 (before here' second).1 same
  · intro k later
    have other : line.number ≠ k := by omega
    rw [LineEvent.about_concat_of_ne log (.opened line) other]
    exact ledger.unopened k (by omega)
  · intro q line' found
    by_cases here : q = place
    · subst here
      rw [Function.update_self] at found
      cases found
      have told := LineEvent.about_concat_self log (.opened line)
      rw [show LineEvent.about (LineEvent.opened line).line.number log = [] from
        ledger.unopened _ (by show openings < line.number; omega)] at told
      exact told
    · obtain ⟨found, other⟩ := before here found
      rw [LineEvent.about_concat_of_ne log (.opened line) other]
      exact ledger.held found
  · intro k absent
    have other : line.number ≠ k := absent place line (Function.update_self ..)
    rw [LineEvent.about_concat_of_ne log (.opened line) other]
    refine ledger.gone k fun p line' found => absent p line' ?_
    have elsewhere : p ≠ place := by
      rintro rfl
      rw [free] at found
      cases found
    rwa [Function.update_of_ne elsewhere]

/-- The line at a place is closed. -/
theorem close (ledger : Ledger lines openings log) (found : lines place = some line) :
    Ledger (Function.update lines place none) openings (log ++ [.closed line]) := by
  have kept : ∀ {q line'}, Function.update lines place none q = some line' →
      lines q = some line' ∧ line.number ≠ line'.number := by
    intro q line' there
    obtain ⟨elsewhere, there⟩ := found_of_update_none there
    exact ⟨there, fun same => elsewhere (ledger.apart found there same).symm⟩
  refine ⟨?_, ?_, ?_, ?_⟩
  · intro p q line₁ line₂ first second
    exact ledger.apart (kept first).1 (kept second).1
  · intro k later
    have := ledger.le_openings found
    have other : line.number ≠ k := by omega
    rw [LineEvent.about_concat_of_ne log (.closed line) other]
    exact ledger.unopened k later
  · intro q line' there
    obtain ⟨there, other⟩ := kept there
    rw [LineEvent.about_concat_of_ne log (.closed line) other]
    exact ledger.held there
  · intro k absent
    by_cases this : line.number = k
    · subst this
      refine Or.inr ⟨line, rfl, ?_⟩
      have told := LineEvent.about_concat_self log (.closed line)
      rw [show LineEvent.about (LineEvent.closed line).line.number log = [.opened line] from
        ledger.held found] at told
      exact told
    · rw [LineEvent.about_concat_of_ne log (.closed line) this]
      refine ledger.gone k fun p line' there => ?_
      by_cases here : p = place
      · subst here
        rw [found] at there
        cases there
        exact this
      · exact absent p line' (by rwa [Function.update_of_ne here])

end Ledger

/-! ## Changes -/

/-- What is told is what becomes of the lines at the places: a line is opened where there was none,
closed where there is none any more, and never exchanged. -/
structure Shift (lines lines' : LinePlace → Option (NumberedLine β))
    (events : List (LineEvent (NumberedLine β))) : Prop where
  opened : ∀ line, .opened line ∈ events ↔ ∃ p, lines p = none ∧ lines' p = some line
  closed : ∀ line, .closed line ∈ events ↔ ∃ p, lines p = some line ∧ lines' p = none
  kept : ∀ {p line line'}, lines p = some line → lines' p = some line' → line = line'

namespace Shift

variable {lines lines' lines'' : LinePlace → Option (NumberedLine β)}
  {events events' : List (LineEvent (NumberedLine β))} {place : LinePlace} {line : NumberedLine β}

theorem refl (lines : LinePlace → Option (NumberedLine β)) : Shift lines lines [] := by
  refine ⟨?_, ?_, ?_⟩
  · intro line
    simp only [List.not_mem_nil, false_iff]
    rintro ⟨p, none, some⟩
    cases none.symm.trans some
  · intro line
    simp only [List.not_mem_nil, false_iff]
    rintro ⟨p, some, none⟩
    cases none.symm.trans some
  · intro p line line' found found'
    exact Option.some.inj (found.symm.trans found')

theorem start (free : lines place = none) :
    Shift lines (Function.update lines place (some line)) [.opened line] := by
  have elsewhere : ∀ {q line'}, lines q = some line' → q ≠ place := by
    rintro q line' found rfl
    cases free.symm.trans found
  refine ⟨?_, ?_, ?_⟩
  · intro line'
    simp only [List.mem_singleton, LineEvent.opened.injEq]
    constructor
    · rintro rfl
      exact ⟨place, free, Function.update_self ..⟩
    · rintro ⟨p, none, some⟩
      by_cases here : p = place
      · subst here
        rw [Function.update_self] at some
        exact (Option.some.inj some).symm
      · rw [Function.update_of_ne here] at some
        cases none.symm.trans some
  · intro line'
    simp only [List.mem_singleton, reduceCtorEq, false_iff]
    rintro ⟨p, some, none⟩
    rw [Function.update_of_ne (elsewhere some)] at none
    cases none.symm.trans some
  · intro p line₁ line₂ found found'
    rw [Function.update_of_ne (elsewhere found)] at found'
    exact Option.some.inj (found.symm.trans found')

theorem close (found : lines place = some line) :
    Shift lines (Function.update lines place none) [.closed line] := by
  have elsewhere : ∀ {q line'}, Function.update lines place none q = some line' →
      lines q = some line' := fun there => (found_of_update_none there).2
  refine ⟨?_, ?_, ?_⟩
  · intro line'
    simp only [List.mem_singleton, reduceCtorEq, false_iff]
    rintro ⟨p, none, some⟩
    cases none.symm.trans (elsewhere some)
  · intro line'
    simp only [List.mem_singleton, LineEvent.closed.injEq]
    constructor
    · rintro rfl
      exact ⟨place, found, Function.update_self ..⟩
    · rintro ⟨p, some, none⟩
      by_cases here : p = place
      · subst here
        exact Option.some.inj (some.symm.trans found)
      · rw [Function.update_of_ne here] at none
        cases none.symm.trans some
  · intro p line₁ line₂ before after
    exact Option.some.inj (before.symm.trans (elsewhere after))

/-- One change after another, if the first takes no line away and the second none that the first
brought. -/
theorem trans (first : Shift lines lines' events) (second : Shift lines' lines'' events')
    (there : ∀ {p line}, lines p = some line → lines' p = some line)
    (stays : ∀ p, lines p = none → lines'' p = none → lines' p = none) :
    Shift lines lines'' (events ++ events') := by
  refine ⟨?_, ?_, ?_⟩
  · intro line
    rw [List.mem_append, first.opened, second.opened]
    constructor
    · rintro (⟨p, none, some⟩ | ⟨p, none, some⟩)
      · cases after : lines'' p with
        | none => cases (stays p none after).symm.trans some
        | some line' => exact ⟨p, none, second.kept some after ▸ after⟩
      · cases before : lines p with
        | none => exact ⟨p, before, some⟩
        | some line' => cases none.symm.trans (there before)
    · rintro ⟨p, none, some⟩
      cases between : lines' p with
      | none => exact Or.inr ⟨p, between, some⟩
      | some line' => exact Or.inl ⟨p, none, second.kept between some ▸ between⟩
  · intro line
    rw [List.mem_append, first.closed, second.closed]
    constructor
    · rintro (⟨p, some, none⟩ | ⟨p, some, none⟩)
      · cases none.symm.trans (there some)
      · cases before : lines p with
        | none => cases (stays p before none).symm.trans some
        | some line' => exact ⟨p, first.kept before some ▸ before, none⟩
    · rintro ⟨p, some, none⟩
      exact Or.inr ⟨p, there some, none⟩
  · intro p line line' before after
    exact second.kept (there before) after

/-- A line is opened, and is still there after what follows. -/
theorem after_start (shift : Shift (Function.update lines place (some line)) lines' events)
    (free : lines place = none) (still : ∃ line', lines' place = some line') :
    Shift lines lines' (.opened line :: events) := by
  have elsewhere : ∀ {p}, (∀ line', lines p = some line' → p ≠ place) := by
    rintro p line' there rfl
    cases free.symm.trans there
  refine (start free).trans shift ?_ ?_
  · intro p line' there
    rwa [Function.update_of_ne (elsewhere _ there)]
  · intro p before after
    have apart : p ≠ place := by
      rintro rfl
      obtain ⟨line', found⟩ := still
      cases after.symm.trans found
    rwa [Function.update_of_ne apart]

end Shift

end Openings

end SensorMonitor
