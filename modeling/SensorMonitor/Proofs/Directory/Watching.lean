/-
# Proofs.Directory.Watching -- what a watch tells, and the change that it can miss

Peers show values and go away while a watch is asked now and then (`Vigil`).  A watch knows
an entry by its generation, which starts anew with every entry.  As long as a key stays, an
entry of the same generation is the same entry (`Known.grown`), and the watch tells every
change.  A key that goes away and comes back between two questions may have reached the very
generation that was seen before, and then the watch takes the new entry for the old one
(`Overlooked`).  That, and nothing else, keeps a watch from what is expected of it
(`truthful_iff_never_overlooked`).

Pole: `overlooks_another_registration`, two values of one key of which the second is never told.
-/
import SensorMonitor.Proofs.Number.Same

namespace SensorMonitor

set_option autoImplicit false

/-! ## Generations -/

namespace PeerEntry

/-- The entry is the same one, or has changed its value since. -/
def Grows (old new : PeerEntry) : Prop :=
  old.generation ≤ new.generation ∧ (old.generation = new.generation → new = old)

theorem Grows.refl (entry : PeerEntry) : Grows entry entry := ⟨Nat.le_refl _, fun _ => rfl⟩

theorem Grows.update {old new : PeerEntry} (grows : Grows old new) (x : Float) :
    Grows old (PeerEntry.update (some new) x) := by
  obtain ⟨le, same⟩ := grows
  simp only [PeerEntry.update]
  split
  · exact ⟨le, same⟩
  · show old.generation ≤ new.generation + 1 ∧ (old.generation = new.generation + 1 → _)
    exact ⟨by omega, fun eq => by omega⟩

end PeerEntry

namespace PeerWatch

/-! ## Vigils -/

/-- What can happen around a watch: a value is shown under a key, a key is dropped, the watch
is asked. -/
inductive Move where
  | update (key : String) (x : Float)
  | remove (key : String)
  | ask

/-- What happened; with a question, what stood under the key of the watch and what it told. -/
inductive Note where
  | update (key : String) (x : Float)
  | remove (key : String)
  | asked (found : Option PeerEntry) (told : Option Float)

namespace Note

def isAsked : Note → Bool
  | .asked _ _ => true
  | _ => false

/-- What was found by a question. -/
def found? : Note → Option (Option PeerEntry)
  | .asked found _ => some found
  | _ => none

/-- The value that was told. -/
def told? : Note → Option Float
  | .asked _ told => told
  | _ => none

/-- The key was dropped. -/
def drops (key : String) : Note → Bool
  | .remove other => other = key
  | _ => false

/-- A value was shown under the key, or the key was dropped. -/
def concerns (key : String) : Note → Bool
  | .update other _ => other = key
  | .remove other => other = key
  | .asked _ _ => false

end Note

/-- A directory, a watch, and what has happened so far, the latest first. -/
structure Vigil where
  directory : Directory
  watch : PeerWatch
  log : List Note

namespace Vigil

/-- A new watch for a key. -/
def ofKey (d : Directory) (key : String) : Vigil := ⟨d, .ofKey key, []⟩

/-- What stands under the key of the watch. -/
def found (v : Vigil) : Option PeerEntry := v.directory.lookup v.watch.key

/-- What the watch tells when it is asked now. -/
def answer (v : Vigil) : Option Float := (v.watch.poll v.directory).1

def move (v : Vigil) : Move → Vigil
  | .update key x => { v with
      directory := v.directory.update key x
      log := .update key x :: v.log }
  | .remove key => { v with
      directory := v.directory.remove key
      log := .remove key :: v.log }
  | .ask => { v with
      watch := (v.watch.poll v.directory).2
      log := .asked v.found v.answer :: v.log }

def run (v : Vigil) (moves : List Move) : Vigil := moves.foldl move v

/-- The property holds whenever the watch is asked. -/
def AtEachAsk (v : Vigil) (moves : List Move) (p : Vigil → Prop) : Prop :=
  ∀ before after, moves = before ++ .ask :: after → p (v.run before)

/-! ## What is expected of a watch -/

/-- What happened since the last question. -/
def sinceAsked (v : Vigil) : List Note := v.log.takeWhile (!·.isAsked)

/-- What happened since the key of the watch was dropped the last time. -/
def sinceDropped (v : Vigil) : List Note := v.log.takeWhile (!·.drops v.watch.key)

/-- What the last question found. -/
def lastFound (v : Vigil) : Option (Option PeerEntry) := v.log.findSome? Note.found?

/-- The value that was told last. -/
def lastTold (v : Vigil) : Option Float := v.log.findSome? Note.told?

/-- No value was told since the entry was registered. -/
def Untold (v : Vigil) : Prop := ∀ note ∈ v.sinceDropped, note.told? = none

/-- What is expected of a watch that is asked now: it tells the value of an entry that it has
not told since it was registered, or whose value is another one than it told last, and it
tells nothing where there is no entry or nothing has happened to the key since it was asked
before. -/
structure Truthful (v : Vigil) : Prop where
  tells : ∀ entry, v.found = some entry →
    (v.Untold ∨ ∃ x, v.lastTold = some x ∧ sameValue x entry.value = false) →
    v.answer = some entry.value
  absent : v.found = none → v.answer = none
  quiet : v.lastFound.isSome = true → (∀ note ∈ v.sinceAsked, note.concerns v.watch.key = false) →
    v.answer = none

/-- The key was dropped since the watch was asked before, and what stands there now has
changed as many times as what stood there then. -/
def Overlooked (v : Vigil) : Prop :=
  (∃ note ∈ v.sinceAsked, note.drops v.watch.key = true) ∧
    ∃ old new, v.lastFound = some (some old) ∧ v.found = some new ∧
      new.generation = old.generation

/-! ## What a watch knows -/

/-- The key was not dropped since the watch was asked before. -/
def Stays (v : Vigil) : Prop := ∀ note ∈ v.sinceAsked, note.drops v.watch.key = false

/-- What a watch knows at any time, as long as it has not overlooked anything: the generation
that it found last, and, while the key stays, an entry that grows out of the one it found,
whose value it has told. -/
structure Known (v : Vigil) : Prop where
  seen : v.watch.seen = v.lastFound.bind fun found => found.map (·.generation)
  quiet : v.lastFound.isSome = true → (∀ note ∈ v.sinceAsked, note.concerns v.watch.key = false) →
    v.lastFound = some v.found
  grown : v.Stays → ∀ old, v.lastFound = some (some old) → ∃ new, v.found = some new ∧
    PeerEntry.Grows old new
  told : v.Stays → ∀ old, v.lastFound = some (some old) → ¬ v.Untold ∧ v.lastTold = some old.value

section Asking

variable {v : Vigil}

/-- A watch tells what it finds, unless it has seen the generation. -/
theorem answer_eq (v : Vigil) :
    v.answer = v.found.bind fun entry =>
      if v.watch.seen = some entry.generation then none else some entry.value := by
  simp only [answer, found, poll]
  cases v.directory.lookup v.watch.key with
  | none => rfl
  | some entry =>
      simp only [Option.bind_some]
      split <;> rfl

@[simp] theorem key_move (v : Vigil) (m : Move) : (v.move m).watch.key = v.watch.key := by
  cases m with
  | update key x | remove key => rfl
  | ask =>
      simp only [move, poll]
      split
      · rfl
      · split <;> rfl

theorem seen_ask (v : Vigil) :
    (v.move .ask).watch.seen = v.found.map (·.generation) := by
  simp only [move, found, poll]
  cases v.directory.lookup v.watch.key with
  | none => rfl
  | some entry =>
      simp only [Option.map_some]
      split
      · assumption
      · rfl

/-- The generation that a question finds was seen, and nothing was overlooked: then the entry
is the one that was found before, and its value was told. -/
theorem Known.of_seen (known : v.Known) (sound : ¬ v.Overlooked) {entry : PeerEntry}
    (found : v.found = some entry) (seen : v.watch.seen = some entry.generation) :
    ¬ v.Untold ∧ v.lastTold = some entry.value := by
  rw [known.seen] at seen
  obtain ⟨last, lastFound, seen⟩ := Option.bind_eq_some_iff.1 seen
  obtain ⟨old, rfl, same⟩ := Option.map_eq_some_iff.1 seen
  have stays : v.Stays := by
    intro note member
    by_contra dropped
    exact sound ⟨⟨note, member, by simpa using dropped⟩, old, entry, lastFound, found, same.symm⟩
  obtain ⟨new, found', -, unchanged⟩ := known.grown stays old lastFound
  obtain rfl : entry = new := Option.some.inj (found.symm.trans found')
  rw [unchanged same]
  exact known.told stays old lastFound

/-- **A watch that knows what it should is truthful**, unless it overlooks something now. -/
theorem Known.truthful (known : v.Known) (sound : ¬ v.Overlooked) : v.Truthful := by
  refine ⟨?_, ?_, ?_⟩
  · intro entry found expected
    rw [answer_eq, found, Option.bind_some, if_neg]
    intro seen
    obtain ⟨told, last⟩ := known.of_seen sound found seen
    rcases expected with untold | ⟨x, last', differs⟩
    · exact told untold
    · obtain rfl : x = entry.value := Option.some.inj (last'.symm.trans last)
      exact absurd (sameValue_refl entry.value) (by simp [differs])
  · intro absent
    rw [answer_eq, absent, Option.bind_none]
  · intro asked undisturbed
    have same := known.quiet asked undisturbed
    have seen : v.watch.seen = v.found.map (·.generation) := by
      rw [known.seen, same, Option.bind_some]
    rw [answer_eq, seen]
    cases v.found with
    | none => rfl
    | some entry => simp

/-- What happened since something that happened after the last question is later too. -/
theorem mem_takeWhile_of_stop {p stop : Note → Bool} {log : List Note} {a : Note}
    (member : a ∈ log.takeWhile p) (stops : stop a = true) :
    ∀ b ∈ log.takeWhile (!stop ·), b ∈ log.takeWhile p := by
  induction log with
  | nil => simp
  | cons first rest ih =>
      intro b late
      by_cases goes : p first = true
      · rw [List.takeWhile_cons_of_pos goes] at member ⊢
        by_cases here : stop first = true
        · rw [List.takeWhile_cons_of_neg (by simp [here])] at late
          simp at late
        · rw [List.takeWhile_cons_of_pos (by simp [here])] at late
          have further : a ∈ rest.takeWhile p := by
            rcases List.mem_cons.1 member with rfl | further
            · exact absurd stops here
            · exact further
          rcases List.mem_cons.1 late with rfl | later
          · exact List.mem_cons_self
          · exact List.mem_cons_of_mem _ (ih further b later)
      · rw [List.takeWhile_cons_of_neg goes] at member
        simp at member

/-- Overlooking something is not truthful: an entry that nobody was told of is kept back. -/
theorem Known.not_truthful (known : v.Known) (overlooked : v.Overlooked) : ¬ v.Truthful := by
  obtain ⟨⟨note, member, drops⟩, old, new, lastFound, found, same⟩ := overlooked
  intro truthful
  have untold : v.Untold := by
    intro other late
    have unasked := List.mem_takeWhile_imp (mem_takeWhile_of_stop member drops other late)
    cases other <;> simp_all [Note.isAsked, Note.told?]
  have told := truthful.tells new found (Or.inl untold)
  rw [answer_eq, found, Option.bind_some, if_pos] at told
  · cases told
  · rw [known.seen, lastFound, Option.bind_some, Option.map_some, same]

end Asking

/-! ## Moves -/

section Moves

variable {v : Vigil}

theorem known_ofKey (d : Directory) (key : String) : (ofKey d key).Known :=
  ⟨rfl, nofun, fun _ _ => nofun, fun _ _ => nofun⟩

theorem Known.update (known : v.Known) (key : String) (x : Float) :
    (v.move (.update key x)).Known := by
  have unasked : (v.move (.update key x)).sinceAsked = .update key x :: v.sinceAsked := rfl
  have undropped : (v.move (.update key x)).sinceDropped = .update key x :: v.sinceDropped := rfl
  have found : (v.move (.update key x)).found =
      if key = v.watch.key then some (PeerEntry.update v.found x) else v.found := by
    show (v.directory.update key x).lookup v.watch.key = _
    rw [Directory.lookup_update]
    split
    · next here => rw [here]; rfl
    · rfl
  have stays : (v.move (.update key x)).Stays → v.Stays := by
    intro stays note member
    exact stays note (by rw [unasked]; exact List.mem_cons_of_mem _ member)
  refine ⟨known.seen, ?_, ?_, ?_⟩
  · intro asked undisturbed
    rw [unasked] at undisturbed
    obtain ⟨apart, rest⟩ := List.forall_mem_cons.1 undisturbed
    have apart : key ≠ v.watch.key := by simpa [Note.concerns] using apart
    rw [found, if_neg apart]
    exact known.quiet asked rest
  · intro stays' old lastFound
    obtain ⟨new, present, grows⟩ := known.grown (stays stays') old lastFound
    rw [found, present]
    split
    · exact ⟨_, rfl, grows.update x⟩
    · exact ⟨new, rfl, grows⟩
  · intro stays' old lastFound
    obtain ⟨told, last⟩ := known.told (stays stays') old lastFound
    refine ⟨fun untold => told fun note member => untold note ?_, last⟩
    rw [undropped]
    exact List.mem_cons_of_mem _ member

theorem Known.remove (known : v.Known) (key : String) : (v.move (.remove key)).Known := by
  have unasked : (v.move (.remove key)).sinceAsked = .remove key :: v.sinceAsked := rfl
  have found : (v.move (.remove key)).found =
      if key = v.watch.key then none else v.found :=
    v.directory.lookup_remove key v.watch.key
  have apart : (v.move (.remove key)).Stays → key ≠ v.watch.key ∧ v.Stays := by
    intro stays
    have := stays (.remove key) (by rw [unasked]; exact List.mem_cons_self)
    refine ⟨by simpa [Note.drops] using this, fun note member => stays note ?_⟩
    rw [unasked]
    exact List.mem_cons_of_mem _ member
  refine ⟨known.seen, ?_, ?_, ?_⟩
  · intro asked undisturbed
    rw [unasked] at undisturbed
    obtain ⟨apart, rest⟩ := List.forall_mem_cons.1 undisturbed
    have apart : key ≠ v.watch.key := by simpa [Note.concerns] using apart
    rw [found, if_neg apart]
    exact known.quiet asked rest
  · intro stays old lastFound
    obtain ⟨apart, stays⟩ := apart stays
    rw [found, if_neg apart]
    exact known.grown stays old lastFound
  · intro stays old lastFound
    obtain ⟨apart, stays⟩ := apart stays
    obtain ⟨told, last⟩ := known.told stays old lastFound
    have undropped : (v.move (.remove key)).sinceDropped = .remove key :: v.sinceDropped :=
      List.takeWhile_cons_of_pos (by simp [Note.drops, apart])
    refine ⟨fun untold => told fun note member => untold note ?_, last⟩
    rw [undropped]
    exact List.mem_cons_of_mem _ member

/-- A question tells what it finds, or finds what was told already. -/
theorem Known.ask (known : v.Known) (sound : ¬ v.Overlooked) : (v.move .ask).Known := by
  have lastFound : (v.move .ask).lastFound = some v.found := rfl
  have found : (v.move .ask).found = v.found := by
    show v.directory.lookup (v.move .ask).watch.key = _
    rw [key_move]
    rfl
  refine ⟨?_, ?_, ?_, ?_⟩
  · rw [seen_ask, lastFound, Option.bind_some]
  · intro _ _
    rw [lastFound, found]
  · intro _ old last
    rw [lastFound] at last
    exact ⟨old, found.trans (Option.some.inj last), .refl old⟩
  · intro _ old last
    rw [lastFound] at last
    have here := Option.some.inj last
    have log : (v.move .ask).log = .asked v.found v.answer :: v.log := rfl
    have since : (v.move .ask).sinceDropped = .asked v.found v.answer :: v.sinceDropped := by
      show List.takeWhile (fun note : Note => !note.drops (v.move .ask).watch.key) _ = _
      rw [key_move]
      rfl
    by_cases seen : v.watch.seen = some old.generation
    · obtain ⟨told, lastTold⟩ := known.of_seen sound here seen
      have silent : v.answer = none := by
        rw [answer_eq, here, Option.bind_some, if_pos seen]
      constructor
      · intro untold
        refine told fun note member => untold note ?_
        rw [since]
        exact List.mem_cons_of_mem _ member
      · show (Note.asked v.found v.answer :: v.log).findSome? Note.told? = _
        rw [silent]
        exact lastTold
    · have tells : v.answer = some old.value := by
        rw [answer_eq, here, Option.bind_some, if_neg seen]
      constructor
      · intro untold
        have := untold (.asked v.found v.answer) (by rw [since]; exact List.mem_cons_self)
        rw [tells] at this
        cases this
      · show (Note.asked v.found v.answer :: v.log).findSome? Note.told? = _
        rw [tells]
        rfl

theorem Known.move (known : v.Known) {m : Move} (sound : m = .ask → ¬ v.Overlooked) :
    (v.move m).Known := by
  cases m with
  | update key x => exact known.update key x
  | remove key => exact known.remove key
  | ask => exact known.ask (sound rfl)

theorem atEachAsk_concat_iff {moves : List Move} {m : Move} {p : Vigil → Prop} :
    v.AtEachAsk (moves ++ [m]) p ↔ v.AtEachAsk moves p ∧ (m = .ask → p (v.run moves)) := by
  constructor
  · intro each
    constructor
    · rintro before after rfl
      exact each before (after ++ [m]) (by simp)
    · rintro rfl
      exact each moves [] rfl
  · rintro ⟨early, now⟩ before after split
    rcases List.eq_nil_or_concat after with rfl | ⟨rest, last, rfl⟩
    · obtain ⟨rfl, last⟩ := List.append_inj' split rfl
      exact now (List.cons.inj last).1
    · rw [List.concat_eq_append, ← List.cons_append, ← List.append_assoc] at split
      obtain ⟨rfl, -⟩ := List.append_inj' split rfl
      exact early before rest rfl

/-- A watch that never overlooked anything knows what it should. -/
theorem Known.run (known : v.Known) {moves : List Move}
    (sound : v.AtEachAsk moves (¬ ·.Overlooked)) : (v.run moves).Known := by
  induction moves using List.reverseRecOn with
  | nil => exact known
  | append_singleton moves m ih =>
      obtain ⟨before, now⟩ := atEachAsk_concat_iff.1 sound
      have step : v.run (moves ++ [m]) = (v.run moves).move m := List.foldl_concat ..
      rw [step]
      exact (ih before).move now

end Moves

/-- **A watch does what is expected of it just as long as it overlooks nothing.**  Whatever the
peers do and whenever it is asked: it is truthful at every question of a run exactly if at no
question of the run the key was dropped since the one before and what stands there now has
changed as many times as what stood there then. -/
theorem truthful_iff_never_overlooked (d : Directory) (key : String) (moves : List Move) :
    (ofKey d key).AtEachAsk moves Truthful ↔
      (ofKey d key).AtEachAsk moves fun v => ¬ v.Overlooked := by
  induction moves using List.reverseRecOn with
  | nil => exact ⟨fun _ _ _ none => by simp at none, fun _ _ _ none => by simp at none⟩
  | append_singleton moves m ih =>
      rw [atEachAsk_concat_iff, atEachAsk_concat_iff, ih]
      refine and_congr_right fun sound => imp_congr_right fun _ => ?_
      have known := (known_ofKey d key).run sound
      exact ⟨fun truthful overlooked => known.not_truthful overlooked truthful, known.truthful⟩

/-- A key is shown, looked at, dropped, and shown again with another value. -/
def anotherRegistration : List Move :=
  [.update "peer" 1, .ask, .remove "peer", .update "peer" 2]

/-- **A value can be missed for good.**  The second value under the key is never told, although
the watch is asked again. -/
theorem overlooks_another_registration :
    let v := (ofKey .empty "peer").run anotherRegistration
    v.found.map (·.value) = some 2 ∧ v.lastTold = some 1 ∧ v.answer = none ∧
      (v.move .ask).answer = none ∧ ¬ v.Truthful := by
  intro v
  have found : v.found = some ⟨2, 0⟩ := by decide
  have told : v.lastTold = some 1 := by decide
  have silent : v.answer = none := by decide
  refine ⟨by rw [found]; rfl, told, silent, by decide, ?_⟩
  intro truthful
  have tells := truthful.tells _ found (Or.inr ⟨1, told, by decide⟩)
  rw [silent] at tells
  cases tells

end Vigil

end PeerWatch

end SensorMonitor
