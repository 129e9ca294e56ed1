/-
# Proofs.Files.Beside -- a file beside another

A path that a file is read or written at ends in a name, the name of an entry of the directory
that the pieces before it lead to (`pieces_of_name`, `locate_of_name`).  Another extension with a
dot in it makes the name another one (`stem_append_ne`).  So a file under such a name is never the
file itself (`not_samePlace_withExtension`): whatever is written there, and whatever directories
are made, the file stays as it was (`Beside.spares`).
-/
import Mathlib.Data.List.TakeWhile
import SensorMonitor.Proofs.Files

namespace SensorMonitor.Files

set_option autoImplicit false

/-! ## Names -/

namespace Path

variable {path : Path} {before : List String} {name : String}

/-- A path that ends in a name has it as its last piece. -/
theorem pieces_of_name (ends : path.ending = .name) :
    ∃ before name, path.pieces = before ++ [name] ∧ name ∉ ["", ".", ".."] := by
  rcases List.eq_nil_or_concat path.pieces with none_ | ⟨before, name, pieces⟩
  · unfold ending steps at ends
    rw [none_] at ends
    cases ends
  · refine ⟨before, name, by rw [pieces, List.concat_eq_append], ?_⟩
    rw [List.concat_eq_append] at pieces
    unfold ending at ends
    rw [pieces] at ends
    by_cases empty : name = ""
    · subst empty
      split at ends
      all_goals simp at ends
    · unfold steps at ends
      rw [pieces, List.filter_append] at ends
      simp only [empty, List.filter_cons_of_pos, List.filter_nil, ne_eq, not_false_eq_true,
        decide_true, List.getLast?_concat] at ends
      split at ends
      · cases ends
      · cases ends
      · cases ends
      · simp_all

/-- The last piece that is a name is the last step. -/
theorem steps_of_pieces (pieces : path.pieces = before ++ [name]) (named : name ≠ "") :
    path.steps = before.filter (· ≠ "") ++ [name] := by
  unfold steps
  rw [pieces, List.filter_append, List.filter_cons_of_pos (by simpa using named),
    List.filter_nil]

/-- With a dot in the extension, a name gets another extension than it had. -/
theorem stem_append_ne {extension : List Char} (dotted : '.' ∈ extension) (name : List Char) :
    stem name ++ '.' :: extension ≠ name := by
  intro same
  have split := List.takeWhile_append_dropWhile (p := (· ≠ '.')) (l := name.reverse)
  have undotted : '.' ∉ name.reverse.takeWhile (· ≠ '.') := fun member => by
    simpa using List.mem_takeWhile_imp member
  unfold stem at same
  generalize name.reverse.takeWhile (· ≠ '.') = old at split undotted
  cases rest : name.reverse.dropWhile (· ≠ '.') with
  | nil =>
      rw [rest] at same
      have longer := congrArg List.length same
      simp at longer
  | cons dot before =>
      rw [rest] at same split
      dsimp only at same
      have dot_ : dot = '.' := by
        have first := List.head?_dropWhile_not (· ≠ '.') name.reverse
        rw [rest] at first
        simpa using first
      split at same
      · have longer := congrArg List.length same
        simp at longer
      · -- what stood behind the last dot would be the extension, which has one more
        have reversed := congrArg List.reverse same
        rw [← split, dot_] at reversed
        simp only [List.reverse_append, List.reverse_cons, List.reverse_reverse,
          List.append_assoc, List.singleton_append] at reversed
        have old_ : extension.reverse = old := List.append_cancel_right reversed
        exact undotted (old_ ▸ List.mem_reverse.2 dotted)

theorem withExtension_eq (pieces : path.pieces = before ++ [name]) (named : name ∉ ["", ".", ".."])
    (extension : String) : path.withExtension extension =
      if stem name.toList = ['.'] then ⟨before ++ [".."]⟩
      else ⟨before ++ [String.ofList (stem name.toList ++ '.' :: extension.toList)]⟩ := by
  simp only [List.mem_cons, List.not_mem_nil, or_false, not_or] at named
  obtain ⟨some_, stays, climbs⟩ := named
  have last : path.splitLast? = some (before, name) := by
    unfold splitLast?
    rw [pieces, List.reverse_concat, List.dropWhile_cons_of_neg (by simp [leads, some_, stays])]
    dsimp only
    rw [List.reverse_reverse]
  have whole : path.pieces.getLast? = some name := by
    rw [pieces, List.getLast?_concat]
  unfold withExtension
  rw [last]
  simp only [whole, and_true]

/-- In the place of the name at the end stands another one. -/
theorem pieces_withExtension (pieces : path.pieces = before ++ [name])
    (named : name ∉ ["", ".", ".."]) {extension : String} (dotted : '.' ∈ extension.toList)
    (ends : (path.withExtension extension).ending = .name) :
    ∃ other, (path.withExtension extension).pieces = before ++ [other] ∧ other ≠ name ∧
      other ≠ "" := by
  obtain ⟨before', other, pieces', named'⟩ := pieces_of_name ends
  rw [withExtension_eq pieces named] at pieces' ⊢
  split at pieces'
  · obtain ⟨rfl⟩ := List.cons.inj (List.append_inj' pieces' rfl).2
    simp at named'
  · refine ⟨_, by rw [if_neg ‹_›], fun same => ?_, fun empty => ?_⟩
    · have characters := congrArg String.toList same
      rw [String.toList_ofList] at characters
      exact stem_append_ne dotted name.toList characters
    · have characters := congrArg String.toList empty
      rw [String.toList_ofList] at characters
      simp at characters

end Path

/-! ## Places -/

section Places

variable {files before after : Files} {path : Path}

/-- A path that ends in a name leads to the entry with this name. -/
theorem locate_of_name {front : List String} {name : String}
    (pieces : path.pieces = front ++ [name]) (named : name ≠ "") (ends : path.ending = .name)
    {elements : List String} (located : files.locate path = .ok elements) :
    ∃ here, (front.filter (· ≠ "")).foldlM files.enter [] = .ok here ∧
      elements = here ++ [name] := by
  obtain ⟨-, here, walked, last⟩ := locate_eq_ok_iff.1 located
  rw [Path.steps_of_pieces pieces named] at walked last
  rw [List.dropLast_concat] at walked
  rw [List.getLast?_concat] at last
  dsimp only at last
  rw [if_neg (by rw [ends]; decide)] at last
  exact ⟨here, walked, (entry_eq_ok_iff.1 last).2.symm⟩

/-- **A file is never the one beside it.** -/
theorem not_samePlace_withExtension {extension : String} (dotted : '.' ∈ extension.toList)
    (ends : path.ending = .name) (ends' : (path.withExtension extension).ending = .name)
    {elements elements' : List String} (located : files.locate path = .ok elements)
    (located' : files.locate (path.withExtension extension) = .ok elements') :
    ¬ SamePlace elements elements' := by
  obtain ⟨front, name, pieces, named⟩ := Path.pieces_of_name ends
  obtain ⟨other, pieces', apart, some_⟩ := Path.pieces_withExtension pieces named dotted ends'
  obtain ⟨here, walked, rfl⟩ := locate_of_name pieces (by rintro rfl; simp at named) ends located
  obtain ⟨here', walked', rfl⟩ := locate_of_name pieces' some_ ends' located'
  obtain rfl : here = here' := Except.ok.inj (walked.symm.trans walked')
  exact fun same => apart same.name_eq.symm

/-- Directories stay, and all files but the one that the path names. -/
structure Beside (path : Path) (before after : Files) : Prop where
  keeps : Keeps before after
  files : ∀ elements, (∃ located, path.ending = .name ∧ after.locate path = .ok located ∧
      SamePlace elements located) ∨
    ∀ bytes, after.node? elements = some (.file bytes) ↔ before.node? elements = some (.file bytes)

theorem Grows.beside (grows : Grows before after) (path : Path) : Beside path before after :=
  ⟨grows.keeps, fun elements => .inr (grows.files elements)⟩

theorem Beside.trans {later : Files} (first : Beside path before after)
    (second : Beside path after later) : Beside path before later := by
  refine ⟨first.keeps.trans second.keeps, fun elements => ?_⟩
  rcases second.files elements with named | same
  · exact .inl named
  · rcases first.files elements with ⟨located, ends, found, place⟩ | same'
    · exact .inl ⟨located, ends, locate_of_keeps second.keeps found, place⟩
    · exact .inr fun bytes => (same bytes).trans (same' bytes)

theorem beside_write {bytes : ByteArray} (written : before.write path bytes = .ok after) :
    Beside path before after := by
  obtain ⟨ends, located, found, free, rfl⟩ := write_eq_ok_iff.1 written
  refine ⟨keeps_put free _, fun elements => ?_⟩
  by_cases place : SamePlace elements located
  · exact .inl ⟨located, ends, locate_of_keeps (keeps_put free _) found, place⟩
  · refine .inr fun bytes' => ?_
    rw [node?_put, if_neg place]

/-- The file at a path stays, and none is new there. -/
structure Spares (path : Path) (before after : Files) : Prop where
  stays : ∀ bytes, before.read path = .ok bytes → after.read path = .ok bytes
  old : ∀ bytes, after.read path = .ok bytes → ∃ elements, after.locate path = .ok elements ∧
    before.node? elements = some (.file bytes)

/-- **What happens beside a file spares it.** -/
theorem Beside.spares {extension : String} (dotted : '.' ∈ extension.toList)
    (beside : Beside (path.withExtension extension) before after) : Spares path before after := by
  have same : ∀ elements, path.ending = .name → after.locate path = .ok elements → ∀ bytes,
      after.node? elements = some (.file bytes) ↔ before.node? elements = some (.file bytes) := by
    intro elements ends located
    rcases beside.files elements with ⟨located', ends', found, place⟩ | same
    · exact absurd place (not_samePlace_withExtension dotted ends ends' located found)
    · exact same
  refine ⟨fun bytes read => ?_, fun bytes read => ?_⟩
  · obtain ⟨ends, elements, located, stands⟩ := read_eq_ok_iff.1 read
    have located' := locate_of_keeps beside.keeps located
    exact read_eq_ok_iff.2 ⟨ends, elements, located', (same elements ends located' bytes).2 stands⟩
  · obtain ⟨ends, elements, located, stands⟩ := read_eq_ok_iff.1 read
    exact ⟨elements, located, (same elements ends located bytes).1 stands⟩

end Places

end SensorMonitor.Files
