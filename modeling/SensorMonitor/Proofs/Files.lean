/-
# Proofs.Files -- what is left where it was

The way to a path leads over directories only.  So whatever leaves the directories where
they are leaves every way as it is (`locate_of_keeps`), and a way that ends in dots leads to
a directory (`locate_dots`): a file is found only by its name (`read_eq_ok_iff`).  Directories
are made where nothing was (`grows_makeDirectories`), and writing and moving change no
directory (`write_eq_ok_iff`, `rename_eq_ok`).
-/
import Mathlib.Data.List.Basic
import SensorMonitor.Files

namespace SensorMonitor.Files

set_option autoImplicit false

/-! ## Nodes -/

theorem node?_nil (files : Files) : files.node? [] = some .directory := rfl

theorem node?_of_ne_nil (files : Files) {elements : List String} (some_ : elements ≠ []) :
    files.node? elements = files.nodes[place elements]? := by
  unfold node?
  rw [if_neg (by simpa using some_)]

/-- Both lists of elements name one entry. -/
def SamePlace (elements elements' : List String) : Prop :=
  elements ≠ [] ∧ place elements = place elements'

instance (elements elements' : List String) : Decidable (SamePlace elements elements') :=
  inferInstanceAs (Decidable (_ ∧ _))

/-- A change of the entry at one place changes the node there and no other. -/
theorem node?_change {before after : Files} {elements : List String} {node : Option FileNode}
    (change : ∀ path, after.nodes[path]? =
      if place elements = path then node else before.nodes[path]?) (others : List String) :
    after.node? others = if SamePlace others elements then node else before.node? others := by
  cases others with
  | nil => rw [if_neg (fun same => same.1 rfl), node?_nil, node?_nil]
  | cons first rest =>
      rw [node?_of_ne_nil after (by simp), node?_of_ne_nil before (by simp), change]
      unfold SamePlace
      by_cases same : place elements = place (first :: rest)
      · simp [same]
      · simp [same, Ne.symm same]

theorem node?_put (files : Files) (elements : List String) (node : FileNode)
    (others : List String) : (files.put elements node).node? others =
      if SamePlace others elements then some node else files.node? others := by
  refine node?_change (fun path => ?_) others
  unfold put
  rw [Std.TreeMap.getElem?_insert]
  simp

theorem node?_erase (files : Files) (elements others : List String) :
    (files.erase elements).node? others =
      if SamePlace others elements then none else files.node? others := by
  refine node?_change (fun path => ?_) others
  unfold erase
  rw [Std.TreeMap.getElem?_erase]
  simp

/-- Two lists of elements with one place have one node. -/
theorem SamePlace.node?_eq (files : Files) {elements elements' : List String}
    (same : SamePlace elements elements') (some_ : elements' ≠ []) :
    files.node? elements = files.node? elements' := by
  rw [node?_of_ne_nil files same.1, node?_of_ne_nil files some_, same.2]

/-- Entries of one directory with different names have different places. -/
theorem SamePlace.name_eq {here : List String} {name name' : String}
    (same : SamePlace (here ++ [name]) (here ++ [name'])) : name = name' := by
  have places := same.2
  unfold place at places
  cases here with
  | nil => simpa using places
  | cons first rest =>
      rw [String.intercalate_append_of_ne_nil (by simp) (by simp),
        String.intercalate_append_of_ne_nil (by simp) (by simp)] at places
      simpa using places

/-! ## Walking -/

theorem entry_eq_ok_iff {here there : List String} {name : String} :
    entry here name = .ok there ↔ name.utf8ByteSize ≤ Path.nameLimit ∧ here ++ [name] = there := by
  unfold entry
  by_cases long : Path.nameLimit < name.utf8ByteSize
  · rw [if_pos long]
    simp [Nat.not_le.2 long]
  · rw [if_neg long]
    simp [Nat.le_of_not_lt long]

/-- The next directory is the same one, the one above, or an entry that is a directory. -/
theorem enter_eq_ok_iff {files : Files} {here there : List String} {piece : String} :
    files.enter here piece = .ok there ↔
      if piece = "." then here = there
      else if piece = ".." then here.dropLast = there
      else entry here piece = .ok there ∧ files.node? there = some .directory := by
  unfold enter
  split
  · exact ⟨Except.ok.inj, congrArg _⟩
  · split
    · exact ⟨Except.ok.inj, congrArg _⟩
    · cases named : entry here piece with
      | error cause => simp
      | ok elements =>
          dsimp only
          cases stands : files.node? elements with
          | none =>
              refine ⟨fun refused => (by cases refused), fun there_ => ?_⟩
              obtain rfl : elements = there := Except.ok.inj there_.1
              cases stands.symm.trans there_.2
          | some node =>
              cases node with
              | file bytes =>
                  refine ⟨fun refused => (by cases refused), fun there_ => ?_⟩
                  obtain rfl : elements = there := Except.ok.inj there_.1
                  cases stands.symm.trans there_.2
              | directory =>
                  refine ⟨fun there_ => ?_, fun there_ => there_.1⟩
                  cases there_
                  exact ⟨rfl, stands⟩

/-- Every directory is still there. -/
def Keeps (before after : Files) : Prop :=
  ∀ elements, before.node? elements = some .directory → after.node? elements = some .directory

/-- The elements lead from directory to directory. -/
def Stands (files : Files) (here : List String) : Prop :=
  ∀ n, files.node? (here.take n) = some .directory

section Walking

variable {files before after : Files} {path : Path} {here there elements : List String}

theorem Keeps.refl (files : Files) : Keeps files files := fun _ => id

theorem Keeps.trans {later : Files} (first : Keeps before after) (second : Keeps after later) :
    Keeps before later :=
  fun elements there => second elements (first elements there)

theorem enter_of_keeps (keeps : Keeps before after) {piece : String}
    (entered : before.enter here piece = .ok there) : after.enter here piece = .ok there := by
  rw [enter_eq_ok_iff] at entered ⊢
  split
  · rwa [if_pos ‹_›] at entered
  · rw [if_neg ‹_›] at entered
    split
    · rwa [if_pos ‹_›] at entered
    · rw [if_neg ‹_›] at entered
      exact ⟨entered.1, keeps there entered.2⟩

theorem walk_of_keeps (keeps : Keeps before after) {pieces : List String}
    (walked : pieces.foldlM before.enter here = .ok there) :
    pieces.foldlM after.enter here = .ok there := by
  induction pieces generalizing here with
  | nil => exact walked
  | cons piece rest ih =>
      rw [List.foldlM_cons] at walked ⊢
      obtain ⟨next, entered, walked⟩ := bind_eq_ok walked
      rw [enter_of_keeps keeps entered]
      exact ih walked

theorem Stands.nil (files : Files) : Stands files [] := fun n => by rw [List.take_nil, node?_nil]

theorem Stands.directory (stands : Stands files here) : files.node? here = some .directory := by
  have whole := stands here.length
  rwa [List.take_length] at whole

/-- From a directory one comes to a directory. -/
theorem Stands.enter (stands : Stands files here) {piece : String}
    (entered : files.enter here piece = .ok there) : Stands files there := by
  rw [enter_eq_ok_iff] at entered
  intro n
  split at entered
  · exact entered ▸ stands n
  · split at entered
    · rw [← entered, List.dropLast_eq_take, List.take_take]
      exact stands _
    · obtain ⟨named, directory⟩ := entered
      obtain ⟨-, rfl⟩ := entry_eq_ok_iff.1 named
      by_cases short : n ≤ here.length
      · rw [List.take_append_of_le_length short]
        exact stands n
      · rw [List.take_of_length_le (by simp; omega)]
        exact directory

theorem Stands.walk {pieces : List String} (stands : Stands files here)
    (walked : pieces.foldlM files.enter here = .ok there) : Stands files there := by
  induction pieces generalizing here with
  | nil =>
      cases walked
      exact stands
  | cons piece rest ih =>
      rw [List.foldlM_cons] at walked
      obtain ⟨next, entered, walked⟩ := bind_eq_ok walked
      exact ih (stands.enter entered) walked

/-- A path is walked to its last step, which is entered if it is dots, and is else the name of an
entry.  Without steps the path leads to the top. -/
theorem locate_eq_ok_iff : files.locate path = .ok elements ↔ path.flaw? = none ∧
    ∃ here, path.steps.dropLast.foldlM files.enter [] = .ok here ∧
      match path.steps.getLast? with
      | none => here = elements
      | some last => (if path.ending = .dots then files.enter here last else entry here last) =
          .ok elements := by
  unfold locate
  cases path.flaw? with
  | some flaw => simp
  | none =>
      cases path.steps.dropLast.foldlM files.enter [] with
      | error cause => simp
      | ok here =>
          cases path.steps.getLast? with
          | none => simp
          | some last => simp

theorem locate_of_keeps (keeps : Keeps before after) (located : before.locate path = .ok elements) :
    after.locate path = .ok elements := by
  rw [locate_eq_ok_iff] at located ⊢
  obtain ⟨flawless, here, walked, last⟩ := located
  refine ⟨flawless, here, walk_of_keeps keeps walked, ?_⟩
  cases step : path.steps.getLast? with
  | none => rwa [step] at last
  | some piece =>
      rw [step] at last
      dsimp only at last ⊢
      split
      · rw [if_pos ‹_›] at last
        exact enter_of_keeps keeps last
      · rwa [if_neg ‹_›] at last

/-- A path that ends in dots or nothing leads to a directory. -/
theorem locate_dots (dots : path.ending = .dots) (located : files.locate path = .ok elements) :
    files.node? elements = some .directory := by
  obtain ⟨-, here, walked, last⟩ := locate_eq_ok_iff.1 located
  have stands : Stands files here := (Stands.nil files).walk walked
  cases step : path.steps.getLast? with
  | none =>
      rw [step] at last
      exact last ▸ stands.directory
  | some piece =>
      rw [step] at last
      dsimp only at last
      rw [if_pos dots] at last
      exact (stands.enter last).directory

end Walking

/-! ## Names alone -/

namespace Path

/-- A text that is the name of an entry, and nothing else. -/
def IsName (text : String) : Prop :=
  ('/' ∉ text.toList ∧ '\x00' ∉ text.toList) ∧ text ∉ ["", ".", ".."] ∧
    text.utf8ByteSize ≤ nameLimit

instance (text : String) : Decidable (IsName text) := inferInstanceAs (Decidable (_ ∧ _))

variable {name : String}

theorem ofText_name (named : IsName name) : ofText name = ⟨[name]⟩ := by
  have alone := String.toList_split_intercalate (c := '/') (l := [name])
    (fun piece member => List.mem_singleton.1 member ▸ named.1.1)
  rw [String.intercalate_singleton] at alone
  exact congrArg Path.mk alone

theorem flaw?_name (named : IsName name) : flaw? ⟨[name]⟩ = none := by
  obtain ⟨⟨-, whole⟩, some_, short⟩ := named
  have fits : ¬ sizeLimit < name.utf8ByteSize := by
    unfold nameLimit at short
    unfold sizeLimit
    omega
  have text_ : text ⟨[name]⟩ = name := String.intercalate_singleton
  simp only [List.mem_cons, not_or] at some_
  unfold flaw?
  rw [text_, String.contains_char_eq]
  simp [whole, some_.1, fits]

theorem steps_name (named : IsName name) : steps ⟨[name]⟩ = [name] := by
  have some_ : name ≠ "" := fun empty => named.2.1 (by rw [empty]; simp)
  exact List.filter_cons_of_pos (by simpa using some_)

theorem ending_name (named : IsName name) : ending ⟨[name]⟩ = .name := by
  have some_ := named.2.1
  simp only [List.mem_cons, List.not_mem_nil, or_false, not_or] at some_
  unfold ending
  rw [steps_name named, List.getLast?_singleton]
  split
  · next none_ => cases none_
  · next dot =>
      cases dot
      exact absurd rfl some_.2.1
  · next dots =>
      cases dots
      exact absurd rfl some_.2.2
  · simp [some_.1]

theorem upward_parent_name (named : IsName name) : (parent ⟨[name]⟩).upward = [] := by
  have leads_ : leads name = true := by
    have some_ := named.2.1
    simp only [List.mem_cons, List.not_mem_nil, or_false, not_or] at some_
    unfold leads
    simp [some_.1, some_.2.1]
  have alone : ascending [name] = [⟨[name]⟩] := by
    unfold ascending
    rw [if_pos leads_]
    rfl
  unfold parent upward
  rw [List.reverse_singleton, alone]
  rfl

end Path

/-- A name leads to the entry of the top with this name. -/
theorem locate_name {name : String} (named : Path.IsName name) (files : Files) :
    files.locate ⟨[name]⟩ = .ok [name] := by
  refine locate_eq_ok_iff.2 ⟨Path.flaw?_name named, [], ?_, ?_⟩
  · rw [Path.steps_name named]
    rfl
  · rw [Path.steps_name named, List.getLast?_singleton]
    dsimp only
    rw [if_neg (by rw [Path.ending_name named]; decide)]
    exact entry_eq_ok_iff.2 ⟨named.2.2, rfl⟩

/-! ## Reading -/

/-- What is read was found. -/
theorem find_of_read {files : Files} {path : Path} {bytes : ByteArray}
    (read : files.read path = .ok bytes) : files.find path = .ok (.file bytes) := by
  unfold Files.read at read
  cases found : files.find path with
  | error cause =>
      rw [found] at read
      cases read
  | ok node =>
      cases node with
      | directory =>
          rw [found] at read
          cases read
      | file bytes' =>
          rw [found] at read
          cases read
          rfl

/-- A file is found by its name only. -/
theorem read_eq_ok_iff {files : Files} {path : Path} {bytes : ByteArray} :
    files.read path = .ok bytes ↔ path.ending = .name ∧
      ∃ elements, files.locate path = .ok elements ∧
        files.node? elements = some (.file bytes) := by
  unfold read find
  cases located : files.locate path with
  | error cause => simp
  | ok elements =>
      dsimp only
      cases stands : files.node? elements with
      | none => simp [stands]
      | some node =>
          cases node with
          | directory => simp [stands]
          | file bytes' =>
              cases ends : path.ending with
              | name => simp [stands]
              | slash => simp
              | dots => cases (locate_dots ends located).symm.trans stands

/-- The text of a file that was written as a text. -/
theorem readText_of_read {files : Files} {path : Path} {text : String}
    (read : files.read path = .ok text.toUTF8) : files.readText path = .ok text := by
  have valid : String.fromUTF8? text.toUTF8 = some text := by
    unfold String.fromUTF8?
    rw [dif_pos (show text.toUTF8.IsValidUTF8 from text.isValidUTF8)]
    rfl
  unfold Files.readText
  rw [read]
  dsimp only
  rw [valid]

/-! ## Making directories -/

/-- Directories stay and may be more, and the files are the same. -/
structure Grows (before after : Files) : Prop where
  keeps : Keeps before after
  files : ∀ elements bytes,
    after.node? elements = some (.file bytes) ↔ before.node? elements = some (.file bytes)

section Making

variable {files made : Files} {path : Path}

theorem Grows.refl (files : Files) : Grows files files := ⟨.refl files, fun _ _ => Iff.rfl⟩

theorem Grows.trans {later : Files} (first : Grows files made) (second : Grows made later) :
    Grows files later :=
  ⟨first.keeps.trans second.keeps,
    fun elements bytes => (second.files elements bytes).trans (first.files elements bytes)⟩

theorem grows_makeDirectory (done : files.makeDirectory path = .ok made) : Grows files made := by
  unfold makeDirectory at done
  cases located : files.locate path with
  | error cause =>
      rw [located] at done
      cases done
  | ok elements =>
      rw [located] at done
      dsimp only at done
      split at done
      · cases done
      · next free =>
          cases done
          have nothing : files.node? elements = none := by
            simp only [Bool.or_eq_true, not_or] at free
            simpa using free.2
          have some_ : elements ≠ [] := fun top => by
            rw [top] at nothing
            cases nothing
          refine ⟨fun others directory => ?_, fun others bytes => ?_⟩
          · rw [node?_put]
            split
            · rfl
            · exact directory
          · rw [node?_put]
            split
            · next same => simp [same.node?_eq files some_, nothing]
            · exact Iff.rfl

theorem grows_ensureDirectory (done : files.ensureDirectory path = .ok made) :
    Grows files made := by
  unfold ensureDirectory at done
  cases new : files.makeDirectory path with
  | ok made' =>
      rw [new] at done
      cases done
      exact grows_makeDirectory new
  | error cause =>
      rw [new] at done
      dsimp only at done
      split at done
      · cases done
        exact .refl files
      · cases done

theorem grows_makeUpward (files : Files) (paths : List Path) :
    Grows files (files.makeUpward paths).1 := by
  induction paths with
  | nil => exact .refl files
  | cons path above ih =>
      unfold makeUpward
      cases first : files.ensureDirectory path with
      | ok made => exact grows_ensureDirectory first
      | error cause =>
          dsimp only
          split
          · generalize files.makeUpward above = result at ih ⊢
            obtain ⟨made, (cause | ⟨⟩)⟩ := result
            · exact ih
            · dsimp only
              cases again : made.ensureDirectory path with
              | error cause => exact ih
              | ok made' => exact ih.trans (grows_ensureDirectory again)
          · exact .refl files

/-- **Directories are made where nothing was**, and no file is touched. -/
theorem grows_makeDirectories (files : Files) (path : Path) :
    Grows files (files.makeDirectories path).1 := grows_makeUpward files path.upward

end Making

/-! ## Writing and moving -/

section Writing

variable {files after : Files} {path target : Path} {bytes : ByteArray}

/-- A file is written where its name is, and no directory was there. -/
theorem write_eq_ok_iff : files.write path bytes = .ok after ↔ path.ending = .name ∧
    ∃ elements, files.locate path = .ok elements ∧ files.node? elements ≠ some .directory ∧
      files.put elements (.file bytes) = after := by
  unfold write
  cases files.locate path with
  | error cause => simp
  | ok elements =>
      dsimp only
      cases path.ending with
      | slash => simp
      | dots => simp
      | name =>
          cases stands : files.node? elements with
          | none => simp [stands]
          | some node => cases node <;> simp [stands]

/-- What is moved is a file, and it takes a place by its name where no directory was. -/
theorem rename_eq_ok (done : files.rename path target = .ok after) : target.ending = .name ∧
    ∃ old new bytes, files.locate path = .ok old ∧ files.locate target = .ok new ∧
      files.read path = .ok bytes ∧ files.node? new ≠ some .directory ∧
      after = (files.erase old).put new (.file bytes) := by
  unfold rename at done
  cases located : files.locate path with
  | error cause =>
      rw [located] at done
      cases done
  | ok old =>
      cases located' : files.locate target with
      | error cause =>
          rw [located, located'] at done
          cases done
      | ok new =>
          rw [located, located'] at done
          dsimp only at done
          split at done
          · cases done
          · next apart =>
              cases read : files.read path with
              | error cause =>
                  rw [read] at done
                  cases done
              | ok bytes =>
                  rw [read] at done
                  dsimp only at done
                  cases ends : target.ending with
                  | dots => exact absurd ends apart
                  | slash =>
                      rw [ends] at done
                      cases done
                  | name =>
                      rw [ends] at done
                      refine ⟨rfl, old, new, bytes, rfl, rfl, rfl, ?_, ?_⟩
                      · intro directory
                        rw [directory] at done
                        cases done
                      · split at done
                        · cases done
                        · cases done
                        · cases done
                          rfl

theorem ne_nil_of_free {elements : List String} (free : files.node? elements ≠ some .directory) :
    elements ≠ [] := by
  rintro rfl
  exact free rfl

/-- Where no directory is, a change of the entry leaves the directories. -/
theorem not_samePlace_of_free {elements others : List String}
    (free : files.node? elements ≠ some .directory)
    (directory : files.node? others = some .directory) : ¬ SamePlace others elements :=
  fun same => free (same.node?_eq files (ne_nil_of_free free) ▸ directory)

theorem keeps_put {elements : List String} (free : files.node? elements ≠ some .directory)
    (node : FileNode) : Keeps files (files.put elements node) := by
  intro others directory
  rw [node?_put, if_neg (not_samePlace_of_free free directory)]
  exact directory

theorem keeps_erase {elements : List String} (free : files.node? elements ≠ some .directory) :
    Keeps files (files.erase elements) := by
  intro others directory
  rw [node?_erase, if_neg (not_samePlace_of_free free directory)]
  exact directory

theorem node?_put_self {elements : List String} (some_ : elements ≠ []) (node : FileNode) :
    (files.put elements node).node? elements = some node := by
  rw [node?_put, if_pos ⟨some_, rfl⟩]

/-- What is written can be read. -/
theorem read_of_write (written : files.write path bytes = .ok after) :
    after.read path = .ok bytes := by
  obtain ⟨ends, elements, located, free, rfl⟩ := write_eq_ok_iff.1 written
  refine read_eq_ok_iff.2 ⟨ends, elements, locate_of_keeps (keeps_put free _) located, ?_⟩
  exact node?_put_self (ne_nil_of_free free) _

/-- A file that is there can be written again. -/
theorem exists_write {old : ByteArray} (read : files.read path = .ok old) (bytes : ByteArray) :
    ∃ after, files.write path bytes = .ok after := by
  obtain ⟨ends, elements, located, stands⟩ := read_eq_ok_iff.1 read
  exact ⟨_, write_eq_ok_iff.2 ⟨ends, elements, located, by rw [stands]; simp, rfl⟩⟩

/-- What is moved can be read at its new place. -/
theorem read_of_rename (moved : files.rename path target = .ok after)
    (read : files.read path = .ok bytes) : after.read target = .ok bytes := by
  obtain ⟨ends, old, new, bytes', found, found', read', free, rfl⟩ := rename_eq_ok moved
  obtain rfl : bytes = bytes' := Except.ok.inj (read.symm.trans read')
  obtain ⟨-, old', located, stands⟩ := read_eq_ok_iff.1 read
  obtain rfl : old = old' := Except.ok.inj (found.symm.trans located)
  have erased : Keeps files (files.erase old) := keeps_erase (by rw [stands]; simp)
  have free' : (files.erase old).node? new ≠ some .directory := by
    rw [node?_erase]
    split
    · simp
    · exact free
  refine read_eq_ok_iff.2 ⟨ends, new, ?_, node?_put_self (ne_nil_of_free free) _⟩
  exact locate_of_keeps (erased.trans (keeps_put free' _)) found'

/-- A file can be written under a name unless a directory has it. -/
theorem write_name {name : String} (named : Path.IsName name)
    (free : files.node? [name] ≠ some .directory) (bytes : ByteArray) :
    files.write ⟨[name]⟩ bytes = .ok (files.put [name] (.file bytes)) :=
  write_eq_ok_iff.2 ⟨Path.ending_name named, [name], locate_name named files, free, rfl⟩

/-- Where one file is written, another can still be. -/
theorem exists_write_after {bytes' : ByteArray} {other : Files}
    (written : files.write path bytes = .ok after)
    (possible : files.write target bytes' = .ok other) :
    ∃ later, after.write target bytes' = .ok later := by
  obtain ⟨-, elements, -, free, rfl⟩ := write_eq_ok_iff.1 written
  obtain ⟨ends, elements', located, free', -⟩ := write_eq_ok_iff.1 possible
  refine ⟨_, write_eq_ok_iff.2 ⟨ends, elements', ?_, ?_, rfl⟩⟩
  · exact locate_of_keeps (keeps_put free _) located
  · rw [node?_put]
    split
    · simp
    · exact free'

/-- A file can be moved to where one can be written. -/
theorem exists_rename {bytes' : ByteArray} {other : Files} (read : files.read path = .ok bytes)
    (possible : files.write target bytes' = .ok other) :
    ∃ moved, files.rename path target = .ok moved := by
  obtain ⟨-, old, located, -⟩ := read_eq_ok_iff.1 read
  obtain ⟨ends, new, located', free, -⟩ := write_eq_ok_iff.1 possible
  unfold rename
  rw [located, located', read, ends]
  dsimp only
  rw [if_neg (by decide)]
  cases stands : files.node? new with
  | none => exact ⟨_, rfl⟩
  | some node =>
      cases node with
      | file bytes => exact ⟨_, rfl⟩
      | directory => exact absurd stands free

end Writing

end SensorMonitor.Files
