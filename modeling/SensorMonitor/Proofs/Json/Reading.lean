/-
# Proofs.Json.Reading -- what is written is read back

A text may write a document with any blanks between the parts of it (`Writes`), and whatever
is written so is read back: from strings and numbers, by induction on the fuel, a whole
document (`readsBack`).  Both layouts write a document of legible numerals and of texts in
this way, so it is what its own text says (`parse?_pretty`, `parse?_compact`).
-/
import SensorMonitor.Proofs.Json.Scalars

namespace SensorMonitor.Json

set_option autoImplicit false

open Number Reader

/-! ## Texts that write a document -/

/-- A document of legible numerals and of texts. -/
inductive Legible : Json → Prop where
  | null : Legible .null
  | bool (b : Bool) : Legible (.bool b)
  | number {n : Numeral} (legible : n.Legible) : Legible (.number n)
  | string (s : String) : Legible (.string (some s))
  | array {items : List Json} (all : ∀ item ∈ items, Legible item) : Legible (.array items)
  | object {members : List (Option String × Json)} (keys : ∀ m ∈ members, m.1.isSome = true)
      (all : ∀ m ∈ members, Legible m.2) : Legible (.object members)

mutual

/-- The text writes the document, with any blanks between the parts of it. -/
inductive Writes : Json → List Char → Prop where
  | null : Writes .null ['n', 'u', 'l', 'l']
  | bool (b : Bool) : Writes (.bool b) (Writer.scalar (.bool b))
  | number {n : Numeral} (legible : n.Legible) : Writes (.number n) (Writer.numeral n)
  | string (s : String) : Writes (.string (some s)) (Writer.string (some s))
  | noItems : Writes (.array []) ['[', ']']
  | noMembers : Writes (.object []) ['\x7b', '\x7d']
  | array {items : List Json} {text : List Char} (inner : WritesItems items text) :
      Writes (.array items) ('[' :: text)
  | object {members : List (Option String × Json)} {text : List Char}
      (inner : WritesMembers members text) : Writes (.object members) ('\x7b' :: text)

/-- The text writes items, up to the closing bracket. -/
inductive WritesItems : List Json → List Char → Prop where
  | last {item : Json} {before text after : List Char} (blank : Blank before)
      (written : Writes item text) (blank' : Blank after) :
      WritesItems [item] (before ++ (text ++ (after ++ [']'])))
  | more {item : Json} {items : List Json} {before text after rest : List Char}
      (blank : Blank before) (written : Writes item text) (blank' : Blank after)
      (others : WritesItems items rest) :
      WritesItems (item :: items) (before ++ (text ++ (after ++ ',' :: rest)))

/-- The text writes a member. -/
inductive WritesMember : Option String × Json → List Char → Prop where
  | mk {key : String} {value : Json} {gap before text : List Char} (blank : Blank gap)
      (blank' : Blank before) (written : Writes value text) : WritesMember (some key, value)
      (Writer.string (some key) ++ (gap ++ ':' :: (before ++ text)))

/-- The text writes members, up to the closing brace. -/
inductive WritesMembers : List (Option String × Json) → List Char → Prop where
  | last {member : Option String × Json} {before text after : List Char} (blank : Blank before)
      (written : WritesMember member text) (blank' : Blank after) :
      WritesMembers [member] (before ++ (text ++ (after ++ ['\x7d'])))
  | more {member : Option String × Json} {members : List (Option String × Json)}
      {before text after rest : List Char} (blank : Blank before)
      (written : WritesMember member text) (blank' : Blank after)
      (others : WritesMembers members rest) :
      WritesMembers (member :: members) (before ++ (text ++ (after ++ ',' :: rest)))

end

/-! ## Containers -/

theorem value?_array {text : List Char} (more : ∀ rest, skipBlanks text ≠ ']' :: rest)
    (fuel : Nat) :
    value? (fuel + 1) ('[' :: text) =
      (Reader.items? fuel [] text).map fun (items, rest) => (.array items, rest) := by
  have front : skipBlanks ('[' :: text) = '[' :: text := skipBlanks_cons rfl text
  -- `more` leaves the branch of the items only
  simp only [value?, front]

theorem value?_object {text : List Char} (more : ∀ rest, skipBlanks text ≠ '\x7d' :: rest)
    (fuel : Nat) : value? (fuel + 1) ('\x7b' :: text) =
      (Reader.members? fuel [] text).map fun (members, rest) => (.object members, rest) := by
  have front : skipBlanks ('\x7b' :: text) = '\x7b' :: text := skipBlanks_cons rfl text
  simp only [value?, front]

section Texts

variable {item : Json} {items : List Json} {member : Option String × Json}
  {members : List (Option String × Json)} {text : List Char}

/-- The text has something to see in front, which closes nothing. -/
theorem Writes.starts {j : Json} (written : Writes j text) :
    ∃ c rest, text = c :: rest ∧ isBlank c = false ∧ c ≠ ']' := by
  cases written with
  | null => exact ⟨'n', _, rfl, rfl, by decide⟩
  | bool b => cases b <;> exact ⟨_, _, rfl, rfl, by decide⟩
  | number legible =>
      obtain ⟨c, rest, text, front⟩ := numeral_starts legible
      obtain ⟨shown, close, -⟩ := not_digit front
      exact ⟨c, rest, text, shown, close⟩
  | string s => exact ⟨'"', _, rfl, rfl, by decide⟩
  | noItems | array inner => exact ⟨'[', _, rfl, rfl, by decide⟩
  | noMembers | object inner => exact ⟨'\x7b', _, rfl, rfl, by decide⟩

/-- Behind blanks, what follows a value does not go on with more of a number. -/
theorem endsNumber_append {after : List Char} (blank : Blank after) {rest : List Char}
    (ends : EndsNumber rest) : EndsNumber (after ++ rest) := by
  cases after with
  | nil => exact ends
  | cons c after =>
      have shown := blank c List.mem_cons_self
      refine endsNumber_cons ?_ _
      have other : ∀ d, isBlank d = false → c ≠ d := by
        rintro d none_ rfl
        cases shown.symm.trans none_
      refine ⟨?_, other _ rfl, other _ rfl, other _ rfl⟩
      cases digit : c.isDigit with
      | false => rfl
      | true => exact absurd ((not_digit (Or.inr digit)).1.symm.trans shown) (by decide)

/-- The text of items does not begin with the closing bracket. -/
theorem WritesItems.unclosed (written : WritesItems items text) (rest rest' : List Char) :
    skipBlanks (text ++ rest) ≠ ']' :: rest' := by
  have front : ∃ c tail, skipBlanks (text ++ rest) = c :: tail ∧ c ≠ ']' := by
    cases written with
    | last blank written blank' | more blank written blank' others =>
        obtain ⟨c, tail, rfl, shown, close⟩ := written.starts
        rw [List.append_assoc, skipBlanks_append blank]
        exact ⟨c, _, skipBlanks_cons shown _, close⟩
  intro closed
  obtain ⟨c, tail, starts, close⟩ := front
  exact close (List.cons.inj (starts.symm.trans closed)).1

/-- The text of members does not begin with the closing brace. -/
theorem WritesMembers.unclosed (written : WritesMembers members text) (rest rest' : List Char) :
    skipBlanks (text ++ rest) ≠ '\x7d' :: rest' := by
  have front : ∃ tail, skipBlanks (text ++ rest) = '"' :: tail := by
    cases written with
    | last blank written blank' | more blank written blank' others =>
        cases written
        rw [List.append_assoc, skipBlanks_append blank]
        exact ⟨_, skipBlanks_cons rfl _⟩
  intro closed
  obtain ⟨tail, starts⟩ := front
  exact absurd (List.cons.inj (starts.symm.trans closed)).1 (by decide)

/-- The key of a member is read, up to its value. -/
theorem key?_string (key : String) {before gap : List Char} (blank : Blank before)
    (blank' : Blank gap) (rest : List Char) :
    key? (before ++ (Writer.string (some key) ++ (gap ++ ':' :: rest))) =
      some (some key, rest) := by
  obtain ⟨body, text, string⟩ := string?_string key (gap ++ ':' :: rest)
  unfold key?
  rw [skipBlanks_append blank, text, List.cons_append, skipBlanks_cons rfl]
  show (string? (body ++ (gap ++ ':' :: rest))).bind _ = _
  rw [string, Option.bind_some]
  dsimp only
  rw [skipBlanks_append blank', skipBlanks_cons rfl]
  rfl

end Texts

/-- With so much fuel, what is written in no more characters is read back. -/
structure ReadsBack (fuel : Nat) : Prop where
  value : ∀ {j : Json} {text rest : List Char}, Writes j text → EndsNumber rest →
    text.length ≤ fuel → value? fuel (text ++ rest) = some (j, rest)
  items : ∀ {items : List Json} {text : List Char} (read : List Json) (rest : List Char),
    WritesItems items text → text.length ≤ fuel →
    Reader.items? fuel read (text ++ rest) = some (read.reverse ++ items, rest)
  members : ∀ {members : List (Option String × Json)} {text : List Char}
    (read : List (Option String × Json)) (rest : List Char),
    WritesMembers members text → text.length ≤ fuel →
    Reader.members? fuel read (text ++ rest) = some (read.reverse ++ members, rest)

namespace ReadsBack

variable {fuel : Nat}

theorem zero : ReadsBack 0 where
  value written _ short := by
    obtain ⟨c, rest, rfl, -⟩ := written.starts
    simp at short
  items _ _ written short := by
    cases written with
    | last _ _ _ | more _ _ _ _ => simp at short
  members _ _ written short := by
    cases written with
    | last _ _ _ | more _ _ _ _ => simp at short

/-- A value, by what it is. -/
theorem value_succ (readsBack : ReadsBack fuel) {j : Json} {text rest : List Char}
    (written : Writes j text) (ends : EndsNumber rest) (short : text.length ≤ fuel + 1) :
    value? (fuel + 1) (text ++ rest) = some (j, rest) := by
  cases written with
  | null => rfl
  | bool b => cases b <;> rfl
  | number legible => exact value?_number legible ends fuel
  | string s => exact value?_string s rest fuel
  | noItems | noMembers => rfl
  | array inner =>
      have read := readsBack.items [] rest inner (by simpa using short)
      rw [List.cons_append, value?_array (inner.unclosed rest), read]
      rfl
  | object inner =>
      have read := readsBack.members [] rest inner (by simpa using short)
      rw [List.cons_append, value?_object (inner.unclosed rest), read]
      rfl

/-- A value behind blanks, and before blanks and what ends it. -/
theorem value_between (readsBack : ReadsBack fuel) {j : Json} {before text after : List Char}
    {c : Char} {rest : List Char} (blank : Blank before) (written : Writes j text)
    (blank' : Blank after) (ends : c.isDigit = false ∧ c ≠ '.' ∧ c ≠ 'e' ∧ c ≠ 'E')
    (short : text.length ≤ fuel) :
    value? fuel (before ++ (text ++ (after ++ c :: rest))) = some (j, after ++ c :: rest) := by
  rw [value?_congr (skipBlanks_append blank _)]
  exact readsBack.value written (endsNumber_append blank' (endsNumber_cons ends rest)) short

/-- Items, one after the other. -/
theorem items_succ (readsBack : ReadsBack fuel) {items : List Json} {text : List Char}
    (read : List Json) (rest : List Char) (written : WritesItems items text)
    (short : text.length ≤ fuel + 1) :
    Reader.items? (fuel + 1) read (text ++ rest) = some (read.reverse ++ items, rest) := by
  cases written with
  | last blank written blank' =>
      simp only [List.length_append, List.length_cons] at short
      simp only [List.append_assoc, List.cons_append, List.nil_append]
      unfold Reader.items?
      rw [readsBack.value_between blank written blank' (by decide) (by omega)]
      simp [skipBlanks_append blank', skipBlanks_cons (c := ']') rfl]
  | @more item items before text after rest' blank written blank' others =>
      simp only [List.length_append, List.length_cons] at short
      simp only [List.append_assoc, List.cons_append]
      unfold Reader.items?
      rw [readsBack.value_between blank written blank' (by decide) (by omega)]
      dsimp only
      rw [skipBlanks_append blank', skipBlanks_cons rfl]
      show Reader.items? fuel (item :: read) (rest' ++ rest) = _
      rw [readsBack.items (item :: read) rest others (by omega)]
      simp

/-- Members, one after the other. -/
theorem members_succ (readsBack : ReadsBack fuel) {members : List (Option String × Json)}
    {text : List Char} (read : List (Option String × Json)) (rest : List Char)
    (written : WritesMembers members text) (short : text.length ≤ fuel + 1) :
    Reader.members? (fuel + 1) read (text ++ rest) = some (read.reverse ++ members, rest) := by
  cases written with
  | last blank member blank' =>
      obtain ⟨gap, before, value⟩ := member
      simp only [List.length_append, List.length_cons] at short
      simp only [List.append_assoc, List.cons_append, List.nil_append]
      unfold Reader.members?
      rw [key?_string _ blank gap]
      dsimp only
      rw [readsBack.value_between before value blank' (by decide) (by omega)]
      simp [skipBlanks_append blank', skipBlanks_cons (c := '\x7d') rfl]
  | @more _ members _ _ _ rest' blank member blank' others =>
      obtain @⟨key, value, _, _, _, gap, before, written⟩ := member
      simp only [List.length_append, List.length_cons] at short
      simp only [List.append_assoc, List.cons_append]
      unfold Reader.members?
      rw [key?_string _ blank gap]
      dsimp only
      rw [readsBack.value_between before written blank' (by decide) (by omega)]
      dsimp only
      rw [skipBlanks_append blank', skipBlanks_cons rfl]
      show Reader.members? fuel ((some key, value) :: read) (rest' ++ rest) = _
      rw [readsBack.members ((some key, value) :: read) rest others (by omega)]
      simp

end ReadsBack

/-- **Whatever is written is read back**, with as much fuel as it has characters. -/
theorem readsBack (fuel : Nat) : ReadsBack fuel := by
  induction fuel with
  | zero => exact .zero
  | succ fuel ih => exact ⟨ih.value_succ, ih.items_succ, ih.members_succ⟩

/-- **A document is what a text says that writes it.** -/
theorem parse?_of_writes {j : Json} {text : List Char} (written : Writes j text) :
    parse? (String.ofList text) = some j := by
  have ends : EndsNumber [] := fun c first => by cases first
  have read := (readsBack (2 * text.length + 2)).value written ends (by omega)
  rw [List.append_nil] at read
  unfold parse?
  rw [String.toList_ofList]
  dsimp only
  rw [read]
  rfl

/-! ## Layouts -/

section Layouts

variable (write : Json → List Char) {gap close : List Char}

/-- Items with a gap before each of them and before the closing bracket. -/
theorem writesItems_of_gaps (others : List Json → List Char) (blank : Blank gap)
    (blank' : Blank close) (done : others [] = close ++ [']'])
    (further : ∀ item rest, others (item :: rest) = ',' :: (gap ++ (write item ++ others rest)))
    {item : Json} {items : List Json} (all : ∀ i ∈ item :: items, Writes i (write i)) :
    WritesItems (item :: items) (gap ++ (write item ++ others items)) := by
  induction items generalizing item with
  | nil =>
      rw [done]
      exact .last blank (all item List.mem_cons_self) blank'
  | cons next items ih =>
      obtain ⟨here, later⟩ := List.forall_mem_cons.1 all
      rw [further]
      exact .more blank here blank_nil (ih later)

/-- Members with a gap before each of them, before the closing brace and behind each colon. -/
theorem writesMembers_of_gaps (others : List (Option String × Json) → List Char)
    {space : List Char} (blank : Blank gap) (blank' : Blank close) (blankSpace : Blank space)
    (done : others [] = close ++ ['\x7d'])
    (further : ∀ key value rest, others ((key, value) :: rest) =
      ',' :: (gap ++ ((Writer.string key ++ ':' :: (space ++ write value)) ++ others rest)))
    (key : String) {value : Json} {members : List (Option String × Json)}
    (here : Writes value (write value)) (keys : ∀ m ∈ members, m.1.isSome = true)
    (later : ∀ m ∈ members, Writes m.2 (write m.2)) :
    WritesMembers ((some key, value) :: members)
      (gap ++ ((Writer.string (some key) ++ ':' :: (space ++ write value)) ++ others members)) := by
  induction members generalizing key value with
  | nil =>
      rw [done]
      exact .last blank (.mk blank_nil blankSpace here) blank'
  | cons next members ih =>
      obtain ⟨key?, value'⟩ := next
      obtain ⟨known, others_⟩ := List.forall_mem_cons.1 keys
      obtain ⟨there, further_⟩ := List.forall_mem_cons.1 later
      obtain ⟨key', rfl⟩ : ∃ key', key? = some key' := Option.isSome_iff_exists.1 known
      rw [further]
      exact .more blank (.mk blank_nil blankSpace here) blank_nil (ih key' there others_ further_)

end Layouts

theorem writes_pretty {j : Json} (legible : Legible j) (depth : Nat) :
    Writes j (Writer.pretty depth j) := by
  induction legible generalizing depth with
  | null => exact .null
  | bool b => exact .bool b
  | number legible => exact .number legible
  | string s => exact .string s
  | @array items all ih =>
      cases items with
      | nil => exact .noItems
      | cons item items =>
          have written := writesItems_of_gaps (Writer.pretty (depth + 1))
            (Writer.prettyItems depth) (blank_newLine (depth + 1)) (blank_newLine depth)
            rfl (by simp [Writer.prettyItems]) fun i here => ih i here (depth + 1)
          rw [Writer.pretty]
          simpa using Writes.array written
  | @object members keys all ih =>
      cases members with
      | nil => exact .noMembers
      | cons member members =>
          obtain ⟨key?, value⟩ := member
          obtain ⟨known, others⟩ := List.forall_mem_cons.1 keys
          obtain ⟨here, later⟩ := List.forall_mem_cons.1 ih
          obtain ⟨key, rfl⟩ : ∃ key, key? = some key := Option.isSome_iff_exists.1 known
          have written := writesMembers_of_gaps (Writer.pretty (depth + 1))
            (Writer.prettyMembers depth) (blank_newLine (depth + 1)) (blank_newLine depth)
            blank_space rfl (by simp [Writer.prettyMembers]) key (here (depth + 1))
            others fun m there => later m there (depth + 1)
          rw [Writer.pretty]
          simpa using Writes.object written

theorem writes_compact {j : Json} (legible : Legible j) : Writes j (Writer.compact j) := by
  induction legible with
  | null => exact .null
  | bool b => exact .bool b
  | number legible => exact .number legible
  | string s => exact .string s
  | @array items all ih =>
      cases items with
      | nil => exact .noItems
      | cons item items =>
          have written := writesItems_of_gaps Writer.compact Writer.compactItems blank_nil
            blank_nil rfl (by simp [Writer.compactItems]) ih
          rw [Writer.compact]
          simpa using Writes.array written
  | @object members keys all ih =>
      cases members with
      | nil => exact .noMembers
      | cons member members =>
          obtain ⟨key?, value⟩ := member
          obtain ⟨known, others⟩ := List.forall_mem_cons.1 keys
          obtain ⟨here, later⟩ := List.forall_mem_cons.1 ih
          obtain ⟨key, rfl⟩ : ∃ key, key? = some key := Option.isSome_iff_exists.1 known
          have written := writesMembers_of_gaps Writer.compact Writer.compactMembers
            blank_nil blank_nil blank_nil rfl (by simp [Writer.compactMembers]) key here others
            later
          rw [Writer.compact]
          simpa using Writes.object written

/-- **A document is what its own text says**, one item a line. -/
theorem parse?_pretty {j : Json} (legible : Legible j) : parse? j.pretty = some j :=
  parse?_of_writes (writes_pretty legible 0)

/-- **A document is what its own text says**, without blanks. -/
theorem parse?_compact {j : Json} (legible : Legible j) : parse? j.compact = some j :=
  parse?_of_writes (writes_compact legible)

end SensorMonitor.Json
