/-
# Proofs.Hwmon.Naming -- the grammar of names

A name is taken apart from the left, a run of small letters, a run of digits, an underscore, and
what is left is the item.  Said without the runs, a name is spelled as a kind, digits, an
underscore and an item (`Spells`).  Small letters, digits and the underscore are three kinds of
character, so that each part ends just where the next one begins: a spelling is read back
(`of?_of_spells`), every name that is read has one (`spells_of_eq_some`), and there is no other
(`Spells.unique`).

An item can hold small letters and underscores, so that small letters in front of a name make
another kind and an ending makes another item.  Any other character around a name spoils it
(`of?_around_eq_none_iff`).
-/
import Mathlib.Data.List.TakeWhile
import SensorMonitor.Hwmon.AttributeName
import SensorMonitor.Proofs.Json.Numerals

namespace SensorMonitor.Hwmon.AttributeName

set_option autoImplicit false

open Number (digitsValue)

/-! ## Spellings -/

/-- A small letter, from a to z. -/
def Small (c : Char) : Prop := 'a' ≤ c ∧ c ≤ 'z'

/-- A digit, from 0 to 9. -/
def Digit (c : Char) : Prop := '0' ≤ c ∧ c ≤ '9'

/-- A word with characters of one kind only, and at least one of them. -/
structure WordOf (p : Char → Prop) (word : String) : Prop where
  some_ : word ≠ ""
  all : ∀ c ∈ word.toList, p c

/-- What may stand in an item. -/
def Joined (c : Char) : Prop := Small c ∨ c = '_'

/-- How a name is spelled. -/
structure Spells (name kind digits item : String) : Prop where
  text : name = kind ++ digits ++ "_" ++ item
  kind : WordOf Small kind
  digits : WordOf Digit digits
  item : WordOf Joined item

/-- The number that digits denote. -/
def denoted (digits : String) : Nat := Nat.ofDigitChars 10 digits.toList 0

theorem isSmall_iff (c : Char) : isSmall c = true ↔ Small c := by
  simp [isSmall, Small]

theorem isDigit_iff (c : Char) : c.isDigit = true ↔ Digit c := by
  simp [Char.isDigit, Digit, Char.le_def]

theorem isItemChar_iff (c : Char) : isItemChar c = true ↔ Joined c := by
  simp [isItemChar, Joined, isSmall_iff]

theorem digitsValue_eq_denoted (digits : String) : digitsValue digits.toList = denoted digits := rfl

theorem not_small_of_digit {c : Char} (digit : Digit c) : ¬ Small c := by
  intro small
  exact absurd (Char.le_trans small.1 digit.2) (by decide)

theorem not_joined_of_digit {c : Char} (digit : Digit c) : ¬ Joined c := by
  rintro (small | rfl)
  · exact not_small_of_digit digit small
  · exact absurd digit.2 (by decide)

/-! ## Runs -/

section Runs

variable {kind digits rest : List Char}

/-- A run of small letters ends where a digit follows. -/
theorem span_kind (small : ∀ c ∈ kind, Small c) (some_ : digits ≠ [])
    (digit : ∀ c ∈ digits, Digit c) :
    (kind ++ (digits ++ rest)).span isSmall = (kind, digits ++ rest) := by
  refine span_of_stops (fun c member => (isSmall_iff c).2 (small c member)) ?_
  intro c first
  rw [List.head?_append_of_ne_nil _ some_] at first
  rw [Bool.eq_false_iff, Ne, isSmall_iff]
  exact not_small_of_digit (digit c (List.mem_of_mem_head? first))

/-- A run of digits ends at an underscore. -/
theorem span_digits (digit : ∀ c ∈ digits, Digit c) :
    (digits ++ '_' :: rest).span Char.isDigit = (digits, '_' :: rest) := by
  refine span_of_stops (fun c member => (isDigit_iff c).2 (digit c member)) ?_
  intro c first
  obtain rfl : '_' = c := Option.some.inj first
  rfl

/-- What is left behind the runs of small letters and of digits. -/
def behind (name : List Char) : List Char := ((name.span isSmall).2.span Char.isDigit).2

theorem behind_runs (small : ∀ c ∈ kind, Small c) (some_ : digits ≠ [])
    (digit : ∀ c ∈ digits, Digit c) : behind (kind ++ (digits ++ '_' :: rest)) = '_' :: rest := by
  unfold behind
  rw [span_kind small some_ digit, span_digits digit]

end Runs

namespace Spells

variable {name kind digits item kind' digits' item' : String}

theorem toList (spells : Spells name kind digits item) :
    name.toList = kind.toList ++ (digits.toList ++ '_' :: item.toList) := by
  rw [spells.text]
  simp

theorem digits_ne_nil (spells : Spells name kind digits item) : digits.toList ≠ [] :=
  fun none_ => spells.digits.some_ (String.toList_eq_nil_iff.1 none_)

/-- The small letters in front are the kind. -/
theorem span_name (spells : Spells name kind digits item) :
    name.toList.span isSmall = (kind.toList, digits.toList ++ '_' :: item.toList) := by
  rw [spells.toList]
  exact span_kind spells.kind.all spells.digits_ne_nil spells.digits.all

/-- **A name is spelled in one way only.** -/
theorem unique (one : Spells name kind digits item) (other : Spells name kind' digits' item') :
    kind = kind' ∧ digits = digits' ∧ item = item' := by
  obtain ⟨kinds, rests⟩ := Prod.mk.inj (one.span_name.symm.trans other.span_name)
  have words : (digits.toList ++ '_' :: item.toList).span Char.isDigit =
      (digits.toList, '_' :: item.toList) := span_digits one.digits.all
  rw [rests, span_digits other.digits.all] at words
  obtain ⟨indices, items⟩ := Prod.mk.inj words
  exact ⟨String.toList_inj.1 kinds, String.toList_inj.1 indices.symm,
    String.toList_inj.1 (List.cons.inj items).2.symm⟩

/-- More small letters in front and more of an item at the end make another spelling. -/
theorem around (spells : Spells name kind digits item) {before after : String}
    (small : ∀ c ∈ before.toList, Small c) (joined : ∀ c ∈ after.toList, Joined c) :
    Spells (before ++ name ++ after) (before ++ kind) digits (item ++ after) := by
  refine ⟨?_, ⟨?_, ?_⟩, spells.digits, ⟨?_, ?_⟩⟩
  · rw [spells.text, ← String.toList_inj]
    simp
  · simp [spells.kind.some_]
  · intro c member
    rw [String.toList_append, List.mem_append] at member
    exact member.elim (small c) (spells.kind.all c)
  · simp [spells.item.some_]
  · intro c member
    rw [String.toList_append, List.mem_append] at member
    exact member.elim (spells.item.all c) (joined c)

end Spells

/-! ## Names that are read -/

/-- **A spelling is read back**, if its index is not too large. -/
theorem of?_of_spells {name kind digits item : String} (spells : Spells name kind digits item) :
    of? name = if largestIndex < denoted digits then none else some ⟨kind, denoted digits, item⟩ := by
  have kind_ : kind.toList.isEmpty = false := by simpa using spells.kind.some_
  have digits_ : digits.toList.isEmpty = false := by simpa using spells.digits.some_
  have item_ : item.toList.isEmpty = false := by simpa using spells.item.some_
  have joined : item.toList.all isItemChar = true := by
    simpa [isItemChar_iff] using spells.item.all
  unfold of? ofChars?
  simp only [spells.span_name, span_digits spells.digits.all, kind_, digits_, item_, joined,
    digitsValue_eq_denoted, String.ofList_toList]
  rfl

/-- **Every name that is read is spelled as it has to be.** -/
theorem spells_of_eq_some {name : String} {parts : AttributeName} (read : of? name = some parts) :
    ∃ digits, Spells name parts.kind digits parts.item ∧ denoted digits = parts.index ∧
      parts.index ≤ largestIndex := by
  unfold of? ofChars? at read
  simp only [List.span_eq_takeWhile_dropWhile] at read
  have kinds := List.takeWhile_append_dropWhile (p := isSmall) (l := name.toList)
  have digits := List.takeWhile_append_dropWhile (p := Char.isDigit)
    (l := name.toList.dropWhile isSmall)
  split at read
  · next item rest =>
      rw [Option.ite_none_left_eq_some, Option.ite_none_left_eq_some, Option.some.injEq] at read
      obtain ⟨usable, fits, rfl⟩ := read
      simp only [Bool.or_eq_true, List.isEmpty_iff, Bool.not_eq_true', not_or,
        Bool.not_eq_false, List.all_eq_true, isItemChar_iff] at usable
      obtain ⟨⟨⟨kind_, digits_⟩, item_⟩, joined⟩ := usable
      have text : name.toList = name.toList.takeWhile isSmall ++
          ((name.toList.dropWhile isSmall).takeWhile Char.isDigit ++ '_' :: item) := by
        rw [← rest, digits, kinds]
      refine ⟨String.ofList ((name.toList.dropWhile isSmall).takeWhile Char.isDigit),
        ⟨?_, ⟨?_, ?_⟩, ⟨?_, ?_⟩, ⟨?_, ?_⟩⟩, ?_, Nat.le_of_not_lt fits⟩
      · rw [← String.toList_inj]
        refine text.trans ?_
        simp
      · simpa using kind_
      · intro c member
        rw [String.toList_ofList] at member
        exact (isSmall_iff c).1 (List.mem_takeWhile_imp member)
      · simpa using digits_
      · intro c member
        rw [String.toList_ofList] at member
        exact (isDigit_iff c).1 (List.mem_takeWhile_imp member)
      · simpa using item_
      · simpa using joined
      · rw [← digitsValue_eq_denoted, String.toList_ofList]
  · cases read

/-- A decimal number denotes itself. -/
theorem denoted_toString (n : Nat) : denoted (toString n) = n := by
  rw [denoted, Nat.toString_eq_repr, Nat.toList_repr, Nat.ofDigitChars_ten_toDigits]

theorem wordOf_toString (n : Nat) : WordOf Digit (toString n) := by
  rw [Nat.toString_eq_repr]
  refine ⟨?_, ?_⟩
  · rw [Ne, ← String.toList_eq_nil_iff, Nat.toList_repr]
    exact Nat.toDigits_ne_nil
  · intro c member
    rw [Nat.toList_repr] at member
    exact (isDigit_iff c).1 (IsWord.toDigits n c member)

/-! ## Around a name -/

/-- Behind the runs a name that is read has its item only. -/
theorem joined_of_mem_behind {name : String} {parts : AttributeName} (read : of? name = some parts)
    {c : Char} (member : c ∈ behind name.toList) : Joined c := by
  obtain ⟨digits, spells, -, -⟩ := spells_of_eq_some read
  rw [spells.toList, behind_runs spells.kind.all spells.digits_ne_nil spells.digits.all] at member
  rcases List.mem_cons.1 member with rfl | within
  · exact Or.inr rfl
  · exact spells.item.all c within

/-- Once the small letters in front have ended, what begins with a small letter is left behind the
runs. -/
theorem mem_behind_of_not_small {before rest : List Char} {k d : Char} (kind : Small k)
    (stray : ∃ c ∈ before, ¬ Small c) (member : d ∈ k :: rest) :
    d ∈ behind (before ++ k :: rest) := by
  have stops : (before.dropWhile isSmall).isEmpty = false := by
    rw [Bool.eq_false_iff, Ne, List.isEmpty_iff, List.dropWhile_eq_nil_iff]
    intro all
    obtain ⟨c, within, apart⟩ := stray
    exact apart ((isSmall_iff c).1 (all c within))
  have letter : k.isDigit = false := by
    rw [Bool.eq_false_iff, Ne, isDigit_iff]
    exact fun digit => not_small_of_digit digit kind
  simp only [behind, List.span_eq_takeWhile_dropWhile]
  rw [List.dropWhile_append, stops, if_neg Bool.false_ne_true, List.dropWhile_append]
  split
  · rw [List.dropWhile_cons, letter, if_neg Bool.false_ne_true]
    exact member
  · exact List.mem_append_right _ member

/-- A name that is read has no other characters than those of its parts. -/
theorem known_of_mem {name : String} {parts : AttributeName} (read : of? name = some parts)
    {c : Char} (member : c ∈ name.toList) : Small c ∨ Digit c ∨ c = '_' := by
  obtain ⟨digits, spells, -, -⟩ := spells_of_eq_some read
  simp only [spells.toList, List.mem_append, List.mem_cons] at member
  rcases member with kind | digit | rfl | item
  · exact Or.inl (spells.kind.all c kind)
  · exact Or.inr (Or.inl (spells.digits.all c digit))
  · exact Or.inr (Or.inr rfl)
  · exact (spells.item.all c item).imp_right Or.inr

section Around

variable {name kind digits item before after : String}

/-- Behind anything but small letters, the digits of a name would stand in an item. -/
theorem of?_of_stray_before (spells : Spells name kind digits item)
    (stray : ∃ c ∈ before.toList, ¬ Small c) : of? (before ++ name ++ after) = none := by
  cases found : of? (before ++ name ++ after) with
  | none => rfl
  | some parts =>
      exfalso
      obtain ⟨k, rest, kind_⟩ := List.exists_cons_of_ne_nil
        fun none_ => spells.kind.some_ (String.toList_eq_nil_iff.1 none_)
      obtain ⟨d, more, word⟩ := List.exists_cons_of_ne_nil spells.digits_ne_nil
      have small : Small k := spells.kind.all k (by simp [kind_])
      have digit : Digit d := spells.digits.all d (by simp [word])
      refine not_joined_of_digit digit (joined_of_mem_behind found ?_)
      have text : (before ++ name ++ after).toList = before.toList ++
          k :: (rest ++ (digits.toList ++ '_' :: item.toList ++ after.toList)) := by
        simp [spells.toList, kind_]
      rw [text]
      exact mem_behind_of_not_small small stray (by simp [word])

/-- Behind the digits all that follows is the item. -/
theorem of?_of_stray_after (spells : Spells name kind digits item)
    (small : ∀ c ∈ before.toList, Small c) (stray : ∃ c ∈ after.toList, ¬ Joined c) :
    of? (before ++ name ++ after) = none := by
  cases found : of? (before ++ name ++ after) with
  | none => rfl
  | some parts =>
      exfalso
      obtain ⟨c, member, apart⟩ := stray
      refine apart (joined_of_mem_behind found ?_)
      have text : (before ++ name ++ after).toList = before.toList ++ kind.toList ++
          (digits.toList ++ '_' :: (item.toList ++ after.toList)) := by
        simp [spells.toList]
      have front : ∀ c ∈ before.toList ++ kind.toList, Small c := by
        intro c within
        exact (List.mem_append.1 within).elim (small c) (spells.kind.all c)
      rw [text, behind_runs front spells.digits_ne_nil spells.digits.all]
      simp [member]

end Around

/-- **Around a name nothing may stand but more of its kind and of its item.** -/
theorem of?_around_eq_none_iff {name : String} {parts : AttributeName}
    (read : of? name = some parts) (before after : String) :
    of? (before ++ name ++ after) = none ↔
      (∃ c ∈ before.toList, ¬ Small c) ∨ ∃ c ∈ after.toList, ¬ Joined c := by
  obtain ⟨digits, spells, value, fits⟩ := spells_of_eq_some read
  constructor
  · intro refused
    by_contra clean
    simp only [not_or, not_exists, not_and, not_not] at clean
    rw [of?_of_spells (spells.around clean.1 clean.2), value, if_neg (Nat.not_lt.2 fits)] at refused
    cases refused
  · intro stray
    by_cases early : ∃ c ∈ before.toList, ¬ Small c
    · exact of?_of_stray_before spells early
    · have small : ∀ c ∈ before.toList, Small c := by simpa using early
      exact of?_of_stray_after spells small (stray.resolve_left early)

/-! ## Splitting names -/

/-- What it is to split names into their parts, with indices of up to 32 bits. -/
structure Splits (split : String → Option AttributeName) : Prop where
  exactly : ∀ name parts, split name = some parts ↔ ∃ digits,
    Spells name parts.kind digits parts.item ∧ denoted digits = parts.index ∧
      parts.index ≤ 0xFFFFFFFF
  unique : ∀ name kind digits item kind' digits' item', Spells name kind digits item →
    Spells name kind' digits' item' → kind = kind' ∧ digits = digits' ∧ item = item'
  decimal : ∀ kind (index : Nat) item, WordOf Small kind → index ≤ 0xFFFFFFFF →
    WordOf Joined item → split (kind ++ toString index ++ "_" ++ item) = some ⟨kind, index, item⟩
  large : ∀ name kind digits item, Spells name kind digits item → 0xFFFFFFFF < denoted digits →
    split name = none
  foreign : ∀ name, ∀ c ∈ name.toList, ¬ (Small c ∨ Digit c ∨ c = '_') → split name = none
  around : ∀ name parts, split name = some parts → ∀ before after,
    split (before ++ name ++ after) = none ↔
      (∃ c ∈ before.toList, ¬ Small c) ∨ ∃ c ∈ after.toList, ¬ Joined c

/-- **Names are split by their grammar.**  What is read are the spellings with an index that fits;
each has one spelling, and each kind, index and item makes a name that is read back.  A digit of
another script, the end of a line, or anything else that is neither a small letter nor a digit nor
an underscore spoils a name wherever it stands. -/
theorem names_are_split : Splits of? := by
  refine ⟨?_, ?_, ?_, ?_, ?_, ?_⟩
  · intro name parts
    refine ⟨spells_of_eq_some, ?_⟩
    rintro ⟨digits, spells, value, fits⟩
    rw [of?_of_spells spells, value]
    exact if_neg (Nat.not_lt.2 fits)
  · intro name kind digits item kind' digits' item' one other
    exact one.unique other
  · intro kind index item small fits joined
    have spells : Spells (kind ++ toString index ++ "_" ++ item) kind (toString index) item :=
      ⟨rfl, small, wordOf_toString index, joined⟩
    rw [of?_of_spells spells, denoted_toString]
    exact if_neg (Nat.not_lt.2 fits)
  · intro name kind digits item spells large
    rw [of?_of_spells spells]
    exact if_pos large
  · intro name c member apart
    cases read : of? name with
    | none => rfl
    | some parts => exact absurd (known_of_mem read member) apart
  · intro name parts read before after
    exact of?_around_eq_none_iff read before after

/-- Leading zeros do not count, and an end of line is not overlooked. -/
theorem names_are_split_sample : of? "in007_crit_alarm" = some ⟨"in", 7, "crit_alarm"⟩ ∧
    of? "in007_crit_alarm\n" = none := by
  have read : of? "in007_crit_alarm" = some ⟨"in", 7, "crit_alarm"⟩ := by decide
  have ends := (names_are_split.around _ _ read "" "\n").2
    (Or.inr ⟨'\n', by decide, by simp [Joined, Small]⟩)
  exact ⟨read, ends⟩

end SensorMonitor.Hwmon.AttributeName
