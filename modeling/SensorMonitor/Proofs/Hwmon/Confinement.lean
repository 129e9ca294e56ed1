/-
# Proofs.Hwmon.Confinement -- no accepted path leads out of its root

The check of a path looks for words in its text: a root at the front, two dots or two slashes
anywhere, characters that are not among the plain ones.  Read as a rule this says what a proper
path is (`Proper`, `flaw?_eq_none_iff`); the ends of lines and the zero character need no word of
their own there, since they are not plain.  That a text is free of two dots in a row says
something about its steps: none of them leads up, so that the way through a proper path, once it
has come to the root, stays below it to the end, and so does the file that is read
(`confined_of_proper`).
-/
import SensorMonitor.Hwmon.AttributePath
import SensorMonitor.Proofs.Files.Resolving

namespace SensorMonitor.Hwmon.AttributePath

set_option autoImplicit false

open Files (Path)

/-! ## Proper paths -/

/-- A letter or a digit, or one of five signs. -/
def Plain (c : Char) : Prop :=
  ('A' ≤ c ∧ c ≤ 'Z') ∨ ('a' ≤ c ∧ c ≤ 'z') ∨ ('0' ≤ c ∧ c ≤ '9') ∨ c ∈ ['/', '-', '_', '.', ':']

/-- A path as it has to be. -/
structure Proper (path : String) : Prop where
  short : path.utf8ByteSize ≤ 256
  rooted : ∃ root ∈ ["/sys/class/hwmon/", "/sys/devices/", "/sys/bus/"],
    root.toList <+: path.toList
  plain : ∀ c ∈ path.toList, Plain c
  straight : ¬ ['.', '.'] <:+: path.toList
  single : ¬ ['/', '/'] <:+: path.toList

theorem isPathChar_iff (c : Char) : isPathChar c = true ↔ Plain c := by
  have upper : c.isUpper = true ↔ 'A' ≤ c ∧ c ≤ 'Z' := decide_eq_true_iff
  have lower : c.isLower = true ↔ 'a' ≤ c ∧ c ≤ 'z' := Bool.and_eq_true_iff.trans
    (and_congr decide_eq_true_iff decide_eq_true_iff)
  have letter : c.isAlpha = true ↔ c.isUpper = true ∨ c.isLower = true := Bool.or_eq_true_iff
  have digit : c.isDigit = true ↔ '0' ≤ c ∧ c ≤ '9' := Bool.and_eq_true_iff.trans
    (and_congr decide_eq_true_iff decide_eq_true_iff)
  have letters : c.isAlphanum = true ↔
      ('A' ≤ c ∧ c ≤ 'Z') ∨ ('a' ≤ c ∧ c ≤ 'z') ∨ ('0' ≤ c ∧ c ≤ '9') := by
    rw [Char.isAlphanum, Bool.or_eq_true, letter, upper, lower, digit, or_assoc]
  simp only [isPathChar, Plain, Bool.or_eq_true, decide_eq_true_eq, List.mem_cons,
    List.not_mem_nil, or_false, letters, or_assoc]

theorem occursIn_iff (word cs : List Char) : occursIn word cs = true ↔ word <:+: cs := by
  induction cs with
  | nil => simp [occursIn]
  | cons c rest ih =>
      rw [List.infix_cons_iff, ← ih]
      simp [occursIn]

/-- A word of plain characters stands nowhere if one of its characters is not plain. -/
theorem not_infix_of_not_plain {c : Char} (mark : ¬ Plain c) {cs : List Char}
    (plain : ∀ c ∈ cs, Plain c) : ¬ [c] <:+: cs :=
  fun within => mark (plain c (within.subset (List.mem_singleton_self c)))

/-- Of the words that are forbidden, plain characters leave two to look for. -/
theorem find?_forbidden_eq_none_iff {cs : List Char} (plain : ∀ c ∈ cs, Plain c) :
    (forbidden.find? fun word => occursIn word.toList cs) = none ↔
      ¬ ['.', '.'] <:+: cs ∧ ¬ ['/', '/'] <:+: cs := by
  have zero : ¬ ['\x00'] <:+: cs := not_infix_of_not_plain (by simp [Plain]) plain
  have line : ¬ ['\n'] <:+: cs := not_infix_of_not_plain (by simp [Plain]) plain
  have start : ¬ ['\r'] <:+: cs := not_infix_of_not_plain (by simp [Plain]) plain
  simp [forbidden, occursIn_iff, zero, line, start]

/-- A path that is short and below a root is neither empty nor relative: what is left to check
are its words and its characters. -/
theorem flaw?_eq_none_iff_of_rooted {path : String} (short : path.utf8ByteSize ≤ 256)
    (rooted : ∃ root ∈ roots, root.toList <+: path.toList) : flaw? path = none ↔
      (forbidden.find? fun word => occursIn word.toList path.toList) = none ∧
        ∀ c ∈ path.toList, Plain c := by
  have front : path.toList.head? = some '/' := by
    obtain ⟨root, known, rest, whole⟩ := rooted
    rw [← whole]
    simp only [roots, List.mem_cons, List.not_mem_nil, or_false] at known
    rcases known with rfl | rfl | rfl <;> rfl
  have some_ : path.toList.isEmpty = false := by
    cases text : path.toList with
    | nil => simp [text] at front
    | cons c rest => rfl
  have below : (roots.any fun root => root.toList.isPrefixOf path.toList) = true := by
    obtain ⟨root, known, starts⟩ := rooted
    exact List.any_eq_true.2 ⟨root, known, List.isPrefixOf_iff_prefix.2 starts⟩
  have fits : ¬ lengthLimit < path.utf8ByteSize := Nat.not_lt.2 short
  unfold flaw?
  simp only [fits, some_, front, below]
  cases forbidden.find? fun word => occursIn word.toList path.toList with
  | some word => simp
  | none => simp [isPathChar_iff]

/-- A path without a flaw is short and below a root. -/
theorem rooted_of_flawless {path : String} (flawless : flaw? path = none) :
    path.utf8ByteSize ≤ 256 ∧ ∃ root ∈ roots, root.toList <+: path.toList := by
  unfold flaw? at flawless
  dsimp only at flawless
  split at flawless
  · cases flawless
  · next fits =>
      refine ⟨Nat.le_of_not_lt fits, ?_⟩
      by_contra outside
      have none_ : (roots.any fun root => root.toList.isPrefixOf path.toList) = false := by
        simpa [List.isPrefixOf_iff_prefix] using outside
      rw [none_] at flawless
      split at flawless
      · cases flawless
      · split at flawless <;> simp at flawless

/-- **A path without a flaw is a proper one.** -/
theorem flaw?_eq_none_iff (path : String) : flaw? path = none ↔ Proper path := by
  constructor
  · intro flawless
    obtain ⟨short, rooted⟩ := rooted_of_flawless flawless
    obtain ⟨clear, plain⟩ := (flaw?_eq_none_iff_of_rooted short rooted).1 flawless
    obtain ⟨straight, single⟩ := (find?_forbidden_eq_none_iff plain).1 clear
    exact ⟨short, rooted, plain, straight, single⟩
  · intro proper
    have clear := (find?_forbidden_eq_none_iff proper.plain).2 ⟨proper.straight, proper.single⟩
    exact (flaw?_eq_none_iff_of_rooted proper.short proper.rooted).2 ⟨clear, proper.plain⟩

/-! ## Staying below a root -/

/-- The way through a path goes through the root and then stays below it: wherever it has come
to by its steps, and where the file stands that it leads to. -/
structure Confined (root path : Path) : Prop where
  begins : root.steps <+: path.steps
  stays : ∀ way, root.steps <+: way → way <+: path.steps →
    Path.resolve root.steps <+: Path.resolve way
  leads : ∀ (files : Files) (elements : List String), files.locate path = .ok elements →
    Path.resolve root.steps <+: elements

/-- A path that begins with the text of a root begins with its steps. -/
theorem steps_prefix_of_root {root path : String} (known : root ∈ roots)
    (starts : root.toList <+: path.toList) :
    (Path.ofText root).steps <+: (Path.ofText path).steps := by
  have closed : ∃ front, root.toList = front ++ ['/'] := by
    simp only [roots, List.mem_cons, List.not_mem_nil, or_false] at known
    rcases known with rfl | rfl | rfl
    · exact ⟨"/sys/class/hwmon".toList, by decide⟩
    · exact ⟨"/sys/devices".toList, by decide⟩
    · exact ⟨"/sys/bus".toList, by decide⟩
  obtain ⟨front, closed⟩ := closed
  obtain ⟨rest, whole⟩ := starts
  have split : path.toList = front ++ '/' :: rest := by
    rw [← whole, closed, List.append_assoc, List.singleton_append]
  have nothing : (Path.ofText (String.ofList [])).steps = [] := by
    rw [Path.steps, Path.pieces_ofText]
    rfl
  rw [Path.steps_ofText_append split, Path.steps_ofText_append closed, nothing, List.append_nil]
  exact List.prefix_append _ _

theorem confined_of_proper {root path : String} (proper : Proper path) (known : root ∈ roots)
    (starts : root.toList <+: path.toList) : Confined (.ofText root) (.ofText path) := by
  have begins := steps_prefix_of_root known starts
  have level := Path.climbs_of_mem_steps proper.straight
  refine ⟨begins, ?_, ?_⟩
  · intro way through within
    exact Path.resolve_prefix_of_prefix through fun up => level (within.subset up)
  · intro files elements located
    rw [Files.eq_resolve_of_locate located]
    exact Path.resolve_prefix_of_prefix begins level

/-- **A path is accepted exactly if it is proper, and an accepted path never leaves its root.** -/
theorem accepted_paths_are_confined (path : String) :
    (flaw? path = none ↔ Proper path) ∧
      (flaw? path = none → ∀ root ∈ roots, root.toList <+: path.toList →
        Confined (.ofText root) (.ofText path)) := by
  refine ⟨flaw?_eq_none_iff path, ?_⟩
  intro accepted root known starts
  exact confined_of_proper ((flaw?_eq_none_iff path).1 accepted) known starts

theorem accepted_paths_are_confined_sample :
    flaw? "/sys/devices/./hwmon0/temp1_input" = none ∧
      Proper "/sys/devices/./hwmon0/temp1_input" ∧
      ["sys", "devices"] <+:
        Path.resolve (Path.ofText "/sys/devices/./hwmon0/temp1_input").steps := by
  have accepted : flaw? "/sys/devices/./hwmon0/temp1_input" = none := by decide
  obtain ⟨exact_, confined⟩ := accepted_paths_are_confined "/sys/devices/./hwmon0/temp1_input"
  have below := confined accepted "/sys/devices/" (by decide) (by decide)
  have root : Path.resolve (Path.ofText "/sys/devices/").steps = ["sys", "devices"] := by
    rw [Path.steps, Path.pieces_ofText]
    decide
  rw [← root]
  exact ⟨accepted, exact_.1 accepted, below.stays _ below.begins List.prefix_rfl⟩

/-- A path that climbs out of its root is refused. -/
example : flaw? "/sys/class/hwmon/../../etc/shadow" = some (.forbiddenSequence "..") := by decide

end SensorMonitor.Hwmon.AttributePath
