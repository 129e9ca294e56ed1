/-
# Proofs.Files.Resolving -- where a path leads by its pieces alone

A path can be followed without a look at any file: a dot stays, two dots go one step up, and
every other piece goes down under its name (`resolve`).  What is found under a path stands just
there (`eq_resolve_of_locate`).  Steps without two dots among them only lead further down
(`prefix_follow`), and a text without two dots in a row has no such step (`climbs_of_mem_steps`).
-/
import SensorMonitor.Proofs.Files

namespace SensorMonitor.Files

set_option autoImplicit false

namespace Path

/-! ## Pieces of a text -/

theorem pieces_ofText (text : String) :
    (ofText text).pieces = (text.toList.splitOn '/').map String.ofList :=
  String.toList_split_char

/-- A path behind a slash goes on from the path before it. -/
theorem steps_ofText_append {text : String} {front rest : List Char}
    (split : text.toList = front ++ '/' :: rest) :
    (ofText text).steps =
      (ofText (String.ofList front)).steps ++ (ofText (String.ofList rest)).steps := by
  simp only [steps, pieces_ofText, String.toList_ofList]
  rw [split, List.splitOn_append_cons_self, List.map_append, List.filter_append]

/-- Whatever is put between them, each of the parts stands in the whole. -/
theorem infix_intercalate {between part : List Char} {parts : List (List Char)}
    (member : part ∈ parts) : part <:+: between.intercalate parts := by
  induction parts with
  | nil => cases member
  | cons first rest ih =>
      cases rest with
      | nil =>
          rw [List.mem_singleton.1 member]
          simp
      | cons second rest =>
          rw [List.intercalate_cons_cons]
          rcases List.mem_cons.1 member with rfl | later
          · exact ⟨[], between ++ between.intercalate (second :: rest), by simp⟩
          · exact (ih later).trans ⟨first ++ between, [], by simp⟩

/-- A step is a part of the text. -/
theorem infix_of_mem_steps {text step : String} (member : step ∈ (ofText text).steps) :
    step.toList <:+: text.toList := by
  have piece : step ∈ (ofText text).pieces := List.mem_of_mem_filter member
  rw [pieces_ofText, List.mem_map] at piece
  obtain ⟨part, within, rfl⟩ := piece
  have whole : ['/'].intercalate (text.toList.splitOn '/') = text.toList :=
    List.intercalate_splitOn '/'
  rw [String.toList_ofList, ← whole]
  exact infix_intercalate within

/-- Where no two dots stand in a row, no step leads up. -/
theorem climbs_of_mem_steps {text : String} (straight : ¬ ['.', '.'] <:+: text.toList) :
    ".." ∉ (ofText text).steps :=
  fun member => straight (infix_of_mem_steps member)

/-! ## Following -/

/-- Where a step leads to, by its name alone. -/
def follow (here : List String) (step : String) : List String :=
  if step = "." then here else if step = ".." then here.dropLast else here ++ [step]

/-- Where steps lead to, by their names alone. -/
def resolve (steps : List String) : List String := steps.foldl follow []

/-- Without two dots among them, steps lead further down. -/
theorem prefix_follow {steps : List String} (level : ".." ∉ steps) (here : List String) :
    here <+: steps.foldl follow here := by
  induction steps generalizing here with
  | nil => exact List.prefix_rfl
  | cons step rest ih =>
      simp only [List.mem_cons, not_or] at level
      have down : here <+: follow here step := by
        unfold follow
        rw [if_neg (Ne.symm level.1)]
        split
        · exact List.prefix_rfl
        · exact List.prefix_append here [step]
      exact down.trans (ih level.2 _)

/-- From where some steps lead, more of them without two dots lead further down. -/
theorem resolve_prefix_of_prefix {first all : List String} (onward : first <+: all)
    (level : ".." ∉ all) : resolve first <+: resolve all := by
  obtain ⟨more, rfl⟩ := onward
  simp only [List.mem_append, not_or] at level
  unfold resolve
  rw [List.foldl_append]
  exact prefix_follow level.2 _

end Path

/-! ## What is found -/

section Walking

variable {files : Files} {here there elements : List String} {path : Path}

theorem eq_follow_of_enter {step : String} (entered : files.enter here step = .ok there) :
    there = Path.follow here step := by
  rw [enter_eq_ok_iff] at entered
  unfold Path.follow
  split
  · rw [if_pos ‹_›] at entered
    exact entered.symm
  · rw [if_neg ‹_›] at entered
    split
    · rw [if_pos ‹_›] at entered
      exact entered.symm
    · rw [if_neg ‹_›] at entered
      exact (entry_eq_ok_iff.1 entered.1).2.symm

theorem eq_foldl_follow_of_walk {steps : List String}
    (walked : steps.foldlM files.enter here = .ok there) :
    there = steps.foldl Path.follow here := by
  induction steps generalizing here with
  | nil =>
      cases walked
      rfl
  | cons step rest ih =>
      rw [List.foldlM_cons] at walked
      obtain ⟨next, entered, walked⟩ := bind_eq_ok walked
      rw [List.foldl_cons, ← eq_follow_of_enter entered]
      exact ih walked

/-- **What is found under a path stands where its steps lead.** -/
theorem eq_resolve_of_locate (located : files.locate path = .ok elements) :
    elements = Path.resolve path.steps := by
  obtain ⟨-, here, walked, last⟩ := locate_eq_ok_iff.1 located
  have there := eq_foldl_follow_of_walk walked
  cases step : path.steps.getLast? with
  | none =>
      rw [step] at last
      rw [List.getLast?_eq_none_iff.1 step] at there ⊢
      exact last.symm.trans there
  | some final =>
      have steps : path.steps = path.steps.dropLast ++ [final] :=
        (List.dropLast_append_getLast? final step).symm
      have goal : Path.resolve path.steps = Path.follow here final := by
        rw [there, steps, Path.resolve, List.foldl_concat, List.dropLast_concat]
      rw [step] at last
      dsimp only at last
      rw [goal]
      by_cases dots : path.ending = .dots
      · rw [if_pos dots] at last
        exact eq_follow_of_enter last
      · rw [if_neg dots] at last
        obtain ⟨-, rfl⟩ := entry_eq_ok_iff.1 last
        have named : final ≠ "." ∧ final ≠ ".." := by
          refine ⟨?_, ?_⟩ <;>
          · rintro rfl
            simp [Path.ending, step] at dots
        simp [Path.follow, named.1, named.2]

end Walking

end SensorMonitor.Files
