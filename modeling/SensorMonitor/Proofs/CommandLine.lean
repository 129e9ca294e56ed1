/-
# Proofs.CommandLine -- arguments fall into groups

An option and the path behind it are one group of arguments, whatever the path looks like.  A
flag, a call for help or for the version, an argument that makes no sense, and an option at the
end that lacks its path are groups of their own.  Arguments fall into groups in exactly one way
(`forms_iff`), and they are read group by group (`readFrom_of_forms`): a group that sets
something is kept, the last of its kind, and the first one that does not set anything ends the
reading, whatever stands around it.

* `outcome_by_groups`: what the program does with any arguments;
* `readFrom_of_forms`: the reader as a search for the first group that is no setting.
-/
import SensorMonitor.CommandLine
import Mathlib.Data.List.Induction

namespace SensorMonitor.CommandLine

set_option autoImplicit false

/-! ## Spellings -/

/-- The ways to write a switch. -/
def Switch.spellings : Switch → List String
  | .help => ["-h", "--help"]
  | .version => ["-v", "--version"]
  | .config => ["-c", "--config"]
  | .thresholds => ["-t", "--thresholds"]
  | .powerOn => ["--power-on"]
  | .postComplete => ["--post-complete"]
  | .manufacturing => ["--manufacturing"]
  | .unknown => []

theorem switchOf_of_mem {argument : String} {switch : Switch}
    (spelled : argument ∈ switch.spellings) : switchOf argument = switch := by
  cases switch with
  | help | version | config | thresholds =>
      simp only [Switch.spellings, List.mem_cons, List.not_mem_nil, or_false] at spelled
      rcases spelled with rfl | rfl <;> rfl
  | powerOn | postComplete | manufacturing =>
      obtain rfl := List.mem_singleton.1 spelled
      rfl
  | unknown => cases spelled

/-- An argument is a way to write its switch, unless it makes no sense. -/
theorem mem_spellings {argument : String} (known : switchOf argument ≠ .unknown) :
    argument ∈ (switchOf argument).spellings := by
  revert known
  unfold switchOf
  split <;> simp [Switch.spellings]

theorem switchOf_eq_unknown_iff {argument : String} :
    switchOf argument = .unknown ↔ ∀ switch : Switch, argument ∉ switch.spellings := by
  constructor
  · intro unknown switch spelled
    obtain rfl := unknown.symm.trans (switchOf_of_mem spelled)
    cases spelled
  · intro strange
    by_contra known
    exact strange _ (mem_spellings known)

/-! ## Groups -/

/-- The options that take a path. -/
inductive PathOption where
  | config
  | thresholds
  deriving DecidableEq

/-- The options that take nothing. -/
inductive Flag where
  | powerOn
  | postComplete
  | manufacturing
  deriving DecidableEq

def PathOption.switch : PathOption → Switch
  | .config => .config
  | .thresholds => .thresholds

def Flag.switch : Flag → Switch
  | .powerOn => .powerOn
  | .postComplete => .postComplete
  | .manufacturing => .manufacturing

/-- Arguments that belong together. -/
inductive Group where
  | set (option : PathOption) (path : String)
  | raise (flag : Flag)
  | help
  | version
  | valueless (option : PathOption)
  | unknown (argument : String)
  deriving DecidableEq

namespace Group

/-- The kind of a group. -/
def switch : Group → Switch
  | .set option _ => option.switch
  | .raise flag => flag.switch
  | .help => .help
  | .version => .version
  | .valueless option => option.switch
  | .unknown _ => .unknown

/-- The group sets something. -/
def isSetting : Group → Bool
  | .set _ _ | .raise _ => true
  | _ => false

/-- The path that a group gives to an option. -/
def path? (option : PathOption) : Group → Option String
  | .set other path => if other = option then some path else none
  | _ => none

/-- The arguments are a way to write the group. -/
inductive Spells : Group → List String → Prop
  | set {option : PathOption} {argument : String}
      (spelled : argument ∈ option.switch.spellings) (path : String) :
      Spells (.set option path) [argument, path]
  | raise {flag : Flag} {argument : String} (spelled : argument ∈ flag.switch.spellings) :
      Spells (.raise flag) [argument]
  | help {argument : String} (spelled : argument ∈ Switch.help.spellings) :
      Spells .help [argument]
  | version {argument : String} (spelled : argument ∈ Switch.version.spellings) :
      Spells .version [argument]
  | valueless {option : PathOption} {argument : String}
      (spelled : argument ∈ option.switch.spellings) : Spells (.valueless option) [argument]
  | unknown {argument : String} (strange : ∀ switch : Switch, argument ∉ switch.spellings) :
      Spells (.unknown argument) [argument]

/-- What becomes of a program with such a group as the first that is no setting: what was read,
and what is done. -/
inductive Decides : Group → Except UsageError Request → Outcome → Prop
  | help : Decides .help (.ok .help) (.exit "" helpText 0)
  | version : Decides .version (.ok .version) (.exit versionText "" 0)
  | config : Decides (.valueless .config) (.error (.missingPath "--config"))
      (.exit "" ("Error: --config requires a path argument\n" ++ helpText) 1)
  | thresholds : Decides (.valueless .thresholds) (.error (.missingPath "--thresholds"))
      (.exit "" ("Error: --thresholds requires a path argument\n" ++ helpText) 1)
  | unknown (argument : String) : Decides (.unknown argument) (.error (.unknown argument))
      (.exit "" ("Error: unknown argument: " ++ argument ++ "\n" ++ helpText) 1)

end Group

/-- The arguments are the groups one after another.  An option may lack its path only where
nothing comes behind it. -/
inductive Forms : List Group → List String → Prop
  | nil : Forms [] []
  | cons {g : Group} {groups : List Group} {front rest : List String} (first : g.Spells front)
      (last : ∀ option, g = .valueless option → rest = []) (further : Forms groups rest) :
      Forms (g :: groups) (front ++ rest)

/-- The groups that arguments fall into. -/
def groupsOf : List String → List Group
  | [] => []
  | argument :: rest =>
      match switchOf argument with
      | .help => .help :: groupsOf rest
      | .version => .version :: groupsOf rest
      | .config =>
          match rest with
          | [] => [.valueless .config]
          | path :: rest => .set .config path :: groupsOf rest
      | .thresholds =>
          match rest with
          | [] => [.valueless .thresholds]
          | path :: rest => .set .thresholds path :: groupsOf rest
      | .powerOn => .raise .powerOn :: groupsOf rest
      | .postComplete => .raise .postComplete :: groupsOf rest
      | .manufacturing => .raise .manufacturing :: groupsOf rest
      | .unknown => .unknown argument :: groupsOf rest

theorem forms_groupsOf (arguments : List String) : Forms (groupsOf arguments) arguments := by
  have spelled : ∀ {argument : String} {switch : Switch}, switchOf argument = switch →
      switch ≠ .unknown → argument ∈ switch.spellings := by
    rintro argument _ rfl known
    exact mem_spellings known
  fun_induction groupsOf arguments with
  | case1 => exact .nil
  | case2 argument rest is ih => exact .cons (.help (spelled is (by decide))) nofun ih
  | case3 argument rest is ih => exact .cons (.version (spelled is (by decide))) nofun ih
  | case4 argument is =>
      exact .cons (.valueless (spelled is (by decide))) (fun _ _ => rfl) .nil
  | case5 argument is path rest ih =>
      exact .cons (.set (spelled is (by decide)) path) nofun ih
  | case6 argument is =>
      exact .cons (.valueless (spelled is (by decide))) (fun _ _ => rfl) .nil
  | case7 argument is path rest ih =>
      exact .cons (.set (spelled is (by decide)) path) nofun ih
  | case8 argument rest is ih => exact .cons (.raise (spelled is (by decide))) nofun ih
  | case9 argument rest is ih => exact .cons (.raise (spelled is (by decide))) nofun ih
  | case10 argument rest is ih => exact .cons (.raise (spelled is (by decide))) nofun ih
  | case11 argument rest is ih => exact .cons (.unknown (switchOf_eq_unknown_iff.1 is)) nofun ih

theorem groupsOf_of_forms {groups : List Group} {arguments : List String}
    (forms : Forms groups arguments) : groupsOf arguments = groups := by
  induction forms with
  | nil => rfl
  | @cons g groups front rest first last further ih =>
      cases first with
      | @set option argument spelled path =>
          cases option <;> simp [groupsOf, switchOf_of_mem spelled, PathOption.switch, ih]
      | @raise flag argument spelled =>
          cases flag <;> cases rest <;>
            simp [groupsOf, switchOf_of_mem spelled, Flag.switch, ← ih]
      | help spelled | version spelled =>
          cases rest <;> simp [groupsOf, switchOf_of_mem spelled, ← ih]
      | @valueless option argument spelled =>
          obtain rfl := last option rfl
          cases option <;> simp [groupsOf, switchOf_of_mem spelled, PathOption.switch, ← ih]
      | unknown strange =>
          cases rest <;> simp [groupsOf, switchOf_eq_unknown_iff.2 strange, ← ih]

/-- **Arguments fall into groups in exactly one way.** -/
theorem forms_iff {groups : List Group} {arguments : List String} :
    Forms groups arguments ↔ groupsOf arguments = groups := by
  constructor
  · exact groupsOf_of_forms
  · rintro rfl
    exact forms_groupsOf arguments

/-! ## Reading groups -/

namespace Options

/-- The path of an option. -/
def path (options : Options) : PathOption → String
  | .config => options.config
  | .thresholds => options.thresholds

/-- Whether a flag is raised. -/
def isRaised (options : Options) : Flag → Bool
  | .powerOn => options.powerOn
  | .postComplete => options.postComplete
  | .manufacturing => options.manufacturing

/-- What a group makes of the options. -/
def after (options : Options) : Group → Options
  | .set .config path => { options with config := path }
  | .set .thresholds path => { options with thresholds := path }
  | .raise .powerOn => { options with powerOn := true }
  | .raise .postComplete => { options with postComplete := true }
  | .raise .manufacturing => { options with manufacturing := true }
  | _ => options

theorem eq_of_same {first second : Options}
    (paths : ∀ option, first.path option = second.path option)
    (flags : ∀ flag, first.isRaised flag = second.isRaised flag) : first = second := by
  obtain ⟨config, thresholds, powerOn, postComplete, manufacturing⟩ := first
  obtain rfl : config = _ := paths .config
  obtain rfl : thresholds = _ := paths .thresholds
  obtain rfl : powerOn = _ := flags .powerOn
  obtain rfl : postComplete = _ := flags .postComplete
  obtain rfl : manufacturing = _ := flags .manufacturing
  rfl

theorem path_after (options : Options) (g : Group) (option : PathOption) :
    (options.after g).path option = (g.path? option).getD (options.path option) := by
  cases g with
  | set other path => cases other <;> cases option <;> rfl
  | raise flag => cases flag <;> cases option <;> rfl
  | help | version | valueless other | unknown argument => rfl

theorem isRaised_after (options : Options) (g : Group) (flag : Flag) :
    (options.after g).isRaised flag = true ↔ options.isRaised flag = true ∨ .raise flag = g := by
  cases g with
  | set option path => cases option <;> cases flag <;> simp [after, isRaised]
  | raise other => cases other <;> cases flag <;> simp [after, isRaised]
  | help | version | valueless option | unknown argument => simp [after]

/-- **The last path given to an option counts.** -/
theorem path_foldl (options : Options) (groups : List Group) (option : PathOption) :
    (groups.foldl after options).path option =
      (groups.filterMap (Group.path? option)).getLast?.getD (options.path option) := by
  induction groups using List.reverseRecOn with
  | nil => rfl
  | append_singleton groups g ih =>
      rw [List.foldl_append, List.foldl_cons, List.foldl_nil, path_after, ih,
        List.filterMap_append]
      cases given : g.path? option <;> simp [given]

/-- **A flag is raised by its group, wherever that stands.** -/
theorem isRaised_foldl (options : Options) (groups : List Group) (flag : Flag) :
    (groups.foldl after options).isRaised flag = true ↔
      options.isRaised flag = true ∨ .raise flag ∈ groups := by
  induction groups generalizing options with
  | nil => simp
  | cons g groups ih => rw [List.foldl_cons, ih, isRaised_after, List.mem_cons, or_assoc]

end Options

/-- The answer that a group gives at once. -/
def Group.answer? : Group → Option (Except UsageError Request)
  | .help => some (.ok .help)
  | .version => some (.ok .version)
  | .valueless .config => some (.error (.missingPath "--config"))
  | .valueless .thresholds => some (.error (.missingPath "--thresholds"))
  | .unknown argument => some (.error (.unknown argument))
  | .set _ _ | .raise _ => none

/-- A group is read at once: it gives the answer, or changes the options. -/
theorem Group.Spells.readFrom_append {g : Group} {front rest : List String}
    (spells : g.Spells front) (last : ∀ option, g = .valueless option → rest = [])
    (options : Options) :
    readFrom options (front ++ rest) = g.answer?.getD (readFrom (options.after g) rest) := by
  cases spells with
  | @set option argument spelled path =>
      cases option <;> simp [readFrom, switchOf_of_mem spelled, PathOption.switch, answer?,
        Options.after]
  | @raise flag argument spelled =>
      cases flag <;> cases rest <;>
        simp [readFrom, switchOf_of_mem spelled, Flag.switch, answer?, Options.after]
  | help spelled | version spelled =>
      cases rest <;> simp [readFrom, switchOf_of_mem spelled, answer?]
  | @valueless option argument spelled =>
      obtain rfl := last option rfl
      cases option <;> simp [readFrom, switchOf_of_mem spelled, PathOption.switch, answer?]
  | unknown strange =>
      cases rest <;> simp [readFrom, switchOf_eq_unknown_iff.2 strange, answer?]

/-- **Arguments are read group by group**, up to the first one that gives an answer. -/
theorem readFrom_of_forms {groups : List Group} {arguments : List String}
    (forms : Forms groups arguments) (options : Options) :
    readFrom options arguments = (groups.findSome? Group.answer?).getD
      (.ok (.run (groups.foldl Options.after options))) := by
  induction forms generalizing options with
  | nil => rfl
  | @cons g groups front rest first last further ih =>
      rw [first.readFrom_append last, List.findSome?_cons]
      cases g.answer? with
      | some answer => rfl
      | none => exact ih (options.after g)

/-! ## What the groups come to -/

/-- The options are what the groups set: each option has the last path that is given to it, or
else the usual one, and those flags are raised that have a group. -/
structure Settles (groups : List Group) (options : Options) : Prop where
  path : ∀ option, options.path option =
    (groups.filterMap (Group.path? option)).getLast?.getD (Options.usual.path option)
  flag : ∀ flag, options.isRaised flag = true ↔ .raise flag ∈ groups

theorem settles_foldl (groups : List Group) :
    Settles groups (groups.foldl Options.after .usual) := by
  refine ⟨Options.path_foldl .usual groups, fun flag => ?_⟩
  have lowered : Options.usual.isRaised flag = false := by cases flag <;> rfl
  rw [Options.isRaised_foldl, lowered]
  simp

/-- The groups are the same, and in the same order among those of one kind. -/
def Reordered (groups groups' : List Group) : Prop :=
  ∀ kind : Switch, groups'.filter (·.switch = kind) = groups.filter (·.switch = kind)

namespace Reordered

variable {groups groups' : List Group} (reordered : Reordered groups groups')

include reordered

theorem mem_iff (g : Group) : g ∈ groups' ↔ g ∈ groups := by
  have within : ∀ gs : List Group, g ∈ gs ↔ g ∈ gs.filter (·.switch = g.switch) := by
    simp
  rw [within groups', reordered, ← within]

theorem paths (option : PathOption) :
    groups'.filterMap (Group.path? option) = groups.filterMap (Group.path? option) := by
  have within : ∀ gs : List Group, gs.filterMap (Group.path? option) =
      (gs.filter (·.switch = option.switch)).filterMap (Group.path? option) := by
    intro gs
    rw [List.filterMap_filter]
    congr 1
    funext g
    cases g with
    | set other path =>
        cases other <;> cases option <;> simp [Group.path?, Group.switch, PathOption.switch]
    | raise flag | help | version | valueless other | unknown argument => simp [Group.path?]
  rw [within groups', reordered, ← within]

/-- **The order among groups of different kinds does not matter.** -/
theorem foldl_after : groups'.foldl Options.after .usual = groups.foldl Options.after .usual := by
  have settled := settles_foldl groups
  have settled' := settles_foldl groups'
  refine Options.eq_of_same (fun option => ?_) (fun flag => ?_)
  · rw [settled.path, settled'.path, reordered.paths]
  · rw [Bool.eq_iff_iff, settled.flag, settled'.flag, reordered.mem_iff]

end Reordered

namespace Group

theorem answer?_eq_none_iff {g : Group} : g.answer? = none ↔ g.isSetting = true := by
  cases g with
  | valueless option => cases option <;> simp [answer?, isSetting]
  | set option path | raise flag | help | version | unknown argument =>
      simp [answer?, isSetting]

theorem findSome?_answer? (groups : List Group) :
    groups.findSome? answer? = (groups.find? (!·.isSetting)).bind answer? := by
  induction groups with
  | nil => rfl
  | cons g groups ih =>
      rw [List.findSome?_cons, List.find?_cons]
      cases answer : g.answer? with
      | none => simpa [answer?_eq_none_iff.1 answer] using ih
      | some given =>
          have ends : g.isSetting = false := by
            rw [← Bool.not_eq_true, ← answer?_eq_none_iff, answer]
            simp
          simp [ends, answer]

theorem decides_of_read {g : Group} {arguments : List String}
    (answered : g.answer? = some (read arguments)) :
    g.Decides (read arguments) (outcome arguments) := by
  rw [outcome]
  generalize read arguments = answer at answered
  cases g with
  | set option path | raise flag => cases answered
  | help =>
      cases answered
      exact .help
  | version =>
      cases answered
      exact .version
  | valueless option =>
      cases option with
      | config =>
          cases answered
          exact .config
      | thresholds =>
          cases answered
          exact .thresholds
  | unknown argument =>
      cases answered
      exact .unknown argument

end Group

/-- **What the program does with its arguments.**  They fall into groups in exactly one way.  If
each of these sets something, the program runs with what they set, and with the same in any
other order that keeps the order among groups of one kind.  Otherwise the first group that sets
nothing decides, whatever stands before and behind it. -/
theorem outcome_by_groups (arguments : List String) : ∃ groups, Forms groups arguments ∧
    (∀ other, Forms other arguments → other = groups) ∧
    ((∀ g ∈ groups, g.isSetting = true) → ∃ options, Settles groups options ∧
      read arguments = .ok (.run options) ∧ outcome arguments = .run options ∧
      ∀ groups' arguments', Forms groups' arguments' → Reordered groups groups' →
        read arguments' = .ok (.run options)) ∧
    ∀ g, groups.find? (!·.isSetting) = some g → g.Decides (read arguments) (outcome arguments) := by
  let groups := groupsOf arguments
  have forms : Forms groups arguments := forms_groupsOf arguments
  -- what is read, if no group gives an answer
  have runs : ∀ {groups arguments}, Forms groups arguments → (∀ g ∈ groups, g.isSetting = true) →
      read arguments = .ok (.run (groups.foldl Options.after .usual)) := by
    intro groups arguments forms settings
    have unanswered : groups.findSome? Group.answer? = none :=
      List.findSome?_eq_none_iff.2 fun g member => Group.answer?_eq_none_iff.2 (settings g member)
    rw [read, readFrom_of_forms forms, unanswered]
    rfl
  refine ⟨groups, forms, fun other also => (forms_iff.1 also).symm, ?_, ?_⟩
  · intro settings
    have answer := runs forms settings
    refine ⟨_, settles_foldl groups, answer, by rw [outcome, answer], ?_⟩
    intro groups' arguments' forms' reordered
    rw [← reordered.foldl_after]
    exact runs forms' fun g member => settings g ((reordered.mem_iff g).1 member)
  · intro g first
    have ends : g.isSetting = false := by simpa using List.find?_some first
    obtain ⟨answer, answered⟩ : ∃ answer, g.answer? = some answer := by
      rw [← Option.isSome_iff_exists, ← Option.ne_none_iff_isSome, ne_eq,
        Group.answer?_eq_none_iff, ends]
      decide
    refine Group.decides_of_read ?_
    rw [read, readFrom_of_forms forms, Group.findSome?_answer?, first, Option.bind_some, answered]
    rfl

/-- A path that looks like a call for help, a flag, and a path that is given up for another. -/
theorem outcome_by_groups_sample :
    read ["-c", "--help", "--power-on", "--config", "b.json"] =
        .ok (.run { Options.usual with config := "b.json", powerOn := true }) ∧
      ∀ arguments, Forms [.raise .powerOn, .set .config "--help", .set .config "b.json"] arguments →
        read arguments = .ok (.run { Options.usual with config := "b.json", powerOn := true }) := by
  obtain ⟨groups, -, unique, settles, -⟩ :=
    outcome_by_groups ["-c", "--help", "--power-on", "--config", "b.json"]
  obtain rfl := unique [.set .config "--help", .raise .powerOn, .set .config "b.json"]
    (forms_iff.2 (by decide))
  obtain ⟨options, settled, run, -, reordered⟩ := settles (by decide)
  have options_eq : options = { Options.usual with config := "b.json", powerOn := true } := by
    refine Options.eq_of_same (fun option => ?_) (fun flag => ?_)
    · rw [settled.path]
      cases option <;> rfl
    · rw [Bool.eq_iff_iff, settled.flag]
      cases flag <;> decide
  rw [← options_eq]
  refine ⟨run, fun arguments forms => reordered _ _ forms fun kind => ?_⟩
  cases kind <;> decide

/-- An option at the end lacks its path, and nothing that stands before it matters. -/
example : outcome ["--power-on", "-c", "-t", "--thresholds"] =
    .exit "" ("Error: --thresholds requires a path argument\n" ++ helpText) 1 := rfl

end SensorMonitor.CommandLine
