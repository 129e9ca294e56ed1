/-
# Slot -- the eight places a threshold can have

A threshold has a level of severity and a direction, high or low.  Each of the
eight pairs, a slot, has a property for its trigger and one for its alarm on the
bus.  Slots are ordered by level, high before low.
-/

namespace SensorMonitor

set_option autoImplicit false

/-! ## Levels -/

/-- How severe it is that a threshold is crossed. -/
inductive Level where
  | warning
  | critical
  | softShutdown
  | hardShutdown
  deriving DecidableEq, Repr

namespace Level

/-- From the mildest to the most severe. -/
def all : List Level := [.warning, .critical, .softShutdown, .hardShutdown]

/-- The place of the level, counted from zero. -/
def severity : Level → Nat
  | .warning => 0
  | .critical => 1
  | .softShutdown => 2
  | .hardShutdown => 3

def ofSeverity? : Nat → Option Level
  | 0 => some .warning
  | 1 => some .critical
  | 2 => some .softShutdown
  | 3 => some .hardShutdown
  | _ => none

def name : Level → String
  | .warning => "Warning"
  | .critical => "Critical"
  | .softShutdown => "SoftShutdown"
  | .hardShutdown => "HardShutdown"

def ofName? (s : String) : Option Level := all.find? (·.name = s)

/-- The bus interface that holds the properties of the level. -/
def interface (level : Level) : String :=
  "xyz.openbmc_project.Sensor.Threshold." ++ level.name

theorem ofSeverity?_severity (level : Level) : ofSeverity? level.severity = some level := by
  cases level <;> rfl

theorem severity_of_ofSeverity? {n : Nat} {level : Level} (h : ofSeverity? n = some level) :
    level.severity = n := by
  unfold ofSeverity? at h
  split at h <;> simp_all [severity] <;> subst h <;> rfl

theorem ofName?_name (level : Level) : ofName? level.name = some level := by
  cases level <;> decide

end Level

/-! ## Directions -/

/-- On which side of the trigger the alarm is raised. -/
inductive Direction where
  | high
  | low
  deriving DecidableEq, Repr

namespace Direction

/-- High comes before low. -/
def order : Direction → Nat
  | .high => 0
  | .low => 1

def name : Direction → String
  | .high => "High"
  | .low => "Low"

def ofName? : String → Option Direction
  | "High" => some .high
  | "Low" => some .low
  | _ => none

/-- The comparison with the trigger that raises the alarm, in configuration words. -/
def comparison : Direction → String
  | .high => "greater than"
  | .low => "less than"

def ofComparison? : String → Option Direction
  | "greater than" => some .high
  | "less than" => some .low
  | _ => none

theorem ofName?_name (direction : Direction) : ofName? direction.name = some direction := by
  cases direction <;> rfl

theorem ofComparison?_comparison (direction : Direction) :
    ofComparison? direction.comparison = some direction := by
  cases direction <;> rfl

end Direction

/-! ## Slots -/

/-- A level and a direction. -/
structure Slot where
  level : Level
  direction : Direction
  deriving DecidableEq, Repr

namespace Slot

/-- All slots in their order. -/
def all : List Slot := Level.all.flatMap fun level => [⟨level, .high⟩, ⟨level, .low⟩]

/-- The place of the slot in the order of slots. -/
def rank (slot : Slot) : Nat := 2 * slot.level.severity + slot.direction.order

/-- The property that shows the trigger. -/
def triggerProperty (slot : Slot) : String := slot.level.name ++ slot.direction.name

/-- The property that shows the alarm. -/
def alarmProperty (slot : Slot) : String := slot.level.name ++ "Alarm" ++ slot.direction.name

def ofTriggerProperty? (name : String) : Option Slot := all.find? (·.triggerProperty = name)

def ofAlarmProperty? (name : String) : Option Slot := all.find? (·.alarmProperty = name)

theorem mem_all (slot : Slot) : slot ∈ all := by
  rcases slot with ⟨level, direction⟩
  cases level <;> cases direction <;> decide

theorem rank_injective {a b : Slot} (h : a.rank = b.rank) : a = b := by
  rcases a with ⟨l, d⟩
  rcases b with ⟨l', d'⟩
  cases l <;> cases d <;> cases l' <;> cases d' <;> first | rfl | exact absurd h (by decide)

theorem alarmProperty_injective {a b : Slot} (h : a.alarmProperty = b.alarmProperty) : a = b := by
  rcases a with ⟨l, d⟩
  rcases b with ⟨l', d'⟩
  cases l <;> cases d <;> cases l' <;> cases d' <;> first | rfl | exact absurd h (by decide)

theorem triggerProperty_injective {a b : Slot} (h : a.triggerProperty = b.triggerProperty) :
    a = b := by
  rcases a with ⟨l, d⟩
  rcases b with ⟨l', d'⟩
  cases l <;> cases d <;> cases l' <;> cases d' <;> first | rfl | exact absurd h (by decide)

theorem ofTriggerProperty?_triggerProperty (slot : Slot) :
    ofTriggerProperty? slot.triggerProperty = some slot := by
  rcases slot with ⟨level, direction⟩
  cases level <;> cases direction <;> decide

theorem ofAlarmProperty?_alarmProperty (slot : Slot) :
    ofAlarmProperty? slot.alarmProperty = some slot := by
  rcases slot with ⟨level, direction⟩
  cases level <;> cases direction <;> decide

end Slot

end SensorMonitor
