/-
# Health -- whether a sensor works and can be read

A sensor is *functional* until a number of reads in a row have failed, its limit,
and again from the next good reading.  It is *available* while its power condition
holds, unless it was declared otherwise.  Failed reads are counted up to the limit;
a change of availability and a good reading start the count afresh.
-/

namespace SensorMonitor

set_option autoImplicit false

/-- The state of health of a sensor. -/
structure Health where
  errors : Nat
  limit : Nat
  functional : Bool
  available : Bool
  deriving DecidableEq, Repr

/-- What a failed read means. -/
inductive ErrorOutcome where
  | counted (errors : Nat)
  | limitReached
  | beyondLimit
  deriving DecidableEq, Repr

namespace Health

/-- The failed reads in a row that a sensor may have if nothing else is said. -/
def usualLimit : Nat := 5

/-- A healthy sensor; its limit is at least one. -/
def ofLimit (limit : Nat) : Health := ⟨0, max limit 1, true, true⟩

/-- What one more failed read means. -/
def errorOutcome (h : Health) : ErrorOutcome :=
  if h.limit ≤ h.errors then .beyondLimit
  else if h.errors + 1 = h.limit then .limitReached
  else .counted (h.errors + 1)

/-- Counts a failed read. -/
def countError (h : Health) : Health :=
  if h.limit ≤ h.errors then h else { h with errors := h.errors + 1 }

/-- A functional sensor has no failed reads behind it. -/
def setFunctional (h : Health) (functional : Bool) : Health :=
  { h with functional := functional, errors := if functional then 0 else h.errors }

/-- Availability is a new start either way. -/
def setAvailable (h : Health) (available : Bool) : Health :=
  { h with available := available, errors := 0 }

theorem countError_limit (h : Health) : h.countError.limit = h.limit := by
  unfold countError
  split <;> rfl

theorem countError_errors (h : Health) (le : h.errors ≤ h.limit) :
    h.countError.errors = min (h.errors + 1) h.limit := by
  unfold countError
  split
  · omega
  · show h.errors + 1 = min (h.errors + 1) h.limit
    omega

theorem countError_functional (h : Health) : h.countError.functional = h.functional := by
  unfold countError
  split <;> rfl

theorem countError_available (h : Health) : h.countError.available = h.available := by
  unfold countError
  split <;> rfl

end Health

end SensorMonitor
