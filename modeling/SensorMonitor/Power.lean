/-
# Power -- when the readings of a sensor mean anything

A device that is switched off still answers, with readings that mean nothing.  A
sensor says which condition of the chassis it needs; the chassis status says which
hold.
-/

namespace SensorMonitor

set_option autoImplicit false

/-- What the chassis reports. -/
structure PowerStatus where
  on : Bool
  postComplete : Bool
  deriving DecidableEq, Repr

/-- Nothing is reported yet. -/
def PowerStatus.off : PowerStatus := ⟨false, false⟩

/-- The condition that a sensor needs. -/
inductive PowerNeed where
  | always
  | on
  | biosPost
  deriving DecidableEq, Repr

namespace PowerNeed

def name : PowerNeed → String
  | .always => "Always"
  | .on => "On"
  | .biosPost => "BiosPost"

def ofName? : String → Option PowerNeed
  | "Always" => some .always
  | "On" => some .on
  | "BiosPost" => some .biosPost
  | _ => none

/-- The condition holds. -/
def isMet (need : PowerNeed) (status : PowerStatus) : Bool :=
  match need with
  | .always => true
  | .on => status.on
  | .biosPost => status.on && status.postComplete

theorem ofName?_name (need : PowerNeed) : ofName? need.name = some need := by
  cases need <;> rfl

end PowerNeed

end SensorMonitor
