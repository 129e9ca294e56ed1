/-
# Access -- who may write a sensor's value

A settable sensor accepts writes from outside at any time.  Every other sensor does
while one of two modes is in force for the whole site.
-/

namespace SensorMonitor

set_option autoImplicit false

/-- The modes that let every sensor be written. -/
structure Access where
  manufacturing : Bool
  insecure : Bool
  deriving DecidableEq, Repr

namespace Access

/-- Neither mode is in force. -/
def closed : Access := ⟨false, false⟩

/-- A sensor that is settable or not may be written. -/
def allows (access : Access) (settable : Bool) : Bool :=
  settable || access.manufacturing || access.insecure

end Access

end SensorMonitor
