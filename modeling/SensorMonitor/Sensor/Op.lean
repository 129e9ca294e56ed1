/-
# Sensor.Op -- the operations on a sensor

All that the surroundings can ask of a sensor, as one type, and `Sensor.perform`,
which answers with the sensor afterwards, the effects and a reply.  A refused
operation leaves the sensor as it was and has no effects.  The surroundings that an
answer depends on, power and access, are the `Conditions`.
-/
import SensorMonitor.Sensor

namespace SensorMonitor

set_option autoImplicit false

/-- What holds around a sensor while an operation is performed. -/
structure Conditions where
  power : PowerStatus
  access : Access
  deriving DecidableEq

namespace Sensor

/-- An operation on a sensor. -/
inductive Op where
  | feed (x : Float)
  | setRaw (x : Float)
  | countError
  | checkThresholds
  | markFunctional (b : Bool)
  | markAvailable (b : Bool)
  | write (x : Float)
  | clearOverride
  | release
  | setAvailable (b : Bool)
  | setTrigger (slot : Slot) (x : Float)
  | setBounds (min max : Float)
  | replaceThresholds (thresholds : List Threshold)
  | participate (b : Bool)
  | attach (key : String)
  | setHook (hook : WriteHook)
  deriving DecidableEq

/-- The answer to an operation; `changed` tells whether there was anything to do. -/
inductive Reply where
  | done
  | changed (b : Bool)
  | refused (failure : Failure)
  deriving DecidableEq

/-- What comes of an operation. -/
structure Outcome where
  sensor : Sensor
  effects : List Effect
  reply : Reply
  deriving DecidableEq

namespace Outcome

/-- An operation that was carried out. -/
def ofAct (act : Act) (reply : Reply) (s : Sensor) : Outcome :=
  ⟨(act s).1, (act s).2, reply⟩

/-- An operation that was refused. -/
def refuse (s : Sensor) (failure : Failure) : Outcome := ⟨s, [], .refused failure⟩

end Outcome

/-- The failure of a write that is not allowed. -/
def writeDenied (s : Sensor) : Failure :=
  .denied s!"not allowed to set Value on {s.identity.path}"

/-- A write of the value from outside. -/
def write (access : Access) (x : Float) (s : Sensor) : Outcome :=
  if access.allows s.settable then .ofAct (.override x) .done s else .refuse s s.writeDenied

/-- A write of a trigger from outside. -/
def setTrigger (slot : Slot) (x : Float) (s : Sensor) : Outcome :=
  match s.thresholds.setTrigger slot x with
  | .error failure => .refuse s failure
  | .ok (thresholds, edited) => .ofAct (.editThreshold thresholds edited) .done s

/-- The definitions that a list of thresholds makes on this sensor. -/
def definitions (s : Sensor) (ts : List Threshold) : Except Failure Thresholds :=
  (Thresholds.ofList ts).map (·.withDefaultHysteresis s.measurement.triggerBand)

/-- Swaps the definitions of the thresholds. -/
def replaceThresholds (ts : List Threshold) (s : Sensor) : Outcome :=
  match s.definitions ts with
  | .error failure => .refuse s failure
  | .ok next =>
      match s.thresholds.replace? next with
      | none => .ofAct .skip (.changed false) s
      | some thresholds =>
          .ofAct (.adoptThresholds (s.thresholds.abandoned next) thresholds) (.changed true) s

/-- Performs an operation. -/
def perform (c : Conditions) (op : Op) (s : Sensor) : Outcome :=
  match op with
  | .feed x => .ofAct (.feed c.power x) .done s
  | .setRaw x => .ofAct (.setRaw x) .done s
  | .countError => .ofAct (.countError c.power) .done s
  | .checkThresholds => .ofAct .checkThresholds .done s
  | .markFunctional b => .ofAct (.markFunctional c.power b) .done s
  | .markAvailable b => .ofAct (.noteAvailable b) .done s
  | .write x => s.write c.access x
  | .clearOverride => .ofAct .clearOverride .done s
  | .release => .ofAct .release .done s
  | .setAvailable b => .ofAct (.setAvailable c.power b) .done s
  | .setTrigger slot x => s.setTrigger slot x
  | .setBounds min max => .ofAct (.setBounds min max) .done s
  | .replaceThresholds ts => s.replaceThresholds ts
  | .participate b => .ofAct (.change fun s => { s with participates := b }) .done s
  | .attach key => .ofAct (.attach key) .done s
  | .setHook hook => .ofAct (.change fun s => { s with hook := some hook }) .done s

end Sensor

end SensorMonitor
