/-
# Site -- what all sensors share

The bus, the directory of peers, the conditions, the files and the store of edits, if
there is one.  The effects of an act on a sensor are carried out here, in order.  A
store that fails to save is no reason to refuse anything.
-/
import SensorMonitor.Bus
import SensorMonitor.Directory
import SensorMonitor.EditStore
import SensorMonitor.ExternalSensor

namespace SensorMonitor

set_option autoImplicit false

/-- The surroundings of the sensors. -/
structure Site where
  bus : Bus
  directory : Directory
  conditions : Conditions
  files : Files
  store : Option EditStore

namespace Site

/-- Nothing has happened, no power is reported and nobody may write. -/
def fresh : Site := ⟨.empty, .empty, ⟨.off, .closed⟩, .empty, none⟩

/-- Keeps an edited threshold if there is a store. -/
def keep (site : Site) (configuration model : String) (t : Threshold) : Site :=
  match site.store with
  | none => site
  | some store =>
      let (store, files, _) := store.persist site.files configuration model t none
      { site with store := some store, files := files }

/-- Carries out an effect.  Hooks are for the owner of the sensor. -/
def absorb (site : Site) : Sensor.Effect → Site
  | .announce event => { site with bus := site.bus.announce event }
  | .share key x => { site with directory := site.directory.update key x }
  | .unlist key => { site with directory := site.directory.remove key }
  | .keep configuration model t => site.keep configuration model t
  | .tell _ _ => site

/-- Carries out effects one after another. -/
def absorbAll (site : Site) (effects : List Sensor.Effect) : Site := effects.foldl absorb site

/-- Publishes a sensor, which is registered from then on. -/
def register (site : Site) (s : Sensor) : Except Failure (Sensor × Site) :=
  (site.bus.register s.identity.path s.properties).map fun bus =>
    ({ s with registered := true }, { site with bus := bus })

/-- Makes the sensor of a definition and publishes it. -/
def create (site : Site) (d : Definition) : Except Failure (Sensor × Site) := do
  let s ← Sensor.ofDefinition d
  site.register s

/-- Makes the external sensor of a definition and publishes it. -/
def createExternal (site : Site) (d : Definition) (timeout : Option Nat) :
    Except Failure (ExternalSensor × Site) := do
  let e ← ExternalSensor.ofDefinition d timeout
  let (s, site) ← site.register e.sensor
  return ({ e with sensor := s }, site)

/-- An act of a sensor, with its effects carried out. -/
def act (site : Site) (act : Sensor.Act) (s : Sensor) : Sensor × Site :=
  let (s, effects) := act s
  (s, site.absorbAll effects)

/-- Ends a sensor. -/
def retire (site : Site) (s : Sensor) : Site := site.absorbAll s.retire

end Site

end SensorMonitor
