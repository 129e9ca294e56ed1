/-
# Measurement -- a value, its range and the bands drawn from the range

The range that a sensor starts with fixes two bands: changes within the publish
band are not worth an event, and a threshold without a hysteresis of its own takes
the trigger band.  A loss of the value, and the first value after it, are always
worth an event.
-/
import SensorMonitor.Number.Binary64

namespace SensorMonitor

set_option autoImplicit false

/-- The value of a sensor as last published, the raw reading and the range. -/
structure Measurement where
  value : Float
  raw : Float
  min : Float
  max : Float
  triggerBand : Float
  publishBand : Float
  deriving DecidableEq

namespace Measurement

/-- The change is larger than the band, or the value is lost on either side. -/
def isNews (old new band : Float) : Bool :=
  old.isNaN || new.isNaN || band < (old - new).abs

/-- An unknown value over a range, which fixes both bands. -/
def ofRange (min max : Float) : Measurement :=
  let range := max - min
  { value := Number.nan
    raw := Number.nan
    min := min
    max := max
    triggerBand := range * 0.01
    publishBand := range * 0.0001 }

/-- The reading is worth an event. -/
def admits (m : Measurement) (x : Float) : Bool := isNews m.value x m.publishBand

def withValue (m : Measurement) (x : Float) : Measurement := { m with value := x }

def withRaw (m : Measurement) (x : Float) : Measurement := { m with raw := x }

/-- Forgets the value, so that the next reading is news. -/
def forget (m : Measurement) : Measurement := m.withValue Number.nan

end Measurement

end SensorMonitor
