/-
# Number.Text -- floats in messages

Messages write every number with its point in place, with the fewest digits that
read back and without an empty fraction.  Of two such texts that are equally near to the
number the one farther from zero stands.
-/
import SensorMonitor.Number.Shortest

namespace SensorMonitor.Number

set_option autoImplicit false

namespace Digits

/-- The digits before and behind the point; before it there is at least one. -/
def parts (d : Digits) : List Char × List Char :=
  if d.point ≤ 0 then (['0'], List.replicate (-d.point).toNat '0' ++ d.digits)
  else
    let places := d.point.toNat
    (d.digits.take places ++ List.replicate (places - d.digits.length) '0', d.digits.drop places)

/-- The digits with the point in place, and none where nothing follows it. -/
def positional (d : Digits) : List Char :=
  match d.parts with
  | (whole, []) => whole
  | (whole, fraction) => whole ++ '.' :: fraction

end Digits

/-- A float in a message. -/
def plain (x : Float) : String :=
  match magnitude? x with
  | some m =>
      let body := if m.significand = 0 then ['0'] else (shortest .up m).positional
      String.ofList (if isNegative x then '-' :: body else body)
  | none => if x.isNaN then "NaN" else if isNegative x then "-inf" else "inf"

end SensorMonitor.Number
