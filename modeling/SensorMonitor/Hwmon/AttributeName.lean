/-
# Hwmon.AttributeName -- the names of attribute files

The name of an attribute is a kind in small letters, an index in digits, an
underscore, and an item in small letters and underscores, as in `temp1_input`.
-/
import SensorMonitor.Number.Decimal
import SensorMonitor.Quantity

namespace SensorMonitor.Hwmon

set_option autoImplicit false

open SensorMonitor.Number

/-- The parts of the name of an attribute file. -/
structure AttributeName where
  kind : String
  index : Nat
  item : String
  deriving DecidableEq

namespace AttributeName

/-- The largest index. -/
def largestIndex : Nat := 0xFFFFFFFF

def isSmall (c : Char) : Bool := 'a' ≤ c && c ≤ 'z'

def isItemChar (c : Char) : Bool := isSmall c || c = '_'

/-- Splits a name into its parts. -/
def ofChars? (name : List Char) : Option AttributeName :=
  let (kind, afterKind) := name.span isSmall
  let (digits, afterDigits) := afterKind.span Char.isDigit
  match afterDigits with
  | '_' :: item =>
      if kind.isEmpty || digits.isEmpty || item.isEmpty || !item.all isItemChar then none
      else if largestIndex < digitsValue digits then none
      else some ⟨String.ofList kind, digitsValue digits, String.ofList item⟩
  | _ => none

/-- The parts of a name. -/
def of? (name : String) : Option AttributeName := ofChars? name.toList

/-- What the attribute measures. -/
def quantity? (name : String) : Option Quantity :=
  (of? name).bind fun parts => Quantity.ofAttributeKind? parts.kind

end AttributeName

end SensorMonitor.Hwmon
