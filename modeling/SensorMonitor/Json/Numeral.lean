/-
# Json.Numeral -- what a number in a document means

An integer is a numeral without point and exponent; it fits 64 bits, else it is
read as a float.  A float is read from as many leading digits as fit 64 bits,
scaled by one power of ten; a result beyond the largest float is refused, one
below the smallest is zero.  A float is written with the fewest digits that read
back, a tie going to the even digit, its point in place from `0.00001` to below
`10 ^ 16` and always with a fraction, otherwise with an exponent.
-/
import SensorMonitor.Json.Basic
import SensorMonitor.Number.Decimal
import SensorMonitor.Number.Text

namespace SensorMonitor.Json

set_option autoImplicit false

open SensorMonitor.Number

/-! ## Reading -/

/-- The largest significand that is kept. -/
def largestSignificand : Nat := 0xFFFFFFFFFFFFFFFF

/-- The digits taken up into a significand, and those left from the first that does
not fit any more. -/
def takeDigits (significand : Nat) : List Char → Nat × List Char
  | [] => (significand, [])
  | c :: rest =>
      let next := 10 * significand + digitValue c
      if next ≤ largestSignificand then takeDigits next rest else (significand, c :: rest)

/-- A power of ten. -/
def powerOfTen (n : Nat) : Float := Decimal.toFloat ⟨false, 1, n⟩

/-- Divides by `10 ^ places`, at most `10 ^ 308` at a time. -/
def divideByPower (x : Float) (places : Nat) : Float :=
  if places ≤ 308 then x / powerOfTen places
  else if x == 0 then x
  else divideByPower (x / powerOfTen 308) (places - 308)
termination_by places

/-- `significand * 10 ^ exponent`, or `none` beyond the largest float. -/
def scale? (significand : Nat) (exponent : Int) : Option Float :=
  let x := ofRatio false significand 1
  if exponent < 0 then some (divideByPower x exponent.natAbs)
  else if 308 < exponent then if significand = 0 then some x else none
  else
    let scaled := x * powerOfTen exponent.toNat
    if scaled.isInf then none else some scaled

namespace Numeral

/-- The numeral has neither point nor exponent. -/
def isInteger (n : Numeral) : Bool := n.fraction.isEmpty && n.exponent.isNone

/-- The float that the numeral stands for.  Digits that do not fit the significand
any more count as places before the point and are dropped behind it. -/
def toFloat? (n : Numeral) : Option Float :=
  let (whole, wholeLeft) := takeDigits 0 n.whole
  let (significand, fractionLeft) := takeDigits whole n.fraction
  let places : Int := (wholeLeft.length : Int) - (n.fraction.length - fractionLeft.length : Nat)
  (scale? significand (places + n.exponent.getD 0)).map fun x => if n.negative then -x else x

/-- The natural number that the numeral stands for, if it is an integer below
`2 ^ 64`. -/
def toNat? (n : Numeral) : Option Nat :=
  if n.isInteger && !n.negative && digitsValue n.whole ≤ largestSignificand then
    some (digitsValue n.whole)
  else none

/-! ## Writing -/

/-- The digits of a positive float as a numeral. -/
def ofDigits (negative : Bool) (d : Digits) : Numeral :=
  if -4 ≤ d.point ∧ d.point ≤ 16 then
    match d.parts with
    | (whole, []) => ⟨negative, whole, ['0'], none⟩
    | (whole, fraction) => ⟨negative, whole, fraction, none⟩
  else ⟨negative, d.digits.take 1, d.digits.drop 1, some (d.point - 1)⟩

/-- The numeral of a finite float. -/
def ofFloat? (x : Float) : Option Numeral :=
  (magnitude? x).map fun m =>
    if m.significand = 0 then ⟨isNegative x, ['0'], ['0'], none⟩
    else ofDigits (isNegative x) (shortest .toEven m)

end Numeral

/-- A float; NaN and the infinities have no numeral and are written as `null`. -/
def float (x : Float) : Json :=
  match Numeral.ofFloat? x with
  | some n => .number n
  | none => .null

end SensorMonitor.Json
