/-
# Number.Binary64 -- finite floats as integers, and the float nearest to a quotient

A finite binary64 number is `± significand * 2 ^ exponent` with a significand
below `2 ^ 53` and an exponent from `-1074` on (`magnitude?`).  The other way,
`ofRatio` takes the number nearest to a quotient of naturals, a half going to
the even neighbour, all in exact arithmetic.
-/

namespace SensorMonitor.Number

set_option autoImplicit false

/-- The float that stands for "no number". -/
def nan : Float := Float.ofBits 0x7FF8000000000000

/-- The larger of the two infinities. -/
def infinity : Float := Float.ofBits 0x7FF0000000000000

/-- The bit of the sign, `2 ^ 63`. -/
def signBit : Nat := 0x8000000000000000

/-- The bits of the larger infinity. -/
def infinityBits : Nat := 0x7FF0000000000000

/-- The first bit of the significand of a number that is not tiny, `2 ^ 52`. -/
def leadingBit : Nat := 0x10000000000000

/-- The float is below zero or is the negative zero. -/
def isNegative (x : Float) : Bool := signBit ≤ x.toBits.toNat

/-- The float with its sign set. -/
def withSign (negative : Bool) (bits : Nat) : Float :=
  Float.ofBits (UInt64.ofNat ((if negative then signBit else 0) + bits))

/-- A dyadic magnitude, `significand * 2 ^ exponent`. -/
structure Magnitude where
  significand : Nat
  exponent : Int
  deriving DecidableEq

/-- The size of a finite float; `none` for the infinities and for NaN. -/
def magnitude? (x : Float) : Option Magnitude :=
  let field : Nat := x.toBits.toNat / leadingBit % 0x800
  let fraction : Nat := x.toBits.toNat % leadingBit
  if field = 0x7FF then none
  else if field = 0 then some ⟨fraction, -1074⟩
  else some ⟨leadingBit + fraction, (field : Int) - 1075⟩

/-- The integer nearest to `num / den`, a half going to the even one. -/
def nearestEven (num den : Nat) : Nat :=
  let quotient := num / den
  let rest := num % den
  if 2 * rest < den then quotient
  else if den < 2 * rest then quotient + 1
  else quotient + quotient % 2

/-- The two terms of `num / den / 2 ^ exponent`. -/
def scaleRatio (num den : Nat) (exponent : Int) : Nat × Nat :=
  if 0 ≤ exponent then (num, den * Nat.pow 2 exponent.toNat)
  else (num * Nat.pow 2 (-exponent).toNat, den)

/-- The exponent at which the significand of `num / den` has 53 binary places, or
the least exponent there is. -/
def ratioExponent (num den : Nat) : Int :=
  let guess : Int := (num.log2 : Int) - den.log2 - 52
  let scaled := scaleRatio num den guess
  max (-1074) (if leadingBit ≤ scaled.1 / scaled.2 then guess else guess - 1)

/-- The bits of the float nearest to `num / den`; beyond the largest, of infinity. -/
def ratioBits (num den : Nat) : Nat :=
  if num = 0 then 0
  else
    let exponent := ratioExponent num den
    let scaled := scaleRatio num den exponent
    min infinityBits ((exponent + 1074).toNat * leadingBit + nearestEven scaled.1 scaled.2)

/-- The float nearest to `± num / den`, a half going to the even neighbour. -/
def ofRatio (negative : Bool) (num den : Nat) : Float :=
  withSign negative (ratioBits num den)

end SensorMonitor.Number
