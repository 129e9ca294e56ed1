/-
# Number.Shortest -- the fewest digits that read back

The text of a float has as few digits as suffice to tell it from its neighbours.
The reals that round to a float form an interval, with its ends iff the
significand is even.  For one digit, two, and so on up to seventeen, the two
neighbours of the value on that decimal grid are tested against the interval in
exact arithmetic; the first grid with a hit wins, of two hits the nearer.  Of two that are
equally near, each use of the text has its own choice.
-/
import SensorMonitor.Number.Binary64

namespace SensorMonitor.Number

set_option autoImplicit false

/-- Which of two equally near neighbours stands for a value. -/
inductive Tie where
  /-- The one with the even last digit. -/
  | toEven
  /-- The greater one. -/
  | up
  deriving DecidableEq, Repr

/-- The choice between a number and the next. -/
def Tie.choose (tie : Tie) (below : Nat) : Nat :=
  match tie with
  | .toEven => below + below % 2
  | .up => below + 1

/-- A positive decimal in digits, `0.d₁d₂… * 10 ^ point`. -/
structure Digits where
  digits : List Char
  point : Int
  deriving DecidableEq

/-- A positive quotient of naturals. -/
structure Ratio where
  num : Nat
  den : Nat
  deriving DecidableEq

namespace Ratio

/-- `n * base ^ exponent`. -/
def scaled (n base : Nat) (exponent : Int) : Ratio :=
  if 0 ≤ exponent then ⟨n * Nat.pow base exponent.toNat, 1⟩
  else ⟨n, Nat.pow base (-exponent).toNat⟩

def lt (a b : Ratio) : Bool := a.num * b.den < b.num * a.den

def le (a b : Ratio) : Bool := a.num * b.den ≤ b.num * a.den

/-- The whole part of `a / b`. -/
def floorDiv (a b : Ratio) : Nat := (a.num * b.den) / (a.den * b.num)

end Ratio

/-- The reals that round to one float. -/
structure Rounding where
  low : Ratio
  value : Ratio
  high : Ratio
  closed : Bool

namespace Rounding

/-- The interval around `m`.  Below a power of two the next float is half as far. -/
def of (m : Magnitude) : Rounding :=
  let step : Nat := if m.significand = leadingBit ∧ -1074 < m.exponent then 1 else 2
  { low := Ratio.scaled (4 * m.significand - step) 2 (m.exponent - 2)
    value := Ratio.scaled (4 * m.significand) 2 (m.exponent - 2)
    high := Ratio.scaled (4 * m.significand + 2) 2 (m.exponent - 2)
    closed := m.significand % 2 = 0 }

def contains (i : Rounding) (r : Ratio) : Bool :=
  if i.closed then i.low.le r && r.le i.high else i.low.lt r && r.lt i.high

/-- The least power of ten above the value, searched from just below its binary estimate. -/
def decade (i : Rounding) (estimate : Int) : Int :=
  ([estimate - 1, estimate, estimate + 1].find? fun p => i.value.lt (Ratio.scaled 1 10 p)).getD
    (estimate + 2)

/-- The point of the grid `10 ^ grid` that stands for the value, if one does. -/
def onGrid? (i : Rounding) (tie : Tie) (grid : Int) : Option Nat :=
  let below := i.value.floorDiv (Ratio.scaled 1 10 grid)
  match i.contains (Ratio.scaled below 10 grid), i.contains (Ratio.scaled (below + 1) 10 grid) with
  | false, false => none
  | true, false => some below
  | false, true => some (below + 1)
  | true, true =>
      let middle := Ratio.scaled (10 * below + 5) 10 (grid - 1)
      if i.value.lt middle then some below
      else if middle.lt i.value then some (below + 1)
      else some (tie.choose below)

end Rounding

/-- The fewest digits that read back as the nonzero magnitude. -/
def shortest (tie : Tie) (m : Magnitude) : Digits :=
  let interval := Rounding.of m
  let estimate : Int := ((m.significand.log2 : Int) + m.exponent) * 30103 / 100000 + 1
  let decade := interval.decade estimate
  let found := (List.range 17).findSome? fun count =>
    (interval.onGrid? tie (decade - (count + 1 : Nat))).map fun n => (n, decade - (count + 1 : Nat))
  let (n, grid) := found.getD (m.significand, 0)
  let word := Nat.toDigits 10 n
  { digits := (word.reverse.dropWhile (· = '0')).reverse
    point := grid + word.length }

end SensorMonitor.Number
