/-
# Tally -- how well a device answers

Counts of the readings that were and were not a number, the lengths of the current
runs of either kind, and the extremes of the numbers.
-/

namespace SensorMonitor

set_option autoImplicit false

/-- Statistics of the readings of one sensor. -/
structure Tally where
  good : Nat
  missed : Nat
  goodStreak : Nat
  missedStreak : Nat
  lowest : Float
  highest : Float
  deriving DecidableEq

namespace Tally

/-- Nothing was read yet. -/
def empty : Tally := ⟨0, 0, 0, 0, 0, 0⟩

/-- A reading that is no number. -/
def recordMissed (t : Tally) : Tally :=
  { t with missed := t.missed + 1, missedStreak := t.missedStreak + 1, goodStreak := 0 }

/-- A reading that is a number; the first is both extremes. -/
def recordGood (t : Tally) (x : Float) : Tally :=
  let lowest := if t.good = 0 then x else t.lowest
  let highest := if t.good = 0 then x else t.highest
  { t with
    good := t.good + 1
    goodStreak := t.goodStreak + 1
    missedStreak := 0
    lowest := if x < lowest then x else lowest
    highest := if highest < x then x else highest }

/-- Takes a reading into account. -/
def record (t : Tally) (x : Float) : Tally :=
  if x.isFinite then t.recordGood x else t.recordMissed

end Tally

end SensorMonitor
