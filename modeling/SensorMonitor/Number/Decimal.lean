/-
# Number.Decimal -- decimal numbers and their plain text form

A decimal is `± digits * 10 ^ exponent`.  `Decimal.toFloat` rounds it correctly.
`Decimal.read?` reads the form found in attribute files: an optional sign,
digits with an optional point among them, an optional exponent, and nothing else.
-/
import SensorMonitor.Number.Binary64

namespace SensorMonitor.Number

set_option autoImplicit false

/-- A decimal number, `± digits * 10 ^ exponent`. -/
structure Decimal where
  negative : Bool
  digits : Nat
  exponent : Int
  deriving DecidableEq

/-- The value of a digit. -/
def digitValue (c : Char) : Nat := c.toNat - 48

/-- The number that a word of digits writes. -/
def digitsValue (word : List Char) : Nat :=
  word.foldl (fun value c => 10 * value + digitValue c) 0

namespace Decimal

/-- The float nearest to the decimal, a half going to the even neighbour.  Beyond
`10 ^ 400` and below `10 ^ -330` the answer is known without the powers. -/
def toFloat (d : Decimal) : Float :=
  if d.digits = 0 ∨ d.exponent + (d.digits.log2 / 3 + 1 : Nat) < -330 then withSign d.negative 0
  else if 400 < d.exponent then withSign d.negative (infinityBits)
  else if 0 ≤ d.exponent then ofRatio d.negative (d.digits * Nat.pow 10 d.exponent.toNat) 1
  else ofRatio d.negative d.digits (Nat.pow 10 (-d.exponent).toNat)

/-- Splits a sign off the front of a number. -/
def splitSign : List Char → Bool × List Char
  | '-' :: rest => (true, rest)
  | '+' :: rest => (false, rest)
  | rest => (false, rest)

/-- A whole word of digits behind an optional sign. -/
def readExponent? (text : List Char) : Option Int :=
  let (negative, word) := splitSign text
  if word.isEmpty || !word.all Char.isDigit then none
  else some (if negative then -(digitsValue word : Int) else digitsValue word)

/-- What may follow the digits of a number: nothing, or an exponent. -/
def readTail? : List Char → Option Int
  | [] => some 0
  | c :: rest => if c = 'e' ∨ c = 'E' then readExponent? rest else none

/-- Reads a number that takes up the whole text. -/
def read? (text : List Char) : Option Decimal :=
  let (negative, body) := splitSign text
  let (whole, afterWhole) := body.span Char.isDigit
  let (fraction, rest) :=
    match afterWhole with
    | '.' :: afterPoint => afterPoint.span Char.isDigit
    | _ => ([], afterWhole)
  if whole.isEmpty && fraction.isEmpty then none
  else
    (readTail? rest).map fun exponent =>
      ⟨negative, digitsValue (whole ++ fraction), exponent - fraction.length⟩

end Decimal

end SensorMonitor.Number
