/-
# Json.Writer -- documents to text

Two layouts: `compact` has no blanks at all, `pretty` puts every item on a line of
its own, indented by two places for each container around it, and leaves empty
containers closed up.
-/
import SensorMonitor.Json.Basic

namespace SensorMonitor.Json

set_option autoImplicit false

namespace Writer

/-- A character of a string: the usual escapes, other controls by number, all else bare. -/
def unit (c : Char) : List Char :=
  if c = '"' ∨ c = '\\' then ['\\', c]
  else if c = '\x08' then ['\\', 'b']
  else if c = '\x0c' then ['\\', 'f']
  else if c = '\n' then ['\\', 'n']
  else if c = '\r' then ['\\', 'r']
  else if c = '\t' then ['\\', 't']
  else if c.toNat < 0x20 then
    ['\\', 'u', '0', '0', Nat.digitChar (c.toNat / 16), Nat.digitChar (c.toNat % 16)]
  else [c]

/-- A string in quotes; a string that is no text by half a surrogate pair. -/
def string : Option String → List Char
  | some s => '"' :: s.toList.flatMap unit ++ ['"']
  | none => "\"\\ud800\"".toList

/-- A number as it was written, with the sign of its exponent shown. -/
def numeral (n : Numeral) : List Char :=
  let sign := if n.negative then ['-'] else []
  let fraction := if n.fraction.isEmpty then [] else '.' :: n.fraction
  let exponent :=
    match n.exponent with
    | none => []
    | some e => 'e' :: (if e < 0 then '-' else '+') :: Nat.toDigits 10 e.natAbs
  sign ++ n.whole ++ fraction ++ exponent

/-- A value that is not a container. -/
def scalar : Json → List Char
  | .null => ['n', 'u', 'l', 'l']
  | .bool true => ['t', 'r', 'u', 'e']
  | .bool false => ['f', 'a', 'l', 's', 'e']
  | .number n => numeral n
  | .string s => string s
  | .array _ => ['[', ']']
  | .object _ => ['\x7b', '\x7d']

mutual

/-- A value without blanks. -/
def compact : Json → List Char
  | .array (item :: rest) => '[' :: compact item ++ compactItems rest
  | .object ((key, value) :: rest) =>
      '\x7b' :: string key ++ ':' :: compact value ++ compactMembers rest
  | other => scalar other

/-- The items after the first, and the closing bracket. -/
def compactItems : List Json → List Char
  | [] => [']']
  | item :: rest => ',' :: compact item ++ compactItems rest

/-- The members after the first, and the closing brace. -/
def compactMembers : List (Option String × Json) → List Char
  | [] => ['\x7d']
  | (key, value) :: rest => ',' :: string key ++ ':' :: compact value ++ compactMembers rest

end

/-- A new line at a depth. -/
def newLine (depth : Nat) : List Char := '\n' :: List.replicate (2 * depth) ' '

mutual

/-- A value at a depth, one item a line. -/
def pretty (depth : Nat) : Json → List Char
  | .array (item :: rest) =>
      '[' :: newLine (depth + 1) ++ pretty (depth + 1) item ++ prettyItems depth rest
  | .object ((key, value) :: rest) =>
      '\x7b' :: newLine (depth + 1) ++ string key ++ ':' :: ' ' :: pretty (depth + 1) value
        ++ prettyMembers depth rest
  | other => scalar other

/-- The items after the first, and the closing bracket. -/
def prettyItems (depth : Nat) : List Json → List Char
  | [] => newLine depth ++ [']']
  | item :: rest =>
      ',' :: newLine (depth + 1) ++ pretty (depth + 1) item ++ prettyItems depth rest

/-- The members after the first, and the closing brace. -/
def prettyMembers (depth : Nat) : List (Option String × Json) → List Char
  | [] => newLine depth ++ ['\x7d']
  | (key, value) :: rest =>
      ',' :: newLine (depth + 1) ++ string key ++ ':' :: ' ' :: pretty (depth + 1) value
        ++ prettyMembers depth rest

end

end Writer

/-- The document without blanks. -/
def compact (j : Json) : String := String.ofList (Writer.compact j)

/-- The document with one item a line. -/
def pretty (j : Json) : String := String.ofList (Writer.pretty 0 j)

end SensorMonitor.Json
