/-
# Json.Basic -- documents

A document is kept as its text wrote it: a number by its digits, a string whose
escapes name half of a surrogate pair as no text, an object as its members in
order with repetitions.  What a number or a repetition means is for the reader of
the document to say (`Json.Numeral`, `Json.Decode`).
-/

namespace SensorMonitor

set_option autoImplicit false

namespace Json

/-- A number as written: a whole part, the digits behind the point (none without a
point), and an exponent if there is one. -/
structure Numeral where
  negative : Bool
  whole : List Char
  fraction : List Char
  exponent : Option Int
  deriving DecidableEq

end Json

/-- A document.  A string or a key is `none` when half of a surrogate pair stands
alone in it. -/
inductive Json where
  | null
  | bool (b : Bool)
  | number (n : Json.Numeral)
  | string (text : Option String)
  | array (items : List Json)
  | object (members : List (Option String × Json))

namespace Json

/-- A string that is a text. -/
def text (s : String) : Json := .string (some s)

/-- An object whose keys are texts. -/
def ofMembers (members : List (String × Json)) : Json :=
  .object (members.map fun member => (some member.1, member.2))

/-- A member that is left out where there is nothing to say. -/
def optionalMember {α : Type} (key : String) (encode : α → Json) : Option α → List (String × Json)
  | some a => [(key, encode a)]
  | none => []

/-- A natural number. -/
def nat (n : Nat) : Json := .number ⟨false, Nat.toDigits 10 n, [], none⟩

end Json

end SensorMonitor
