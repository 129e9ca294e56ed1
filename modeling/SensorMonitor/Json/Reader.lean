/-
# Json.Reader -- documents from text

One value with blanks around it and nothing else.  Every reader takes what it can
from the front of the text and returns the rest.  Nesting is bounded by the length
of the text, which is the fuel of `value?`.
-/
import SensorMonitor.Json.Basic
import SensorMonitor.Number.Decimal

namespace SensorMonitor.Json.Reader

set_option autoImplicit false

open SensorMonitor.Number

/-- The four blanks of a document. -/
def isBlank (c : Char) : Bool := c = ' ' || c = '\t' || c = '\n' || c = '\r'

def skipBlanks (text : List Char) : List Char := text.dropWhile isBlank

/-! ## Strings -/

/-- The value of a hexadecimal digit of either case. -/
def hexValue? (c : Char) : Option Nat :=
  if c.isDigit then some (c.toNat - 48)
  else if 'a' ≤ c ∧ c ≤ 'f' then some (c.toNat - 87)
  else if 'A' ≤ c ∧ c ≤ 'F' then some (c.toNat - 55)
  else none

/-- A code unit in four hexadecimal digits. -/
def codeUnit? (a b c d : Char) : Option Nat := do
  some ((((← hexValue? a) * 16 + (← hexValue? b)) * 16 + (← hexValue? c)) * 16 + (← hexValue? d))

/-- The character that a letter after a backslash stands for. -/
def shortEscape? (c : Char) : Option Char :=
  if c = '"' ∨ c = '\\' ∨ c = '/' then some c
  else if c = 'b' then some '\x08'
  else if c = 'f' then some '\x0c'
  else if c = 'n' then some '\n'
  else if c = 'r' then some '\r'
  else if c = 't' then some '\t'
  else none

/-- One unit of a string body: a character, or half of a surrogate pair. -/
inductive StringUnit where
  | char (c : Char)
  | half (n : Nat)
  deriving DecidableEq

def isLeadingHalf (n : Nat) : Bool := 0xD800 ≤ n && n < 0xDC00

def isTrailingHalf (n : Nat) : Bool := 0xDC00 ≤ n && n < 0xE000

/-- The unit that a code unit is. -/
def StringUnit.ofCodeUnit (n : Nat) : StringUnit :=
  if isLeadingHalf n || isTrailingHalf n then .half n else .char (Char.ofNat n)

/-- The units up to the closing quote, put in front of those already `read`. -/
def units? (read : List StringUnit) : List Char → Option (List StringUnit × List Char)
  | [] => none
  | '"' :: rest => some (read.reverse, rest)
  | '\\' :: 'u' :: a :: b :: c :: d :: rest =>
      match codeUnit? a b c d with
      | some n => units? (.ofCodeUnit n :: read) rest
      | none => none
  | '\\' :: c :: rest =>
      match shortEscape? c with
      | some e => units? (.char e :: read) rest
      | none => none
  | c :: rest => if c = '\\' ∨ c.toNat < 0x20 then none else units? (.char c :: read) rest

/-- The character of a surrogate pair. -/
def pairedChar (leading trailing : Nat) : Char :=
  Char.ofNat (0x10000 + (leading - 0xD800) * 0x400 + (trailing - 0xDC00))

/-- The text of units, behind the characters already `read`; there is none where a half
stands alone. -/
def textOf? (read : List Char) : List StringUnit → Option String
  | [] => some (String.ofList read.reverse)
  | .char c :: rest => textOf? (c :: read) rest
  | .half n :: .half m :: rest =>
      if isLeadingHalf n && isTrailingHalf m then textOf? (pairedChar n m :: read) rest else none
  | .half _ :: _ => none

/-- A string behind its opening quote; no text if it holds a half alone. -/
def string? (text : List Char) : Option (Option String × List Char) :=
  (units? [] text).map fun (us, rest) => (textOf? [] us, rest)

/-! ## Numbers -/

/-- A whole part: a zero alone, or digits of which the first is not a zero. -/
def whole? (text : List Char) : Option (List Char × List Char) :=
  match text with
  | '0' :: c :: rest => if c.isDigit then none else some (['0'], c :: rest)
  | _ =>
      let (digits, rest) := text.span Char.isDigit
      if digits.isEmpty then none else some (digits, rest)

/-- The digits behind a point; none without a point. -/
def fraction? : List Char → Option (List Char × List Char)
  | '.' :: rest =>
      let (digits, rest) := rest.span Char.isDigit
      if digits.isEmpty then none else some (digits, rest)
  | text => some ([], text)

/-- An exponent, if there is one. -/
def exponent? : List Char → Option (Option Int × List Char)
  | [] => some (none, [])
  | c :: rest =>
      if c = 'e' ∨ c = 'E' then
        let (negative, body) := Decimal.splitSign rest
        let (digits, rest) := body.span Char.isDigit
        if digits.isEmpty then none
        else
          let size : Int := digitsValue digits
          some (some (if negative then -size else size), rest)
      else some (none, c :: rest)

/-- A number. -/
def number? (text : List Char) : Option (Numeral × List Char) := do
  let (negative, text) :=
    match text with
    | '-' :: rest => (true, rest)
    | _ => (false, text)
  let (whole, text) ← whole? text
  let (fraction, text) ← fraction? text
  let (exponent, text) ← exponent? text
  some (⟨negative, whole, fraction, exponent⟩, text)

/-! ## Values -/

/-- The text behind a word that it starts with. -/
def afterWord? : List Char → List Char → Option (List Char)
  | [], text => some text
  | c :: word, d :: text => if c = d then afterWord? word text else none
  | _ :: _, [] => none

/-- A value that is not a container. -/
def scalar? (text : List Char) : Option (Json × List Char) :=
  match text with
  | '"' :: rest => (string? rest).map fun (s, rest) => (.string s, rest)
  | 'n' :: _ => (afterWord? ['n', 'u', 'l', 'l'] text).map fun rest => (.null, rest)
  | 't' :: _ => (afterWord? ['t', 'r', 'u', 'e'] text).map fun rest => (.bool true, rest)
  | 'f' :: _ => (afterWord? ['f', 'a', 'l', 's', 'e'] text).map fun rest => (.bool false, rest)
  | _ => (number? text).map fun (n, rest) => (.number n, rest)

/-- A key and the colon behind it. -/
def key? (text : List Char) : Option (Option String × List Char) :=
  match skipBlanks text with
  | '"' :: rest => do
      let (key, rest) ← string? rest
      match skipBlanks rest with
      | ':' :: rest => some (key, rest)
      | _ => none
  | _ => none

mutual

/-- A value with blanks before it. -/
def value? : Nat → List Char → Option (Json × List Char)
  | 0, _ => none
  | fuel + 1, text =>
      match skipBlanks text with
      | '[' :: rest =>
          match skipBlanks rest with
          | ']' :: rest => some (.array [], rest)
          | _ => (items? fuel [] rest).map fun (items, rest) => (.array items, rest)
      | '\x7b' :: rest =>
          match skipBlanks rest with
          | '\x7d' :: rest => some (.object [], rest)
          | _ => (members? fuel [] rest).map fun (members, rest) => (.object members, rest)
      | text => scalar? text

/-- Values with commas between them up to the closing bracket. -/
def items? : Nat → List Json → List Char → Option (List Json × List Char)
  | 0, _, _ => none
  | fuel + 1, read, text =>
      match value? fuel text with
      | none => none
      | some (item, rest) =>
          match skipBlanks rest with
          | ',' :: rest => items? fuel (item :: read) rest
          | ']' :: rest => some ((item :: read).reverse, rest)
          | _ => none

/-- Members with commas between them up to the closing brace. -/
def members? : Nat → List (Option String × Json) → List Char →
    Option (List (Option String × Json) × List Char)
  | 0, _, _ => none
  | fuel + 1, read, text =>
      match key? text with
      | none => none
      | some (key, rest) =>
          match value? fuel rest with
          | none => none
          | some (value, rest) =>
              match skipBlanks rest with
              | ',' :: rest => members? fuel ((key, value) :: read) rest
              | '\x7d' :: rest => some (((key, value) :: read).reverse, rest)
              | _ => none

end

end SensorMonitor.Json.Reader

namespace SensorMonitor.Json

/-- The document that takes up the whole text, blanks around it apart. -/
def parse? (text : String) : Option Json :=
  let chars := text.toList
  match Reader.value? (2 * chars.length + 2) chars with
  | some (value, rest) => if (Reader.skipBlanks rest).isEmpty then some value else none
  | none => none

end SensorMonitor.Json
