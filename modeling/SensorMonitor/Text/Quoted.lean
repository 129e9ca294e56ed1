/-
# Text.Quoted -- texts as messages show them

A quoted text keeps what has a graphic form and escapes the rest: the usual
control characters by a letter, the enclosing quote and the backslash by a
backslash, everything else without a place of its own by its code point in
hexadecimal.  `asciiEscaped` is the stricter form for names: all but the visible
ASCII characters are escaped.
-/
import SensorMonitor.Text.Printable

namespace SensorMonitor.Text

set_option autoImplicit false

/-- A code point in hexadecimal. -/
def codePointEscape (c : Char) : List Char :=
  ['\\', 'u', '\x7b'] ++ Nat.toDigits 16 c.toNat ++ ['\x7d']

/-- A character inside quotes of the given kind. -/
def quotedUnit (quote c : Char) : List Char :=
  if c = '\x00' then ['\\', '0']
  else if c = '\t' then ['\\', 't']
  else if c = '\n' then ['\\', 'n']
  else if c = '\r' then ['\\', 'r']
  else if c = quote ∨ c = '\\' then ['\\', c]
  else if extendsGrapheme c || !isPrintable c then codePointEscape c
  else [c]

/-- A text in double quotes. -/
def quoted (s : String) : String :=
  String.ofList ('"' :: s.toList.flatMap (quotedUnit '"') ++ ['"'])

/-- A character in single quotes. -/
def quotedChar (c : Char) : String :=
  String.ofList ('\'' :: quotedUnit '\'' c ++ ['\''])

/-- Texts in double quotes, in brackets and with commas between them. -/
def quotedList (xs : List String) : String :=
  "[" ++ ", ".intercalate (xs.map quoted) ++ "]"

/-- A character of a name in visible ASCII. -/
def asciiUnit (c : Char) : List Char :=
  if c = '\t' then ['\\', 't']
  else if c = '\n' then ['\\', 'n']
  else if c = '\r' then ['\\', 'r']
  else if c = '\'' ∨ c = '"' ∨ c = '\\' then ['\\', c]
  else if 0x20 ≤ c.toNat ∧ c.toNat ≤ 0x7E then [c]
  else codePointEscape c

/-- A name in visible ASCII. -/
def asciiEscaped (s : String) : String :=
  String.ofList (s.toList.flatMap asciiUnit)

end SensorMonitor.Text
