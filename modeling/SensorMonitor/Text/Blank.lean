/-
# Text.Blank -- white space at the ends of a text

Attribute files end in a newline and people pad names, so readings and names are
looked at without the blanks around them.  A blank is a character of Unicode's
`White_Space` property, which is wider than `Char.isWhitespace`: it holds the
vertical tab, the form feed, the next-line control and the spaces beyond ASCII.
-/

namespace SensorMonitor.Text

set_option autoImplicit false

/-- The character has Unicode's `White_Space` property. -/
def isBlank (c : Char) : Bool :=
  let n := c.val
  (9 ≤ n && n ≤ 13) || n == 0x20 || n == 0x85 || n == 0xA0 || n == 0x1680 ||
    (0x2000 ≤ n && n ≤ 0x200A) || n == 0x2028 || n == 0x2029 || n == 0x202F ||
    n == 0x205F || n == 0x3000

/-- The characters without the blanks in front and behind. -/
def trimBlanks (cs : List Char) : List Char :=
  ((cs.dropWhile isBlank).reverse.dropWhile isBlank).reverse

/-- The text without the blanks in front and behind. -/
def trim (s : String) : String :=
  String.ofList (trimBlanks s.toList)

end SensorMonitor.Text
