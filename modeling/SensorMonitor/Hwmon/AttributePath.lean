/-
# Hwmon.AttributePath -- which attribute files may be opened

The path of an attribute comes from a configuration, so it is held to a narrow form:
not long, below one of three roots, of plain characters, without an element or a
double slash that would lead out of its root.
-/
import SensorMonitor.Failure

namespace SensorMonitor.Hwmon.AttributePath

set_option autoImplicit false

/-- The most bytes that a path may have. -/
def lengthLimit : Nat := 256

/-- Where attributes live. -/
def roots : List String := ["/sys/class/hwmon/", "/sys/devices/", "/sys/bus/"]

/-- What may occur nowhere in a path. -/
def forbidden : List String := ["..", "//", "\x00", "\n", "\r"]

/-- The word occurs in the text. -/
def occursIn (word : List Char) : List Char → Bool
  | [] => word.isEmpty
  | c :: rest => word.isPrefixOf (c :: rest) || occursIn word rest

/-- The character may stand in a path. -/
def isPathChar (c : Char) : Bool :=
  c.isAlphanum || c = '/' || c = '-' || c = '_' || c = '.' || c = ':'

/-- The first flaw of a path. -/
def flaw? (path : String) : Option PathFlaw :=
  let cs := path.toList
  if lengthLimit < path.utf8ByteSize then some (.tooLong path.utf8ByteSize lengthLimit)
  else if cs.isEmpty then some .empty
  else if cs.head? ≠ some '/' then some .notAbsolute
  else if !roots.any fun root => root.toList.isPrefixOf cs then some (.outside roots)
  else
    match forbidden.find? fun word => occursIn word.toList cs with
    | some word => some (.forbiddenSequence word)
    | none => (cs.find? fun c => !isPathChar c).map .forbiddenCharacter

end SensorMonitor.Hwmon.AttributePath
