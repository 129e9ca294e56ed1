/-
# Files.Path -- the pieces of a file path

A path is a text whose pieces are divided by slashes.  An empty piece says nothing, one
dot stays where the way has led so far, two dots lead one step up, and every other piece
is the name of what stands there.  Nothing is left out before the way is walked: a piece
that is led back from must be there all the same.  The name at the end splits at its last
dot, unless that dot is its first character.
-/
import SensorMonitor.SystemError

namespace SensorMonitor.Files

set_option autoImplicit false

/-- A path, as the pieces between its slashes. -/
structure Path where
  pieces : List String
  deriving DecidableEq

namespace Path

/-- How a path ends: in a name, in a name with a slash behind it, which only a directory
can have, or in dots or nothing, which name no entry of a directory. -/
inductive Ending where
  | name
  | slash
  | dots
  deriving DecidableEq, Repr

def ofText (text : String) : Path := ⟨(text.split '/').toList.map (·.toString)⟩

def text (path : Path) : String := "/".intercalate path.pieces

/-- The most bytes that a path can have. -/
def sizeLimit : Nat := 4095

/-- The most bytes that a name can have. -/
def nameLimit : Nat := 255

/-- Why a text is no path. -/
def flaw? (path : Path) : Option SystemError :=
  if path.text.contains '\x00' then some .nulInPath
  else if path.text.isEmpty then some .notFound
  else if sizeLimit < path.text.utf8ByteSize then some .nameTooLong
  else none

/-- The pieces that are walked, one after the other. -/
def steps (path : Path) : List String := path.pieces.filter (· ≠ "")

def ending (path : Path) : Ending :=
  match path.steps.getLast? with
  | none | some "." | some ".." => .dots
  | some _ => if path.pieces.getLast? = some "" then .slash else .name

/-- The piece leads away from where it stands. -/
def leads (piece : String) : Bool := piece ≠ "" && piece ≠ "."

/-- From reversed pieces, the paths that end in a piece that leads on, the longest first. -/
def ascending : List String → List Path
  | [] => []
  | piece :: before =>
      if leads piece then ⟨(piece :: before).reverse⟩ :: ascending before else ascending before

/-- The path as it is, and those of the directories above it, without what says nothing at
their ends. -/
def upward (path : Path) : List Path :=
  match ascending path.pieces.reverse with
  | [] => []
  | _ :: above => path :: above

/-- The path of the directory that it stands in. -/
def parent (path : Path) : Path := (path.upward.tail.head?).getD ⟨[]⟩

/-- The pieces before the last one that leads on, and that one. -/
def splitLast? (path : Path) : Option (List String × String) :=
  match path.pieces.reverse.dropWhile (!leads ·) with
  | [] => none
  | last :: before => some (before.reverse, last)

/-- The name at the end of a path. -/
def fileName? (path : Path) : Option String := (path.splitLast?.map (·.2)).filter (· ≠ "..")

/-- A name up to its last dot, the dot at its start apart. -/
def stem (name : List Char) : List Char :=
  match name.reverse.dropWhile (· ≠ '.') with
  | [] => name
  | _ :: before => if before.isEmpty then name else before.reverse

/-- The path with another extension in the place of that of its name.  The old extension goes
first.  When only two dots are left at the end of the path, they lead up and take none. -/
def withExtension (path : Path) (extension : String) : Path :=
  match path.splitLast? with
  | none | some (_, "..") => path
  | some (before, name) =>
      let stem := stem name.toList
      if stem = ['.'] ∧ path.pieces.getLast? = some name then ⟨before ++ [".."]⟩
      else ⟨before ++ [String.ofList (stem ++ '.' :: extension.toList)]⟩

end Path

end SensorMonitor.Files
