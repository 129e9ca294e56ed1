/-
# Files -- a tree of files and directories

Every file and directory stands under its elements joined by slashes, and every
directory above it is there too.  Paths are walked from the top, which has nothing above
it.  Operations refuse what an operating system refuses, with its errors: a path that is
none, nothing there, a file where a directory is needed, a directory where a file is
needed, an end in dots where an entry of a directory is needed.
-/
import SensorMonitor.Failure
import SensorMonitor.Files.Path
import Std.Data.TreeMap

namespace SensorMonitor

set_option autoImplicit false

/-- What stands at a path. -/
inductive FileNode where
  | file (bytes : ByteArray)
  | directory

/-- A tree of files and directories. -/
structure Files where
  nodes : Std.TreeMap String FileNode

namespace Files

def empty : Files := ⟨∅⟩

/-- The place of a list of elements. -/
def place (elements : List String) : String := "/".intercalate elements

/-- What stands at a list of elements; the top is a directory. -/
def node? (files : Files) (elements : List String) : Option FileNode :=
  if elements.isEmpty then some .directory else files.nodes[place elements]?

/-- Puts a node at a list of elements. -/
def put (files : Files) (elements : List String) (node : FileNode) : Files :=
  ⟨files.nodes.insert (place elements) node⟩

/-- Drops the node at a list of elements. -/
def erase (files : Files) (elements : List String) : Files :=
  ⟨files.nodes.erase (place elements)⟩

/-- Drops all that stands below a list of elements. -/
def clear (files : Files) (elements : List String) : Files :=
  if elements.isEmpty then .empty
  else ⟨files.nodes.filter fun path _ => !path.startsWith (place elements ++ "/")⟩

/-! ## Walking -/

/-- The elements of an entry of a directory, if it can have that name. -/
def entry (here : List String) (name : String) : Except SystemError (List String) :=
  if Path.nameLimit < name.utf8ByteSize then .error .nameTooLong else .ok (here ++ [name])

/-- Goes from one directory to the next. -/
def enter (files : Files) (here : List String) (piece : String) :
    Except SystemError (List String) :=
  if piece = "." then .ok here
  else if piece = ".." then .ok here.dropLast
  else
    match entry here piece with
    | .error cause => .error cause
    | .ok elements =>
        match files.node? elements with
        | some .directory => .ok elements
        | some (.file _) => .error .notDirectory
        | none => .error .notFound

/-- The elements that a path leads to.  All but the last of them are there. -/
def locate (files : Files) (path : Path) : Except SystemError (List String) :=
  match path.flaw?, path.steps.dropLast.foldlM files.enter [], path.steps.getLast? with
  | some flaw, _, _ => .error flaw
  | none, .error cause, _ => .error cause
  | none, .ok here, none => .ok here
  | none, .ok here, some last =>
      if path.ending = .dots then files.enter here last else entry here last

/-- What stands at a path. -/
def find (files : Files) (path : Path) : Except SystemError FileNode :=
  match files.locate path with
  | .error cause => .error cause
  | .ok elements =>
      match files.node? elements with
      | none => .error .notFound
      | some .directory => .ok .directory
      | some (.file bytes) =>
          if path.ending = .slash then .error .notDirectory else .ok (.file bytes)

/-- Something stands at the path. -/
def exists? (files : Files) (path : Path) : Bool := (files.find path).toOption.isSome

/-- A directory stands at the path. -/
def isDirectory (files : Files) (path : Path) : Bool :=
  match files.find path with
  | .ok .directory => true
  | _ => false

/-! ## Reading -/

/-- The size of what stands at a path. -/
def size (files : Files) (path : Path) : Except SystemError Nat :=
  (files.find path).map fun
    | .file bytes => bytes.size
    | .directory => 4096

/-- The bytes of a file. -/
def read (files : Files) (path : Path) : Except SystemError ByteArray :=
  match files.find path with
  | .error cause => .error cause
  | .ok .directory => .error .isDirectory
  | .ok (.file bytes) => .ok bytes

/-- The text of a file. -/
def readText (files : Files) (path : Path) : Except SystemError String :=
  match files.read path with
  | .error cause => .error cause
  | .ok bytes =>
      match String.fromUTF8? bytes with
      | some text => .ok text
      | none => .error .notText

/-- Refuses a file that is larger than a limit. -/
def checkSize (files : Files) (path : String) (limit : Nat) : Except Failure Unit :=
  match files.size (.ofText path) with
  | .error cause => .error (.unreadable path cause)
  | .ok size => if limit < size then .error (.oversized path size limit) else .ok ()

/-- The text of a file that is not larger than a limit. -/
def readTextUpTo (files : Files) (path : String) (limit : Nat) : Except Failure String := do
  files.checkSize path limit
  match files.readText (.ofText path) with
  | .error cause => .error (.unreadable path cause)
  | .ok text => .ok text

/-- All paths in ascending order, those of directories with a slash at the end. -/
def list (files : Files) : List String :=
  let paths := files.nodes.toList.map fun (path, node) =>
    match node with
    | .directory => path ++ "/"
    | .file _ => path
  paths.mergeSort fun a b => a ≤ b

/-! ## Writing -/

/-- Makes a directory in one that is there. -/
def makeDirectory (files : Files) (path : Path) : Except SystemError Files :=
  match files.locate path with
  | .error cause => .error cause
  | .ok elements =>
      if path.ending = .dots || (files.node? elements).isSome then .error .alreadyExists
      else .ok (files.put elements .directory)

/-- Makes a directory, unless it is there. -/
def ensureDirectory (files : Files) (path : Path) : Except SystemError Files :=
  match files.makeDirectory path with
  | .ok made => .ok made
  | .error cause => if files.isDirectory path then .ok files else .error cause

/-- Makes the first of the directories, each of which stands in the next.  The next is
made before it only where something is missing above. -/
def makeUpward (files : Files) : List Path → Files × Except SystemError Unit
  | [] => (files, .ok ())
  | path :: above =>
      match files.ensureDirectory path with
      | .ok made => (made, .ok ())
      | .error cause =>
          if cause = .notFound then
            match files.makeUpward above with
            | (made, .error cause) => (made, .error cause)
            | (made, .ok ()) =>
                match made.ensureDirectory path with
                | .ok made => (made, .ok ())
                | .error cause => (made, .error cause)
          else (files, .error cause)

/-- Makes a directory and all that are missing above it.  Those made before a failure
stay. -/
def makeDirectories (files : Files) (path : Path) : Files × Except SystemError Unit :=
  files.makeUpward path.upward

/-- Writes a file whole; an older one at the path is gone. -/
def write (files : Files) (path : Path) (bytes : ByteArray) : Except SystemError Files :=
  match files.locate path with
  | .error cause => .error cause
  | .ok elements =>
      match path.ending, files.node? elements with
      | .slash, _ | .dots, _ | .name, some .directory => .error .isDirectory
      | .name, _ => .ok (files.put elements (.file bytes))

/-- Drops a file, or a directory with all that stands below it.  A directory that is
named by dots loses what stands below it and stays, which is a failure as long as the path
still leads to it. -/
def remove (files : Files) (path : Path) : Files × Except SystemError Unit :=
  match files.locate path, files.find path with
  | .error cause, _ | _, .error cause => (files, .error cause)
  | .ok elements, .ok (.file _) => (files.erase elements, .ok ())
  | .ok elements, .ok .directory =>
      let cleared := files.clear elements
      if path.ending = .dots then
        (cleared, if cleared.exists? path then .error .busy else .ok ())
      else (cleared.erase elements, .ok ())

/-- Moves a file; one at the new path is replaced. -/
def rename (files : Files) (path target : Path) : Except SystemError Files :=
  match files.locate path, files.locate target, files.read path with
  | .error cause, _, _ | _, .error cause, _ => .error cause
  | .ok old, .ok new, bytes =>
      if target.ending = .dots then .error .busy
      else
        match bytes with
        | .error cause => .error cause
        | .ok bytes =>
            match target.ending, files.node? new with
            | .slash, _ => .error .notDirectory
            | _, some .directory => .error .isDirectory
            | _, _ => .ok ((files.erase old).put new (.file bytes))

end Files

end SensorMonitor
