import ShellInit.Files.Fault

/-!
# A tree of files

Files and directories below a root, and what happens when paths are followed, read and written
there: from the root if they begin with a slash, and else from the working directory. Everything has
one name in its directory, so that links are not among the files.
-/

namespace ShellInit

inductive FileNode
  | file (content : ByteArray) (executable : Bool)
  | directory
  /-- What can neither be read, written nor passed, and why. -/
  | barred (fault : Fault)

/-- A place in a tree: the names that lead there from the root. -/
abbrev Place := List String

structure FileTree where
  nodes : List (Place × FileNode) := []
  /-- Where paths start that do not begin with a slash. -/
  workDirectory : Place := []

/-- Longer names are refused. -/
def nameLimit : Nat := 255

/-- Longer paths are refused. -/
def pathLimit : Nat := 4095

/-- The names in a path between its slashes. -/
def pathNames (path : String) : List String := (path.toList.splitOn '/').map .ofList

/-- The parts of a path: its names, of which dots and empty ones count at the front only, where the
empty one stands for the root. -/
def pathParts (path : String) : List String :=
  let names := (pathNames path).filter fun name ↦ name ≠ "" && name ≠ "."
  match pathNames path with
  | "" :: _ :: _ => "" :: names
  | "." :: _ => "." :: names
  | _ => names

namespace FileTree

/-- What stands at a place; at the root it is always a directory. -/
def node? (t : FileTree) (place : Place) : Option FileNode :=
  if place = [] then some .directory else t.nodes.lookup place

def insert (t : FileTree) (place : Place) (node : FileNode) : FileTree :=
  { t with nodes := (place, node) :: t.nodes.filter (·.1 ≠ place) }

/-- Goes on by one name from a place, which must be a directory. Above the root there is only the
root. -/
def enter (t : FileTree) (place : Place) (name : String) : Except Fault Place :=
  match t.node? place with
  | none => .error .notFound
  | some (.file _ _) => .error .notDirectory
  | some (.barred fault) => .error fault
  | some .directory =>
    if name = "" ∨ name = "." then .ok place
    else if name = ".." then .ok place.dropLast
    else if nameLimit < name.utf8ByteSize then .error .nameTooLong
    else if (t.node? (place ++ [name])).isSome then .ok (place ++ [name])
    else .error .notFound

def origin (t : FileTree) (path : String) : Place :=
  if path.toList.head? = some '/' then [] else t.workDirectory

/-- Refuses what is no path at all. -/
def checkPath (path : String) : Except Fault Unit :=
  if path.toList.contains '\x00' then .error .nulInPath
  else if path = "" then .error .notFound
  else if pathLimit < path.utf8ByteSize then .error .nameTooLong
  else .ok ()

def resolve (t : FileTree) (path : String) : Except Fault Place := do
  checkPath path
  (pathNames path).foldlM t.enter (t.origin path)

def holds (t : FileTree) (path : String) : Bool :=
  match t.resolve path with
  | .ok _ => true
  | .error _ => false

def content (t : FileTree) (place : Place) : Except Fault ByteArray :=
  match t.node? place with
  | none => .error .notFound
  | some (.file content _) => .ok content
  | some (.barred fault) => .error fault
  | some .directory => .error .isDirectory

def read (t : FileTree) (path : String) : Except Fault ByteArray := do
  t.content (← t.resolve path)

def readText (t : FileTree) (path : String) : Except Fault String := do
  match String.fromUTF8? (← t.read path) with
  | some text => .ok text
  | none => .error .notUtf8

def mayRun (t : FileTree) (place : Place) : Bool :=
  match t.node? place with
  | some (.file _ executable) => executable
  | _ => false

/-- Whether the parts of a path lead to a file that may be run. Slashes and dots behind the name of
the file are no parts, so they do not matter. -/
def isExecutable (t : FileTree) (path : String) : Bool :=
  match (pathParts path).foldlM t.enter (t.origin path) with
  | .ok place => t.mayRun place
  | .error _ => false

/-- The place of the file that a path names for writing. A path that ends in a slash or in dots
names a directory, once all that stands before its last name has been passed. -/
def target (t : FileTree) (path : String) : Except Fault Place := do
  checkPath path
  match (pathNames path).reverse.dropWhile (· = "") with
  | [] => .error .isDirectory
  | name :: parents =>
    let parent ← parents.reverse.foldlM t.enter (t.origin path)
    let parent ← t.enter parent "."
    if path.toList.getLast? = some '/' ∨ name = "." ∨ name = ".." then .error .isDirectory
    else if nameLimit < name.utf8ByteSize then .error .nameTooLong
    else
      match t.node? (parent ++ [name]) with
      | some .directory => .error .isDirectory
      | some (.barred fault) => .error fault
      | _ => .ok (parent ++ [name])

/-- The tree after the file at a place has got this content; a new file may not be run. -/
def write (t : FileTree) (place : Place) (content : ByteArray) : FileTree :=
  t.insert place (.file content (t.mayRun place))

end FileTree

end ShellInit
