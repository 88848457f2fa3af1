import Scaffold.Store.Basic
import Scaffold.Text.Bytes
import Scaffold.Text.Split

/-!
# Templates in a file tree

A store below a root directory.  Files and directories form a tree; a file
system has one from its top and works at some place.  Often no more is known of
it than the working directory.

A path is walked segment by segment, to read as well as to write.  To read, each
segment needs a directory to be looked up in, also the empty one behind a final
slash; names are limited to 255 bytes and paths to 4095.
-/

namespace Scaffold

/-- A file or a directory. -/
inductive FileTree where
  | file (content : List UInt8)
  | directory (entries : List (String × FileTree))
deriving Repr

namespace FileTree

/-- A directory without entries. -/
def empty : FileTree := .directory []

/-- The entries of a directory; a file has none. -/
def entries : FileTree → List (String × FileTree)
  | .file _ => []
  | .directory entries => entries

/-! ## Making files and directories -/

/-- Changes what stands at the end of a list of names; directories on the way are
made. -/
def change (tree : FileTree) : (names : List String) → (FileTree → FileTree) → FileTree
  | [], update => update tree
  | name :: names, update =>
      let present := (tree.entries.lookup name).getD .empty
      .directory ((name, present.change names update) ::
        tree.entries.filter fun (other, _) => other ≠ name)

/-- The names that lead to a segment behind other names.  An empty segment and `.`
stay where they are, and `..` goes up. -/
def follow (names : List String) (segment : String) : List String :=
  if segment = "" || segment = "." then names
  else if segment = ".." then names.dropLast
  else names ++ [segment]

/-- The tree with a directory at the end of some names. -/
def withDirectory (tree : FileTree) (names : List String) : FileTree :=
  tree.change names fun present => .directory present.entries

/-- Makes the directory that the next segment of a path leads to, and gives the
names that lead there. -/
def makeNext (made : FileTree × List String) (segment : String) : FileTree × List String :=
  let names := follow made.2 segment
  (made.1.withDirectory names, names)

/-- Makes the directories along the segments of a path, also those that a later
`..` leaves again, and gives the names that lead to the last one. -/
def makeDirectories (tree : FileTree) (segments : List String) : FileTree × List String :=
  segments.foldl makeNext (tree, [])

/-- Makes the directory at a path, if there is none. -/
def makeDirectory (tree : FileTree) (path : String) : FileTree :=
  (tree.makeDirectories (Text.parts '/' path)).1

/-- Writes the file at a path. -/
def writeFile (tree : FileTree) (path : String) (content : List UInt8) : FileTree :=
  let segments := Text.parts '/' path
  let (tree, names) := tree.makeDirectories segments.dropLast
  tree.change (follow names (segments.getLast?.getD "")) fun _ => .file content

/-! ## Walking a path -/

/-- Where a walk stands: a file or a directory, and the directories above it, from
the inside out. -/
structure Place where
  tree : FileTree
  above : List FileTree
deriving Repr

/-- The place one directory up.  The directory at the top is its own parent. -/
def Place.up (place : Place) : Place :=
  match place.above with
  | [] => place
  | parent :: above => ⟨parent, above⟩

/-- Why a walk ends. -/
inductive WalkFault where
  | missing
  | fault (fault : ReadFault)
deriving DecidableEq, Repr

/-- Steps from a directory with the given entries to one of them. -/
def stepInto (place : Place) (entries : List (String × FileTree)) (segment : String) :
    Except WalkFault Place :=
  if segment = "" || segment = "." then .ok place
  else if segment = ".." then .ok place.up
  else if segment.utf8ByteSize > 255 then .error (.fault .nameTooLong)
  else
    match entries.lookup segment with
    | some tree => .ok ⟨tree, place.tree :: place.above⟩
    | none => .error .missing

/-- One step of a walk. -/
def step (place : Place) (segment : String) : Except WalkFault Place :=
  match place.tree with
  | .file _ => .error (.fault .notDirectory)
  | .directory entries => stepInto place entries segment

end FileTree

/-! ## File systems -/

/-- A file system as a process sees it: the directory at the top, where absolute
paths start, and the place where all others start. -/
structure FileSystem where
  top : FileTree
  working : FileTree.Place
deriving Repr

namespace FileSystem

open FileTree

/-- The file system of which no more is known than the working directory. -/
def ofWorking (tree : FileTree) : FileSystem :=
  ⟨.empty, ⟨tree, [.empty]⟩⟩

/-- Whether a path starts at the top. -/
def isAbsolute (path : String) : Bool :=
  path.toList.head? = some '/'

/-- Where a path starts. -/
def start (system : FileSystem) (path : String) : Place :=
  if isAbsolute path then ⟨system.top, []⟩ else system.working

/-- Walks a path. -/
def walk (system : FileSystem) (path : String) : Except WalkFault Place :=
  if path.toList.contains '\x00' then .error (.fault .nulInPath)
  else if path = "" then .error .missing
  else if path.utf8ByteSize > 4095 then .error (.fault .nameTooLong)
  else (Text.parts '/' path).foldlM step (system.start path)

/-- The text of the file at a path, nothing if the path leads nowhere. -/
def readText (system : FileSystem) (path : String) : Except ReadFault (Option String) :=
  match system.walk path with
  | .error .missing => .ok none
  | .error (.fault fault) => .error fault
  | .ok ⟨.file content, _⟩ =>
      match Text.ofBytes? content with
      | some text => .ok (some text)
      | none => .error .notUtf8
  | .ok ⟨.directory _, _⟩ => .error .isDirectory

/-! ## The store -/

/-- A path below a root.  An absolute path stands for itself, and an empty root
adds nothing. -/
def join (root path : String) : String :=
  if isAbsolute path || root = "" then path
  else if root.toList.getLast? = some '/' then root ++ path
  else root ++ "/" ++ path

/-- The store of the files below a root. -/
def toStore (system : FileSystem) (root : String) : TemplateStore where
  read path := (system.readText (join root path)).mapError (.unreadable (join root path))
  describe path := join root path

end FileSystem

/-- The store of the files below a root in the working directory. -/
def FileTree.toStore (tree : FileTree) (root : String) : TemplateStore :=
  (FileSystem.ofWorking tree).toStore root

end Scaffold
