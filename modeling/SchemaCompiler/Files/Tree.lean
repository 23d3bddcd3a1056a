import SchemaCompiler.Error.Fault
import SchemaCompiler.Files.Path
import SchemaCompiler.OrderedMap

/-!
# File trees

The files and directories that a run can see, by the names on the way to them from the root. Paths
are followed from a working directory, part by part: every part must stand in a directory that
exists, also one that is left again by two dots. What is there may refuse to be opened or changed;
it can be seen all the same.

Main definitions: `FileTree.resolve`, `FileTree.readText`, `FileTree.listingFault?`,
`FileTree.makeDirectories` and `FileTree.writeText`.
-/

namespace SchemaCompiler

/-- What a file holds. Contents that are not text can only be told from text. -/
inductive Contents where
  | text (t : Text)
  | binary
  deriving DecidableEq, Repr

/-- What a place holds. -/
inductive Node where
  | directory
  | file (contents : Contents)
  deriving DecidableEq, Repr

/-- A place, by the names on the way to it from the root. -/
abbrev Place := List Text

/-- What a place can refuse. -/
inductive Access where
  /-- A file is read or written, or the names in a directory are listed. -/
  | opening
  /-- A file is written, or a directory takes a new name. -/
  | changing
  deriving DecidableEq, Repr

/-- Directories and files by their places, and what is refused there. The root is a directory
without an entry. -/
structure FileTree where
  entries : OrderedMap Place Node
  refusals : OrderedMap (Place × Access) FileFault
  deriving DecidableEq, Repr

namespace FileTree

/-- The tree with a root only. -/
def empty : FileTree := ⟨OrderedMap.empty, OrderedMap.empty⟩

/-- What a place holds, if anything. -/
def node? (tree : FileTree) (place : Place) : Option Node :=
  if place = [] then some .directory else tree.entries.get? place

/-- Why a place refuses, if it does. -/
def refusal? (tree : FileTree) (place : Place) (access : Access) : Option FileFault :=
  tree.refusals.get? (place, access)

/-- Puts something in a place. -/
def put (tree : FileTree) (place : Place) (node : Node) : FileTree :=
  { tree with entries := tree.entries.insert place node }

/-- Lets a place refuse. -/
def refuse (tree : FileTree) (place : Place) (access : Access) (fault : FileFault) : FileTree :=
  { tree with refusals := tree.refusals.insert (place, access) fault }

/-- Makes every place on the way to a place a directory, unless it holds something. -/
def putDirectories (tree : FileTree) (place : Place) : FileTree :=
  (List.range (place.length + 1)).foldl
    (fun acc n =>
      if (acc.node? (place.take n)).isNone then acc.put (place.take n) .directory else acc)
    tree

/-! ## Following paths -/

/-- The number of bytes of a text. -/
def byteLength (t : Text) : Nat := t.foldl (fun n c => n + c.utf8Size) 0

/-- The longest name that a directory can hold. -/
def maxNameLength : Nat := 255

/-- The longest path that can be followed. -/
def maxPathLength : Nat := 4095

/-- Follows the parts of a path from a place. -/
def walk (tree : FileTree) (place : Place) : List Text → Except FileFault Place
  | [] => .ok place
  | piece :: rest =>
    if tree.node? place ≠ some .directory then .error .notADirectory
    else if Path.isIdle piece then walk tree place rest
    else if piece = ['.', '.'] then walk tree place.dropLast rest
    else if byteLength piece > maxNameLength then .error .nameTooLong
    else if (tree.node? (place ++ [piece])).isNone then .error .notFound
    else walk tree (place ++ [piece]) rest

/-- What no path may be. -/
def pathFault? (path : Text) : Option FileFault :=
  if path.contains '\x00' then some .zeroInName
  else if path = [] then some .notFound
  else if byteLength path > maxPathLength then some .nameTooLong
  else none

/-- Where a path starts. -/
def start (working : Place) (path : Text) : Place := if Path.isAbsolute path then [] else working

/-- The place that a path leads to, which must hold something. -/
def resolve (tree : FileTree) (working : Place) (path : Text) : Except FileFault Place :=
  match pathFault? path with
  | some fault => .error fault
  | none => tree.walk (start working path) (Text.splitOn '/' path)

/-- What a path leads to. -/
def find? (tree : FileTree) (working : Place) (path : Text) : Option Node :=
  match tree.resolve working path with
  | .ok place => tree.node? place
  | .error _ => none

/-- The path leads somewhere. -/
def exists? (tree : FileTree) (working : Place) (path : Text) : Bool :=
  (tree.find? working path).isSome

/-- The path leads to a directory. -/
def isDirectory (tree : FileTree) (working : Place) (path : Text) : Bool :=
  tree.find? working path = some .directory

/-- The path leads to a file. -/
def isFile (tree : FileTree) (working : Place) (path : Text) : Bool :=
  match tree.find? working path with
  | some (.file _) => true
  | _ => false

/-- Fails if a place refuses. -/
def permit (tree : FileTree) (place : Place) (access : Access) : Except FileFault Unit :=
  match tree.refusal? place access with
  | some fault => .error fault
  | none => .ok ()

/-- The text of the file that a path leads to. -/
def readText (tree : FileTree) (working : Place) (path : Text) : Except FileFault Text := do
  let place ← tree.resolve working path
  tree.permit place .opening
  match tree.node? place with
  | some (.file (.text t)) => .ok t
  | some (.file .binary) => .error .invalidText
  | some .directory => .error .isADirectory
  | none => .error .notFound

/-- Why the names in the directory that a path leads to cannot be listed, if they cannot. -/
def listingFault? (tree : FileTree) (working : Place) (path : Text) : Option FileFault :=
  match tree.resolve working path with
  | .ok place => if tree.node? place = some .directory then tree.refusal? place .opening else none
  | .error _ => none

/-! ## Changing the tree -/

/-- The directory that the last part of a path stands in, the last part, and whether slashes follow
it. -/
def locate (tree : FileTree) (working : Place) (path : Text) :
    Except FileFault (Place × Text × Bool) := do
  if let some fault := pathFault? path then throw fault
  let pieces := Text.splitOn '/' path
  let bare := (pieces.reverse.dropWhile (· = [])).reverse
  let directory ← tree.walk (start working path) bare.dropLast
  if tree.node? directory ≠ some .directory then throw .notADirectory
  return (directory, bare.getLast?.getD [], decide (bare.length < pieces.length))

/-- The part is no name that a directory could hold an entry for. -/
def isNoName (piece : Text) : Bool := Path.isIdle piece || piece = ['.', '.']

/-- Makes one directory, whose parent must exist. -/
def makeDirectory (tree : FileTree) (working : Place) (path : Text) :
    Except FileFault FileTree := do
  let (directory, last, _) ← tree.locate working path
  if isNoName last then throw .exists
  if byteLength last > maxNameLength then throw .nameTooLong
  if (tree.node? (directory ++ [last])).isSome then throw .exists
  tree.permit directory .changing
  return tree.put (directory ++ [last]) .directory

/-- Makes a directory, and those above it as far as they are missing; the paths upward of it are
given. What has been made stays even if a later step fails. -/
def makeDirectoriesFrom (working : Place) :
    List Text → FileTree → FileTree × Except FileFault Unit
  | [], tree => (tree, .error .notFound)
  | path :: above, tree =>
    let settle (tree : FileTree) (fault : FileFault) : FileTree × Except FileFault Unit :=
      (tree, if tree.isDirectory working path then .ok () else .error fault)
    if path = [] then (tree, .ok ())
    else match tree.makeDirectory working path with
      | .ok tree => (tree, .ok ())
      | .error .notFound =>
        match makeDirectoriesFrom working above tree with
        | (tree, .error fault) => (tree, .error fault)
        | (tree, .ok ()) => match tree.makeDirectory working path with
          | .ok tree => (tree, .ok ())
          | .error fault => settle tree fault
      | .error fault => settle tree fault

/-- Makes a directory, and those above it as far as they are missing. -/
def makeDirectories (tree : FileTree) (working : Place) (path : Text) :
    FileTree × Except FileFault Unit :=
  makeDirectoriesFrom working (Path.ancestors path) tree

/-- Writes a file, whose directory must exist. What it held before is lost. A text is refused ahead
of its first character or not at all. -/
def writeText (tree : FileTree) (working : Place) (path contents : Text) :
    Except FileFault FileTree := do
  let (directory, last, slashes) ← tree.locate working path
  if slashes ∨ isNoName last then throw .isADirectory
  if byteLength last > maxNameLength then throw .nameTooLong
  let place := directory ++ [last]
  if tree.node? place = some .directory then throw .isADirectory
  tree.permit place .opening
  tree.permit (if (tree.node? place).isSome then place else directory) .changing
  return tree.put place (.file (.text contents))

end FileTree

end SchemaCompiler
