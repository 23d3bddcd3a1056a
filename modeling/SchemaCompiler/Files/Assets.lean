import SchemaCompiler.Error.Basic
import SchemaCompiler.Glob.Search

/-!
# Source files

The files that a project is made of, named by paths from its source directory.

Main definitions: `Assets.read`, `Assets.readOptional?` and `Assets.discover`.
-/

namespace SchemaCompiler

/-- The source directory of a project. -/
structure Assets where
  sourceDir : Text
  deriving DecidableEq, Repr

namespace Assets

/-- A path from the source directory, as a path from the working directory. -/
def path (assets : Assets) (path : Text) : Text := Path.join assets.sourceDir path

variable (tree : FileTree) (working : Place) (assets : Assets)

/-- There is a file of this path. -/
def hasFile (path : Text) : Bool := tree.isFile working (assets.path path)

/-- The text of a file, without a leading byte-order mark. -/
def read (path : Text) : Except Error Text :=
  match tree.readText working (assets.path path) with
  | .ok t => .ok t.dropMark
  | .error fault => .error (.file (assets.path path) fault)

/-- The text of a file, or nothing where there is none. -/
def readOptional? (path : Text) : Except Error (Option Text) :=
  if tree.exists? working (assets.path path) then (read tree working assets path).map some
  else .ok none

/-- The files that a pattern leads to, by paths from the source directory and in the order of their
components. Only the pattern is one: the source directory is taken as it is spelled. -/
def discover (pattern : Text) : Except Error (List Text) :=
  match Glob.search tree working (Path.join (Pattern.escape assets.sourceDir) pattern) with
  | .error (.pattern fault) => .error (.configuration (.badPattern pattern fault))
  | .error (.directory path fault) => .error (.file path fault)
  | .ok found =>
    let files := found.filter (tree.isFile working)
    let paths := files.map fun file => (Path.stripBase? assets.sourceDir file).getD file
    .ok (paths.mergeSort Path.le)

end Assets

end SchemaCompiler
