import SchemaCompiler.Files.Tree
import SchemaCompiler.Glob.Pattern

/-!
# Searching by pattern

A pattern with slashes is searched for component by component. A component without wildcards is
followed as it is; one with wildcards is matched against the names in a directory; a double star
takes any number of directories. Paths are spelled the way the pattern leads to them, and come in
the order of a walk through the tree: the parent directory and the directory itself, where the
pattern admits them, then the names in order, each directory followed by what is in it. A directory
whose names cannot be listed ends the search, but only if its names are called for.

Main definitions: `Glob.follow`, `Glob.refused?` and `Glob.search`.
-/

namespace SchemaCompiler.Glob

/-- The path is just the directory where the search started, which found paths do not mention. -/
def isHere (path : Text) : Bool := Path.components path = [.current]

/-- A name inside a directory, as a path. -/
def inside (path name : Text) : Text := if isHere path then name else Path.join path name

/-- A way, as names, is not walked later than another: names in order, and what a directory holds
behind the directory. -/
def isWalkedBy (way other : List Text) : Bool :=
  Path.compareComponents (way.map .name) (other.map .name) != .gt

/-- The ways from a directory to everything below it, as names, in the order of a walk. -/
def below (tree : FileTree) (working : Place) (path : Text) : List (List Text) :=
  match tree.resolve working path with
  | .error _ => []
  | .ok place =>
    let ways := tree.entries.keys.filterMap fun other =>
      if place.isPrefixOf other ∧ other ≠ place then some (other.drop place.length) else none
    ways.mergeSort isWalkedBy

/-- The pattern is a double star. -/
def isRecursive (pattern : Pattern) : Bool := pattern.contains .anyDirectories

/-- The paths that component patterns lead to from a path. -/
def follow (tree : FileTree) (working : Place) : List Pattern → Text → List Text
  | [], path => [path]
  | [pattern], path =>
    if isRecursive pattern then
      ((below tree working path).map fun way => inside path (Text.join ['/'] way)).filter
        (tree.isDirectory working)
    else
      step pattern path
  | pattern :: next :: rest, path =>
    if isRecursive pattern then
      if isRecursive next then follow tree working (next :: rest) path
      else
        ((below tree working path).filter fun way =>
            Pattern.matchesName next (way.getLast?.getD [])).flatMap fun way =>
          follow tree working rest (inside path (Text.join ['/'] way))
    else
      (step pattern path).flatMap (follow tree working (next :: rest))
where
  /-- The paths that a component other than a double star leads to. -/
  step (pattern : Pattern) (path : Text) : List Text :=
    match pattern.literalText? with
    | some name =>
      let next := inside path name
      let found :=
        if name = ['.'] ∨ name = ['.', '.'] then tree.isDirectory working path
        else tree.exists? working next
      if found then [next] else []
    | none =>
      if tree.isDirectory working path then
        let names := (below tree working path).filterMap fun way => match way with
          | [name] => if pattern.matchesName name then some (inside path name) else none
          | _ => none
        let dots := if pattern.head? = some (.literal '.') then
            ([['.', '.'], ['.']].filter fun name => pattern.matchesName name).map (Path.join path)
          else []
        dots ++ names
      else []

/-- Why a search comes to no list of paths. -/
inductive SearchFault where
  | pattern (fault : PatternFault)
  /-- The names in a directory cannot be listed. -/
  | directory (path : Text) (fault : FileFault)
  deriving DecidableEq, Repr

/-- The directory that a path leads to, if its names cannot be listed. -/
def refusal? (tree : FileTree) (working : Place) (path : Text) : Option SearchFault :=
  (tree.listingFault? working path).map (.directory path)

/-- The first directory, in the order of a walk, whose names component patterns call for in vain on
their ways from a path. A double star calls for the names in every directory that it takes, in each
of them after all that the patterns behind it call for there. -/
def refused? (tree : FileTree) (working : Place) : List Pattern → Text → Option SearchFault
  | [], _ => none
  | [pattern], path =>
    if isRecursive pattern then
      (path :: (below tree working path).map fun way => inside path (Text.join ['/'] way)).findSome?
        (refusal? tree working)
    else
      ofNames pattern path
  | pattern :: next :: rest, path =>
    if isRecursive pattern then
      if isRecursive next then refused? tree working (next :: rest) path
      else
        (refusal? tree working path).or <| (below tree working path).findSome? fun way =>
          let found := inside path (Text.join ['/'] way)
          (if Pattern.matchesName next (way.getLast?.getD []) then refused? tree working rest found
            else none).or (refusal? tree working found)
    else
      (ofNames pattern path).or <|
        (follow.step tree working pattern path).findSome? (refused? tree working (next :: rest))
where
  /-- The path itself, for a component other than a double star: wildcards call for its names. -/
  ofNames (pattern : Pattern) (path : Text) : Option SearchFault :=
    match pattern.literalText? with
    | some _ => none
    | none => refusal? tree working path

/-- The parts of a pattern between slashes; a slash at the end starts no part. -/
def pieces (pattern : Text) : List Text :=
  let pieces := Text.splitOn '/' pattern
  if pieces.getLast? = some [] then pieces.dropLast else pieces

/-- The parts of a pattern or a path that a search goes through: those behind the slash that an
absolute one starts with. -/
def parts (path : Text) : List Text := pieces (if Path.isAbsolute path then path.drop 1 else path)

/-- Where a search starts. -/
def root (absolute : Bool) : Text := if absolute then ['/'] else ['.']

/-- The component patterns of a pattern. Where the pattern is only a slash, there is an empty one. -/
def components (pattern : Text) : Except PatternFault (List Pattern) := do
  let _ ← Pattern.parse pattern
  let patterns ← (parts pattern).mapM Pattern.parse
  return if pattern = [] ∨ pattern = ['/'] then patterns ++ [[]] else patterns

/-- Every path that a pattern leads to, possibly more than once, in the order of a walk. A pattern
that ends with a slash leads to directories only. -/
def search (tree : FileTree) (working : Place) (pattern : Text) :
    Except SearchFault (List Text) := do
  let patterns ← (components pattern).mapError .pattern
  let start := root (Path.isAbsolute pattern)
  match refused? tree working patterns start with
  | some fault => throw fault
  | none =>
    let found := follow tree working patterns start
    return if pattern.getLast? = some '/' then found.filter (tree.isDirectory working) else found

end SchemaCompiler.Glob
