import SchemaCompiler.Text.Basic

/-!
# Paths

A path is text with slashes between its parts. How it is spelled matters where it is shown; what it
means is the list of its components, in which doubled slashes, a slash at the end and single dots
do not count, except for a single dot at the very start.

Main definitions: `Path.components`, `Path.join`, `Path.parent?`, `Path.stripBase?` and `Path.le`.
-/

namespace SchemaCompiler.Path

/-- A part of a path that counts. -/
inductive Component where
  | root
  | current
  | parent
  | name (name : Text)
  deriving DecidableEq, Repr

/-- The path starts at the root. -/
def isAbsolute (path : Text) : Bool := path.head? = some '/'

/-- A part, not the first one, that does not count. -/
def isIdle (piece : Text) : Bool := piece = [] || piece = ['.']

/-- The component that a part is, if it counts. -/
def component? (piece : Text) : Option Component :=
  if isIdle piece then none else if piece = ['.', '.'] then some .parent else some (.name piece)

/-- The components of a path. -/
def components (path : Text) : List Component :=
  match Text.splitOn '/' path with
  | [] => []
  | first :: rest =>
    let start : List Component :=
      if isAbsolute path then [.root]
      else if first = ['.'] then [.current]
      else (component? first).toList
    start ++ rest.filterMap component?

/-- A path seen from a base; an absolute path does not depend on it. -/
def join (base path : Text) : Text :=
  if isAbsolute path then path
  else if base = [] ∨ base.getLast? = some '/' then base ++ path
  else base ++ ['/'] ++ path

/-- Parts without those at their end that do not count. -/
def trimPieces (pieces : List Text) : List Text := (pieces.reverse.dropWhile isIdle).reverse

/-- The path without its last component, unless it has none or is the root. -/
def parent? (path : Text) : Option Text :=
  match Text.splitOn '/' path with
  | [] => none
  | first :: rest =>
    match trimPieces rest with
    | [] => if first = [] then none else some []
    | body =>
      let front := trimPieces body.dropLast
      some (if first = [] ∧ front = [] then ['/'] else Text.join ['/'] (first :: front))

/-- The path and the paths above it, at most `fuel` of them. -/
def upward : Nat → Text → List Text
  | 0, _ => []
  | fuel + 1, path => path :: match parent? path with
    | none => []
    | some above => upward fuel above

/-- The path and all paths above it; a parent is shorter, so the length bounds their number. -/
def ancestors (path : Text) : List Text := upward (path.length + 1) path

/-- Parts behind the next `n` that count. -/
def dropComponents : Nat → List Text → List Text
  | 0, pieces => pieces
  | n + 1, pieces => dropComponents n ((pieces.dropWhile isIdle).drop 1)

/-- The rest of a path behind a base, if the base is the start of it. -/
def stripBase? (base path : Text) : Option Text :=
  let start := components base
  if start.isPrefixOf (components path) then
    match start.length with
    | 0 => some path
    | n + 1 =>
      let rest := dropComponents n ((Text.splitOn '/' path).drop 1)
      some (Text.join ['/'] (trimPieces (rest.dropWhile isIdle)))
  else none

/-! ## Order -/

/-- The order of texts by their characters. -/
def compareText : Text → Text → Ordering
  | [], [] => .eq
  | [], _ :: _ => .lt
  | _ :: _, [] => .gt
  | c :: cs, d :: ds => if c < d then .lt else if d < c then .gt else compareText cs ds

/-- The order of components: the root, the dots, then names. -/
def Component.compare : Component → Component → Ordering
  | .name a, .name b => compareText a b
  | a, b => Ord.compare (rank a) (rank b)
where
  /-- The place of a component's kind. -/
  rank : Component → Nat
    | .root => 0
    | .current => 1
    | .parent => 2
    | .name _ => 3

/-- The order of component lists, component by component. -/
def compareComponents : List Component → List Component → Ordering
  | [], [] => .eq
  | [], _ :: _ => .lt
  | _ :: _, [] => .gt
  | a :: as, b :: bs => (a.compare b).then (compareComponents as bs)

/-- A path comes no later than another. -/
def le (a b : Text) : Bool := compareComponents (components a) (components b) != .gt

end SchemaCompiler.Path
