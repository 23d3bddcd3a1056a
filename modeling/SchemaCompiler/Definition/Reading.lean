import SchemaCompiler.Definition.Line
import SchemaCompiler.Error.Basic
import SchemaCompiler.Notice

/-!
# What all definition files share

The first line of a definition names its kind, a name line names the object, and columns,
constraints and indexes are definition lines. An offence on a line is reported together with the
line.
-/

namespace SchemaCompiler.Definition

/-- What follows the first line, which must name the kind. -/
def afterFirstLine (kind : ObjectKind) : List Text → Except Error (List Text)
  | [] => .error (.definition (.wrongFirstLine kind none))
  | line :: rest =>
    if line = kind.discriminator then .ok rest
    else .error (.definition (.wrongFirstLine kind (some line)))

/-- The name on a name line. -/
def readName (mapping : Mapping) (rest : Text) : Except Error Text :=
  if rest = [] then .error (.definition .blankName) else .ok (mapping.expand rest)

/-- The properties on a properties line. -/
def readProperties (rest : Text) : NamedArgs := NamedArgs.parse ';' rest

/-- The parts of a definition line. -/
def readLine (mapping : Mapping) (marker : Marker) (rest : Text) : Except Error DefinitionLine :=
  match DefinitionLine.parse? mapping rest with
  | some line => .ok line
  | none => .error (.definition (.emptyLine marker))

/-- The notice about a line that says nothing to a reader of this kind. -/
def ignoredLine (kind : ObjectKind) (line : Text) : Notice :=
  let message : Text := match kind with
    | .table => "ignoring unrecognized table definition line"
    | .sequence => "ignoring unrecognized sequence definition line"
    | .function => "ignoring unrecognized function definition line"
  ⟨.debug, message, [("line", .quoted line)]⟩

/-- The name of an object is the one on its last name line. -/
def lastName (kind : ObjectKind) (names : List Text) : Except Error Text :=
  match names.getLast? with
  | some name => .ok name
  | none => .error (.definition (.nameless kind))

/-- The properties of an object are those of all its lines, later values winning. -/
def mergeProperties (lines : List NamedArgs) : Properties :=
  lines.foldl OrderedMap.extend OrderedMap.empty

end SchemaCompiler.Definition
