import SchemaCompiler.Definition.Line
import SchemaCompiler.Error.Basic
import SchemaCompiler.Notice
import SchemaCompiler.Source

/-!
# Makefiles

A makefile says where the mapping is, which definitions to read and which outputs to write:

    MAP=file
    DEFINITIONS=pattern
    OUTPUT=name(key=value;…)

Of several mapping or definition lines the last counts; every output line counts.
-/

namespace SchemaCompiler

/-- An output to be written, with its arguments. -/
structure OutputRequest where
  name : Text
  args : NamedArgs
  deriving DecidableEq, Repr

namespace OutputRequest

/-- The request that a text writes, `name(key=value;…)`. -/
def parse (t : Text) : OutputRequest :=
  let spec := NamedSpec.parse ';' t
  ⟨spec.name, spec.args⟩

/-- The value of an argument that is present and carries one. -/
def arg? (request : OutputRequest) (key : Text) : Option Text := request.args.value? key

/-- The value of an argument, where an absent or empty one means the default. -/
def argOr (request : OutputRequest) (key default : Text) : Text :=
  match request.arg? key with
  | none | some [] => default
  | some value => value

/-- The flag of an argument, where an absent one means the default. -/
def flagOr (request : OutputRequest) (key : Text) (default : Bool) : Bool :=
  (request.args.flag? key).getD default

end OutputRequest

/-- The contents of a makefile. -/
structure Makefile where
  mappingFile : Text
  definitions : Text
  outputs : List OutputRequest
  deriving DecidableEq, Repr

namespace Makefile

/-- The makefile that says nothing. -/
def default : Makefile := ⟨"sk_mapping.dbmap", "*.dbdef", []⟩

/-- What a line of a makefile says. -/
inductive Entry where
  | mappingFile (value : Text)
  | definitions (value : Text)
  | output (request : OutputRequest)
  | unknown
  deriving DecidableEq, Repr

/-- Reads a line of a makefile. -/
def Entry.parse (line : Text) : Entry :=
  match Text.after? "MAP=" line, Text.after? "DEFINITIONS=" line, Text.after? "OUTPUT=" line with
  | some rest, _, _ => .mappingFile rest.trim
  | _, some rest, _ => .definitions rest.trim
  | _, _, some rest => .output (.parse rest)
  | none, none, none => .unknown

/-- Applies an entry; an empty value restores the default, and an output without a name counts for
nothing. -/
def apply (makefile : Makefile) : Entry → Makefile
  | .mappingFile value =>
    { makefile with mappingFile := if value = [] then default.mappingFile else value }
  | .definitions value =>
    { makefile with definitions := if value = [] then default.definitions else value }
  | .output request =>
    if request.name = [] then makefile
    else { makefile with outputs := makefile.outputs ++ [request] }
  | .unknown => makefile

/-- Reads a makefile, which must have some effective line. -/
def parse (contents : Text) : Except Error Makefile :=
  match Source.lines none contents with
  | [] => .error (.configuration .emptyMakefile)
  | lines => .ok ((lines.map Entry.parse).foldl apply default)

/-- What there is to say about a line that changes nothing. -/
def lineNotice? (line : Text) : Option Notice :=
  match Entry.parse line with
  | .unknown => some ⟨.debug, "ignoring unrecognized makefile line", [("line", .quoted line)]⟩
  | .output request =>
    if request.name = [] then some ⟨.debug, "ignoring empty output", [("line", .quoted line)]⟩
    else none
  | _ => none

/-- The notices about a makefile. -/
def notices (contents : Text) : List Notice := (Source.lines none contents).filterMap lineNotice?

end Makefile

end SchemaCompiler
