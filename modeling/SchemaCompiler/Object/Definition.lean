import SchemaCompiler.Function.Definition
import SchemaCompiler.Object.Basic
import SchemaCompiler.Sequence.Definition
import SchemaCompiler.Table.Definition

/-!
# Definition files

A definition file is read by the reader of its kind; the kind is the one that its first effective
line names.
-/

namespace SchemaCompiler.Object

/-- The kind that the first line of a file names. -/
def sniff? (contents : Text) : Option ObjectKind :=
  (Source.firstLine? contents).bind ObjectKind.ofDiscriminator?

/-- The lines of a file as the reader of a kind sees them. Only functions have verbatim blocks. -/
def preparedLines : ObjectKind → Text → List Text
  | .table, contents => Source.lines none contents
  | .sequence, contents => Source.lines none contents
  | .function, contents => Source.lines (some bodyBlock) contents

/-- Reads a file as an object of a kind. -/
def parse (mapping : Mapping) (kind : ObjectKind) (contents : Text) : Except Error Object :=
  let lines := preparedLines kind contents
  match kind with
  | .table => (Table.ofLines mapping lines).map .table
  | .sequence => (Sequence.ofLines mapping lines).map .sequence
  | .function => (Function.ofLines mapping lines).map .function

/-- The notices about a file read as an object of a kind. -/
def notices (mapping : Mapping) (kind : ObjectKind) (contents : Text) : List Notice :=
  let lines := preparedLines kind contents
  match kind with
  | .table => Table.notices mapping lines
  | .sequence => Sequence.notices mapping lines
  | .function => Function.notices mapping lines

end SchemaCompiler.Object
