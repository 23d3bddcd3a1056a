import SchemaCompiler.Text.Basic

/-!
# Kinds of objects and of definition lines

The first effective line of a definition file names the kind of its object; every other line that
means something starts with a marker.
-/

namespace SchemaCompiler

/-- The kinds of database objects. -/
inductive ObjectKind where
  | table
  | sequence
  | function
  deriving DecidableEq, Repr

namespace ObjectKind

/-- Every kind. -/
def all : List ObjectKind := [.table, .sequence, .function]

/-- The first line of a definition of this kind. -/
def discriminator : ObjectKind → Text
  | table => "TBL"
  | sequence => "SEQ"
  | function => "FUNC"

/-- The kind that a first line names. -/
def ofDiscriminator? (t : Text) : Option ObjectKind := all.find? fun kind => kind.discriminator = t

/-- The kind in words. -/
def label : ObjectKind → Text
  | table => "Table"
  | sequence => "Sequence"
  | function => "Function"

end ObjectKind

/-- The markers that say what a definition line is about. -/
inductive Marker where
  | name
  | properties
  | column
  | constraint
  | index
  | parameter
  | returns
  deriving DecidableEq, Repr

namespace Marker

/-- Every marker. -/
def all : List Marker := [.name, .properties, .column, .constraint, .index, .parameter, .returns]

/-- The text at the start of the line. -/
def keyword : Marker → Text
  | name => "NAME:"
  | properties => "PROPS:"
  | column => "COL:"
  | constraint => "CONSTRAINT:"
  | index => "IDX:"
  | parameter => "PARAM:"
  | returns => "RET:"

/-- The marker of a line and the trimmed rest of it. -/
def split? (line : Text) : Option (Marker × Text) :=
  all.findSome? fun marker => (Text.after? marker.keyword line).map fun rest => (marker, rest.trim)

end Marker

end SchemaCompiler
