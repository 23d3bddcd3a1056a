import SchemaCompiler.Function.Basic
import SchemaCompiler.Object.Kind
import SchemaCompiler.Sequence
import SchemaCompiler.Table.Basic

/-!
# Database objects

A definition file describes one object: a table, a sequence or a function.
-/

namespace SchemaCompiler

/-- An object of a database. -/
inductive Object where
  | table (table : Table)
  | sequence (sequence : Sequence)
  | function (function : Function)
  deriving DecidableEq, Repr

namespace Object

/-- The kind of an object. -/
def kind : Object → ObjectKind
  | table _ => .table
  | sequence _ => .sequence
  | function _ => .function

/-- The name of an object. -/
def name : Object → Text
  | table t => t.name
  | sequence s => s.name
  | function f => f.name

/-- The properties of an object. -/
def properties : Object → Properties
  | table t => t.properties
  | sequence s => s.properties
  | function f => f.properties

end Object

end SchemaCompiler
