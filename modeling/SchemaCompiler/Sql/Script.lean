import SchemaCompiler.Object.Basic
import SchemaCompiler.Text.Upper

/-!
# Scripts

The statements that create an object, as data, and how they are written: a table is created together
with its keys and indexes, a sequence or a function by one statement. Each statement ends with a
semicolon, and in a script an empty line follows it. Names of tables, sequences and functions are
qualified by a schema; all texts of an object are written as they are, except that the type of a
return is in upper case.

Main definitions: `Statement.ofObject`, `Statement.write`, `Script.ofStatements` and
`Script.ofObject`.
-/

namespace SchemaCompiler

/-- A statement that creates something. -/
inductive Statement where
  | createTable (name : Text) (columns : List Column)
  | addConstraint (table : Text) (constraint : Constraint)
  | createIndex (table : Text) (index : Index)
  | createSequence (sequence : Sequence)
  | createFunction (function : Function)
  deriving DecidableEq, Repr

namespace Statement

/-- The statements of a table: itself, its primary key, its unique keys and its indexes. -/
def ofTable (table : Table) : List Statement :=
  .createTable table.name table.columns ::
    (table.primaryKey.toList ++ table.uniqueKeys).map (.addConstraint table.name) ++
    table.indexes.map (.createIndex table.name)

/-- The statements of an object. -/
def ofObject : Object → List Statement
  | .table table => ofTable table
  | .sequence sequence => [.createSequence sequence]
  | .function function => [.createFunction function]

end Statement

/-! ## Writing -/

namespace Sql

/-- The schema of objects when none is chosen. -/
def defaultSchema : Text := "public"

/-- A name in a schema. -/
def qualified (schema name : Text) : Text := schema ++ "." ++ name

/-- An optional clause: its keywords and its value, or nothing. -/
def clause (keywords : Text) : Option Text → Text
  | none => []
  | some value => keywords ++ value

/-- A column of a new table. -/
def column (c : Column) : Text :=
  c.name ++ " " ++ c.type ++ clause " DEFAULT " c.default ++
    (if c.notNull then " NOT NULL" else "")

/-- The columns of a new table, one on a line, with a comma behind all but the last. -/
def columns : List Column → Text
  | [] => []
  | [last] => "\t" ++ column last ++ "\n"
  | c :: next :: rest => "\t" ++ column c ++ ",\n" ++ columns (next :: rest)

/-- The keywords of a kind of constraint. -/
def constraintKeywords : ConstraintKind → Text
  | .primaryKey => "PRIMARY KEY"
  | .unique => "UNIQUE"

/-- A column of an index. -/
def indexColumn (entry : Text × SortOrder) : Text := entry.1 ++ " " ++ entry.2.sql

/-- A bound of a sequence, which is lifted when it is not set. -/
def bound (keyword : Text) : Option Text → Text
  | none => "\n\tNO " ++ keyword
  | some value => "\n\t" ++ keyword ++ " " ++ value

/-- A parameter of a function. -/
def parameter (p : Parameter) : Text :=
  p.direction.sql ++ " " ++ p.name ++ " " ++ p.type ++ clause " DEFAULT " p.default

/-- A column of a table return. -/
def returnColumn (entry : Text × Text) : Text := entry.1 ++ " " ++ entry.2

/-- What a function returns. -/
def returns (r : Return) : Text :=
  r.type.upper ++
    (if r.columns.entries = [] then []
      else (" (" ++ Text.join ", " (r.columns.entries.map returnColumn) ++ ")" : Text))

end Sql

namespace Statement

open Sql

/-- A statement without its semicolon. -/
def body (schema : Text) : Statement → Text
  | createTable name columns =>
    "CREATE TABLE IF NOT EXISTS " ++ qualified schema name ++ "(\n" ++ Sql.columns columns ++ ")"
  | addConstraint table constraint =>
    "ALTER TABLE ONLY " ++ qualified schema table ++ "\n\tADD CONSTRAINT " ++ constraint.name ++
      "\n\t" ++ constraintKeywords constraint.kind ++ " (" ++
      Text.join "," constraint.columns.elems ++ ")"
  | createIndex table index =>
    "CREATE INDEX " ++ index.name ++ "\n\tON " ++ qualified schema table ++ " USING " ++
      index.type ++ "\n\t(" ++ Text.join ", " (index.columns.entries.map indexColumn) ++ ")"
  | createSequence sequence =>
    "CREATE SEQUENCE IF NOT EXISTS " ++ qualified schema sequence.name ++
      clause "\n\tSTART WITH " sequence.start ++
      clause "\n\tINCREMENT BY " sequence.increment ++
      bound "MINVALUE" sequence.minValue ++
      bound "MAXVALUE" sequence.maxValue ++
      clause "\n\tCACHE " sequence.cache ++
      (if sequence.cycle then "\n\tCYCLE" else "\n\tNO CYCLE")
  | createFunction function =>
    "CREATE OR REPLACE FUNCTION " ++ qualified schema function.name ++ " (" ++
      Text.join ", " (function.params.map parameter) ++ ")\n\tRETURNS " ++
      Sql.returns function.returns ++
      clause "\n\tLANGUAGE " function.language ++
      "\n\tAS " ++ function.separator ++ "\n" ++ function.body ++ "\n" ++ function.separator

/-- A statement with its semicolon. -/
def write (schema : Text) (statement : Statement) : Text := statement.body schema ++ ";"

end Statement

namespace Script

/-- Statements one after another, an empty line behind each. -/
def ofStatements (schema : Text) (statements : List Statement) : Text :=
  statements.flatMap fun statement => statement.write schema ++ "\n\n"

/-- The script that creates an object. -/
def ofObject (schema : Text) (object : Object) : Text :=
  ofStatements schema (Statement.ofObject object)

end Script

/-! ## Collected scripts -/

/-- The scripts of objects, collected by name in the order in which names first came up. -/
abbrev ScriptBook := OrderedMap Text Text

namespace ScriptBook

/-- Adds the script of an object behind those of the same name. -/
def add (book : ScriptBook) (object : Object) : ScriptBook :=
  let earlier := (OrderedMap.get? book object.name).getD []
  OrderedMap.insert book object.name (earlier ++ Script.ofObject Sql.defaultSchema object)

/-- All scripts, one after another. -/
def text (book : ScriptBook) : Text := book.entries.flatMap Prod.snd

end ScriptBook

end SchemaCompiler
