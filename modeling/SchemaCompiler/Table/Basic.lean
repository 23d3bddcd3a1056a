import SchemaCompiler.Args

/-!
# Tables

A table has columns, at most one primary key, unique keys and indexes, all in the order in which
they were declared. The columns of a key are a set, those of an index carry a sort order each.
-/

namespace SchemaCompiler

/-- A column of a table. -/
structure Column where
  name : Text
  /-- The type, in the words of the database. -/
  type : Text
  notNull : Bool
  default : Option Text
  description : Option Text
  deriving DecidableEq, Repr

namespace Column

/-- The type of a column that declares none. -/
def defaultType : Text := "character varying(255)"

end Column

/-- The kinds of constraints. -/
inductive ConstraintKind where
  | primaryKey
  | unique
  deriving DecidableEq, Repr

namespace ConstraintKind

/-- The kind that a type property names. -/
def ofText? (t : Text) : Option ConstraintKind :=
  if t = "pk".toList then some .primaryKey else if t = "unq".toList then some .unique else none

/-- The kind as a type property names it. -/
def text : ConstraintKind → Text
  | primaryKey => "pk"
  | unique => "unq"

end ConstraintKind

/-- A constraint over some columns. -/
structure Constraint where
  name : Text
  kind : ConstraintKind
  columns : OrderedSet Text
  deriving DecidableEq, Repr

/-- The order in which an index sorts a column. -/
inductive SortOrder where
  | ascending
  | descending
  deriving DecidableEq, Repr

namespace SortOrder

/-- The order that a word names, in any case. -/
def ofText? (t : Text) : Option SortOrder :=
  if t.eqIgnoreCase "asc" then some .ascending
  else if t.eqIgnoreCase "desc" then some .descending
  else none

/-- The order in the words of the database. -/
def sql : SortOrder → Text
  | ascending => "ASC"
  | descending => "DESC"

end SortOrder

/-- An index over some columns. -/
structure Index where
  name : Text
  /-- The access method. -/
  type : Text
  columns : OrderedMap Text SortOrder
  deriving DecidableEq, Repr

namespace Index

/-- The access method of an index that declares none. -/
def defaultType : Text := "btree"

end Index

/-- A table. -/
structure Table where
  name : Text
  properties : Properties
  columns : List Column
  primaryKey : Option Constraint
  uniqueKeys : List Constraint
  indexes : List Index
  deriving DecidableEq, Repr

namespace Table

/-- The first column of a name. -/
def column? (table : Table) (name : Text) : Option Column :=
  table.columns.find? fun column => column.name = name

/-- The primary key covers a column of this name. -/
def inPrimaryKey (table : Table) (name : Text) : Bool :=
  table.primaryKey.any fun key => key.columns.contains name

/-- Some unique key covers a column of this name. -/
def inUniqueKey (table : Table) (name : Text) : Bool :=
  table.uniqueKeys.any fun key => key.columns.contains name

end Table

end SchemaCompiler
