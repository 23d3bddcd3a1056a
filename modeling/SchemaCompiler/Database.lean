import SchemaCompiler.Makefile
import SchemaCompiler.Mapping
import SchemaCompiler.Object.Basic

/-!
# Databases

All that a project defines: its objects by kind, each kind in the order of the files, with the
mapping that they were read with and the outputs to be written.
-/

namespace SchemaCompiler

/-- The objects of a project, with its mapping and its outputs. -/
structure Database where
  mapping : Mapping
  outputs : List OutputRequest
  tables : List Table
  sequences : List Sequence
  functions : List Function

namespace Database

/-- Sorts objects by kind and keeps their order. -/
def ofObjects (mapping : Mapping) (outputs : List OutputRequest) (objects : List Object) :
    Database where
  mapping
  outputs
  tables := objects.filterMap fun | .table t => some t | _ => none
  sequences := objects.filterMap fun | .sequence s => some s | _ => none
  functions := objects.filterMap fun | .function f => some f | _ => none

/-- The first table of a name. -/
def table? (db : Database) (name : Text) : Option Table := db.tables.find? fun t => t.name = name

/-- The first sequence of a name. -/
def sequence? (db : Database) (name : Text) : Option Sequence :=
  db.sequences.find? fun s => s.name = name

/-- The first function of a name. -/
def function? (db : Database) (name : Text) : Option Function :=
  db.functions.find? fun f => f.name = name

/-- The number of objects. -/
def size (db : Database) : Nat := db.tables.length + db.sequences.length + db.functions.length

/-- Every object, in the order in which outputs receive them: sequences, tables, functions. -/
def objects (db : Database) : List Object :=
  db.sequences.map .sequence ++ db.tables.map .table ++ db.functions.map .function

end Database

end SchemaCompiler
