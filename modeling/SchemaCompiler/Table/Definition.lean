import SchemaCompiler.Definition.Reading
import SchemaCompiler.Table.Basic

/-!
# Table definitions

Every line of a table definition is read by itself into an entry, so the first line that cannot be
read decides the error; the table is then put together from the entries. Of several primary keys
the last one counts.

Main definitions: `TableEntry.parse`, `Table.ofEntries`, `Table.ofLines` and `Table.notices`.
-/

namespace SchemaCompiler

/-- What a line of a table definition says. -/
inductive TableEntry where
  | name (name : Text)
  | properties (args : NamedArgs)
  | column (column : Column)
  | constraint (constraint : Constraint)
  | index (index : Index)
  | ignored
  deriving DecidableEq, Repr

/-- A column: its attributes stand between the parentheses, those behind them taking precedence, and
only its default is expanded. -/
def Column.ofLine (mapping : Mapping) (line : DefinitionLine) : Column :=
  let attributes := (NamedArgs.parse ';' line.args).extend line.properties
  { name := line.name
    type := (NamedArgs.value? attributes "type").getD Column.defaultType
    notNull := NamedArgs.flag attributes "not_null"
    default := (NamedArgs.value? attributes "default").map mapping.expand
    description := NamedArgs.value? attributes "description" }

/-- A constraint: its type is a property, its columns are separated by commas. -/
def Constraint.ofLine (mapping : Mapping) (line : DefinitionLine) : Except Error Constraint := do
  let kind ← match line.property? "type" with
    | none => throw (.ofFault (.constraintType none))
    | some type => match ConstraintKind.ofText? type with
      | none => throw (.ofFault (.constraintType (some type)))
      | some kind => pure kind
  let columns := OrderedSet.ofList ((args ',' line.args).map mapping.expand)
  if columns.elems = [] then throw (.definition (.constraintWithoutColumns line.name))
  return { name := line.name, kind, columns }

/-- The sort order of an index column; none or an empty one means ascending. -/
def SortOrder.ofArg (column : Text) (order : Option Text) : Except Error SortOrder :=
  match order with
  | none | some [] => .ok .ascending
  | some order => match SortOrder.ofText? order with
    | some order => .ok order
    | none => .error (.definition (.unknownSortOrder column order))

/-- An index: its columns are separated by commas, each with its sort order. -/
def Index.ofLine (mapping : Mapping) (line : DefinitionLine) : Except Error Index := do
  let columns ← (NamedArgs.parse ',' line.args).entries.mapM fun (column, order) => do
    let order ← SortOrder.ofArg column order
    pure (mapping.expand column, order)
  if columns = [] then throw (.definition (.indexWithoutColumns line.name))
  return {
    name := line.name
    type := (line.property? "type").getD Index.defaultType
    columns := OrderedMap.ofList columns }

namespace TableEntry

/-- Reads a line of a table definition. -/
def parse (mapping : Mapping) (line : Text) : Except Error TableEntry :=
  match Marker.split? line with
  | some (.name, rest) => (Definition.readName mapping rest).map .name
  | some (.properties, rest) => .ok (.properties (Definition.readProperties rest))
  | some (.column, rest) =>
    (Definition.readLine mapping .column rest).map fun line => .column (.ofLine mapping line)
  | some (.constraint, rest) => do
    let line ← Definition.readLine mapping .constraint rest
    (Constraint.ofLine mapping line).map .constraint
  | some (.index, rest) => do
    let line ← Definition.readLine mapping .index rest
    (Index.ofLine mapping line).map .index
  | _ => .ok .ignored

/-- The name that an entry gives. -/
def name? : TableEntry → Option Text
  | name n => some n
  | _ => none

/-- The properties that an entry gives. -/
def properties? : TableEntry → Option NamedArgs
  | properties args => some args
  | _ => none

/-- The column that an entry gives. -/
def column? : TableEntry → Option Column
  | column c => some c
  | _ => none

/-- The constraint of some kind that an entry gives. -/
def constraint? (kind : ConstraintKind) : TableEntry → Option Constraint
  | constraint c => if c.kind = kind then some c else none
  | _ => none

/-- The index that an entry gives. -/
def index? : TableEntry → Option Index
  | index i => some i
  | _ => none

end TableEntry

namespace Table

/-- Puts a table together from its entries. -/
def ofEntries (entries : List TableEntry) : Except Error Table := do
  let name ← Definition.lastName .table (entries.filterMap TableEntry.name?)
  return {
    name
    properties := Definition.mergeProperties (entries.filterMap TableEntry.properties?)
    columns := entries.filterMap TableEntry.column?
    primaryKey := (entries.filterMap (TableEntry.constraint? .primaryKey)).getLast?
    uniqueKeys := entries.filterMap (TableEntry.constraint? .unique)
    indexes := entries.filterMap TableEntry.index? }

/-- The table that the prepared lines of a file describe. -/
def ofLines (mapping : Mapping) (lines : List Text) : Except Error Table := do
  let lines ← Definition.afterFirstLine .table lines
  let entries ← lines.mapM fun line =>
    during (.readingLine line) (TableEntry.parse mapping line)
  ofEntries entries

/-- The notices about lines up to the first one that cannot be read; `key` is the name of the
primary key declared so far. -/
def noticesFrom (mapping : Mapping) (key : Option Text) : List Text → List Notice
  | [] => []
  | line :: rest => match TableEntry.parse mapping line with
    | .error _ => []
    | .ok .ignored => Definition.ignoredLine .table line :: noticesFrom mapping key rest
    | .ok (.constraint constraint) =>
      if constraint.kind = .primaryKey then
        let replaced : List Notice := match key with
          | none => []
          | some name =>
            [⟨.warning, "table declares more than one primary key; keeping the last one",
              [("replaced", .plain name)]⟩]
        replaced ++ noticesFrom mapping (some constraint.name) rest
      else noticesFrom mapping key rest
    | .ok _ => noticesFrom mapping key rest

/-- The notices about the prepared lines of a table definition. -/
def notices (mapping : Mapping) (lines : List Text) : List Notice :=
  match Definition.afterFirstLine .table lines with
  | .error _ => []
  | .ok lines => noticesFrom mapping none lines

end Table

end SchemaCompiler
