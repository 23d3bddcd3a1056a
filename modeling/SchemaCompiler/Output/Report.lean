import SchemaCompiler.Database
import SchemaCompiler.Grid
import SchemaCompiler.Text.Width

/-!
# Reports

How objects are shown on a terminal: a title between rules, and sections with grids. A section that
has nothing to show says so, in red where every object of the kind should have something to show.
-/

namespace SchemaCompiler

/-- Which objects, and which sections of tables, are shown. -/
structure ConsoleOptions where
  functions : Bool
  sequences : Bool
  tables : Bool
  tableIndexes : Bool
  tableUniqueKeys : Bool
  deriving DecidableEq, Repr

namespace ConsoleOptions

/-- Everything is shown. -/
def default : ConsoleOptions := ⟨true, true, true, true, true⟩

/-- The options of a request; each is a flag, on when absent. -/
def ofRequest (request : OutputRequest) : ConsoleOptions where
  functions := request.flagOr "func" true
  sequences := request.flagOr "seq" true
  tables := request.flagOr "tbl" true
  tableIndexes := request.flagOr "tbl_index" true
  tableUniqueKeys := request.flagOr "tbl_unq" true

end ConsoleOptions

namespace Report

open Ansi (styled)

variable (colors : Bool)

/-- A line with its end. -/
def line (t : Text) : Text := t ++ ['\n']

/-- The title of an object, between rules of its width. -/
def title (kind : ObjectKind) (name : Text) : Text :=
  let title : Text := kind.label ++ ": " ++ name
  let rule : Text := List.replicate (Width.ofText title) '='
  line (styled colors .blue rule) ++ line (styled colors .blueBold title) ++
    line (styled colors .blue rule)

/-- The heading of a section. -/
def heading (t : Text) : Text := line (styled colors .underlined t)

/-- What a section shows that has nothing to show. -/
def missing (what : Text) (isError : Bool) : Text :=
  line (styled colors (if isError then .brightRed else .brightYellow) ("Missing " ++ what ++ "!"))

/-- A grid with display widths. -/
def grid (header : List Text) (rows : List (List Text)) : Text :=
  Grid.render Width.ofText ⟨header, rows⟩

/-- A section: its heading, its contents and an empty line. -/
def sectionText (t contents : Text) : Text := heading colors t ++ contents ++ ['\n']

/-- The section of properties. -/
def properties (properties : Properties) : Text :=
  sectionText colors "Properties:" <|
    grid ["Name", "Value"] (properties.entries.map fun (key, value) => [key, value.getD []])

/-- The word for a truth value. -/
def yesNo (b : Bool) : Text := if b then "Yes" else "No"

/-- The row of a column. -/
def columnRow (c : Column) : List Text :=
  [c.name, c.description.getD "[No description]", c.type, yesNo c.notNull,
   c.default.getD "[No default]"]

/-- The rows of constraints. -/
def constraintGrid (constraints : List Constraint) : Text :=
  grid ["Name", "Columns"] (constraints.map fun c => [c.name, Text.join "," c.columns.elems])

/-- The row of an index, one line for each column. -/
def indexRow (index : Index) : List Text :=
  [index.name, index.type,
   Text.join ['\n'] (index.columns.entries.map fun (column, order) =>
     (column ++ ": " ++ order.sql : Text))]

/-- The report on a table. -/
def table (options : ConsoleOptions) (t : Table) : Text :=
  title colors .table t.name ++
  properties colors t.properties ++
  sectionText colors "Columns:"
    (if t.columns = [] then missing colors "columns" true
     else grid ["Name", "Description", "Type", "Not Null", "Default Value"]
       (t.columns.map columnRow)) ++
  sectionText colors "Primary Key:"
    (match t.primaryKey with
     | none => missing colors "primary key" true
     | some key => constraintGrid [key]) ++
  (if options.tableUniqueKeys then
    sectionText colors "Unique keys:"
      (if t.uniqueKeys = [] then missing colors "unique keys" false
       else constraintGrid t.uniqueKeys)
   else []) ++
  (if options.tableIndexes then
    sectionText colors "Indexes:"
      (if t.indexes = [] then missing colors "indexes" false
       else grid ["Name", "Type", "Columns"] (t.indexes.map indexRow))
   else [])

/-- The report on a sequence. -/
def sequence (s : Sequence) : Text :=
  title colors .sequence s.name ++ properties colors s.properties

/-- The row of a parameter. -/
def parameterRow (p : Parameter) : List Text :=
  [p.name, p.type, p.direction.text, p.default.getD "[No default]"]

/-- The columns of a return, one on a line, or a dash where it has none by nature. -/
def returnColumns (r : Return) : Text :=
  if r.isTable then
    Text.join ['\n'] (r.columns.entries.map fun (column, type) => (column ++ ": " ++ type : Text))
  else "-"

/-- The report on a function. -/
def function (f : Function) : Text :=
  title colors .function f.name ++
  properties colors f.properties ++
  sectionText colors "Parameters:"
    (if f.params = [] then missing colors "parameters" false
     else grid ["Name", "Type", "Direction", "Default Value"] (f.params.map parameterRow)) ++
  sectionText colors "Return Info:"
    (grid ["Type", "Columns"] [[f.returns.type, returnColumns f.returns]])

/-- The report on an object, if its kind is shown. -/
def object? (options : ConsoleOptions) : Object → Option Text
  | .table t => if options.tables then some (table colors options t) else none
  | .sequence s => if options.sequences then some (sequence colors s) else none
  | .function f => if options.functions then some (function colors f) else none

end Report

end SchemaCompiler
