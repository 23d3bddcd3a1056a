import SchemaCompiler.Database
import SchemaCompiler.Sql.Script

/-!
# Markdown documentation

How objects are documented: a heading with the title and the name, the description, and tables of
columns, properties or parameters. A function is shown by its statement as well.

Main definitions: `Markdown.table`, `Markdown.object` and `Markdown.document`.
-/

namespace SchemaCompiler.Markdown

/-- A line with its end. -/
def line (t : Text) : Text := t ++ ['\n']

/-- A text as code. -/
def code (t : Text) : Text := "`" ++ t ++ "`"

/-- The line of a table that holds these cells. -/
def row (cells : List Text) : Text := line ("| " ++ Text.join " | " cells ++ " |")

/-- A table: its header, a rule and its rows. -/
def table (header : List Text) (rows : List (List Text)) : Text :=
  row header ++ row (header.map fun _ => ("---" : Text)) ++ rows.flatMap row

/-- A table and an empty line. -/
def tableBlock (header : List Text) (rows : List (List Text)) : Text := table header rows ++ ['\n']

/-- The heading of an object, whose kind stands in for a missing title, and its description. -/
def heading (kind : ObjectKind) (name : Text) (properties : Properties) : Text :=
  line ("## " ++ (Properties.title properties).getD kind.label ++ " - `" ++ name ++ "`") ++
    ['\n'] ++
    (match Properties.description properties with
     | none => []
     | some description => line description ++ ['\n'])

/-- What there is to note about a column of a table. -/
def columnNotes (t : Table) (c : Column) : List Text :=
  (if c.notNull then ["`NOT NULL`".toList] else []) ++
  (if t.inPrimaryKey c.name then ["`Primary Key`".toList] else []) ++
  (if t.inUniqueKey c.name then ["`Unique Key`".toList] else []) ++
  (match c.default with
   | none => []
   | some value => [("`DEFAULT " ++ value ++ "`" : Text)])

/-- The cells of a column. -/
def columnRow (t : Table) (c : Column) : List Text :=
  let notes := columnNotes t c
  [code c.name, code c.type, if notes = [] then "-" else Text.join ", " notes]

/-- The cells of a property. -/
def propertyRow (entry : Text × Option Text) : List Text :=
  [code entry.1, code (entry.2.getD [])]

/-- The cells of a parameter. -/
def parameterRow (p : Parameter) : List Text :=
  [code p.name, code p.type, p.description.getD "-"]

/-- The documentation of an object. -/
def object : Object → Text
  | .table t =>
    heading .table t.name t.properties ++
      (if t.columns = [] then []
       else tableBlock ["Column", "Type", "Notes"] (t.columns.map (columnRow t)))
  | .sequence s =>
    let properties := Properties.nonMeta s.properties
    heading .sequence s.name s.properties ++
      (if properties = [] then []
       else tableBlock ["Name", "Value"] (properties.map propertyRow))
  | .function f =>
    heading .function f.name f.properties ++
      line "```" ++ line (Script.ofObject Sql.defaultSchema (.function f)).trimEnd ++
      line "```" ++ ['\n'] ++
      (if f.params = [] then []
       else
         line "The function parameters are explained below:" ++ ['\n'] ++
           tableBlock ["Parameter", "Type", "Notes"] (f.params.map parameterRow))

/-- A document between a header and a footer, each set off by an empty line unless it is empty. -/
def document (header body footer : Text) : Text :=
  (if header = [] then [] else header ++ ("\n\n" : Text)) ++ body ++
    (if footer = [] then [] else ("\n\n" : Text) ++ footer)

end SchemaCompiler.Markdown
