import SchemaCompiler.Object.Definition
import SchemaCompiler.Proofs.Args
import SchemaCompiler.Proofs.DefinitionLine

namespace SchemaCompiler

/-! # Canonical definition files

Every object has one canonical definition file: the line of its kind, a name line, a properties line,
a line for each of its parts in their order and, for a function, its body between the body markers.
A part that is not set is not written; the type of anything and the direction of a parameter always
are.

A definition file has no escapes, so it cannot write every object. `Object.WellFormed` says which
ones it can: their texts are trimmed and stand on one line, none of them holds the separators around
it, and what a mapping would expand holds no dollar sign. The body of a function is free but for its
own closing marker and for carriage returns ahead of line ends.
-/

/-! ## Texts in a line -/

/-- A text that can stand somewhere in a line. -/
@[mk_iff]
structure Text.Inline (t : Text) : Prop where
  trimmed : Text.Trimmed t
  newline_not_mem : '\n' ∉ t

/-- A name that a mapping leaves as it is. -/
@[mk_iff]
structure Text.IsName (t : Text) : Prop extends Text.Inline t where
  ne_nil : t ≠ []
  dollar_not_mem : '$' ∉ t

/-- A name at the start of a definition line. -/
@[mk_iff]
structure Text.IsLineName (t : Text) : Prop extends Text.IsName t where
  open_not_mem : '(' ∉ t
  semicolon_not_mem : ';' ∉ t

/-- A value among others, with semicolons in between. -/
@[mk_iff]
structure Text.IsValue (t : Text) : Prop extends Text.Inline t where
  semicolon_not_mem : ';' ∉ t

instance (t : Text) : Decidable (Text.Inline t) := decidable_of_iff' _ (Text.inline_iff t)

instance (t : Text) : Decidable (Text.IsName t) := decidable_of_iff' _ (Text.isName_iff t)

instance (t : Text) : Decidable (Text.IsLineName t) := decidable_of_iff' _ (Text.isLineName_iff t)

instance (t : Text) : Decidable (Text.IsValue t) := decidable_of_iff' _ (Text.isValue_iff t)

/-- Arguments that a list on one line can hold. -/
def NamedArgs.WellFormed (sep : Char) (entries : List (Text × Option Text)) : Prop :=
  ∀ entry ∈ entries, NamedArgs.Writable sep entry ∧ '\n' ∉ NamedArgs.piece entry

instance (sep : Char) (entries : List (Text × Option Text)) :
    Decidable (NamedArgs.WellFormed sep entries) := inferInstanceAs (Decidable (∀ _ ∈ entries, _))

/-- An argument, if it is set. -/
def setting (key : Text) : Option Text → List (Text × Option Text)
  | none => []
  | some value => [(key, some value)]

/-- A definition line: its marker and what it says. -/
def Marker.line (marker : Marker) (rest : Text) : Text := marker.keyword ++ rest

/-! ## Tables -/

/-- The attributes of a column that are written. -/
def Column.attributes (c : Column) : List (Text × Option Text) :=
  ("type", some c.type) ::
    ((if c.notNull then [(("not_null" : Text), some ("true" : Text))] else []) ++
      setting "default" c.default ++ setting "description" c.description)

/-- The column can be written on a line. -/
@[mk_iff]
structure Column.WellFormed (c : Column) : Prop where
  name : Text.IsLineName c.name
  type : Text.IsValue c.type
  default : ∀ d ∈ c.default, Text.IsValue d ∧ '$' ∉ d
  description : ∀ d ∈ c.description, Text.IsValue d

/-- The constraint can be written on a line. -/
@[mk_iff]
structure Constraint.WellFormed (c : Constraint) : Prop where
  name : Text.IsLineName c.name
  columns_ne_nil : c.columns.elems ≠ []
  column : ∀ t ∈ c.columns.elems, Text.IsName t ∧ ',' ∉ t
  enclosed : Enclosed (Text.join [','] c.columns.elems)

/-- The columns of an index as arguments, each with its sort order. -/
def Index.arguments (i : Index) : List (Text × Option Text) :=
  i.columns.entries.map fun (column, order) => (column, some order.sql)

/-- The index can be written on a line. -/
@[mk_iff]
structure Index.WellFormed (i : Index) : Prop where
  name : Text.IsLineName i.name
  type : Text.IsValue i.type
  columns_ne_nil : i.columns.entries ≠ []
  column : ∀ entry ∈ i.columns.entries,
    Text.IsName entry.1 ∧ ',' ∉ entry.1 ∧ '=' ∉ entry.1
  enclosed : Enclosed (NamedArgs.list ',' i.arguments)

instance (c : Column) : Decidable c.WellFormed := decidable_of_iff' _ (Column.wellFormed_iff c)

instance (c : Constraint) : Decidable c.WellFormed :=
  decidable_of_iff' _ (Constraint.wellFormed_iff c)

instance (i : Index) : Decidable i.WellFormed := decidable_of_iff' _ (Index.wellFormed_iff i)

namespace TableEntry

/-- The line that says what an entry says. -/
def line : TableEntry → Text
  | name n => Marker.name.line n
  | properties args => Marker.properties.line (NamedArgs.list ';' args.entries)
  | column c => Marker.column.line (c.name ++ ";" ++ NamedArgs.list ';' c.attributes)
  | constraint c =>
    Marker.constraint.line
      (c.name ++ "(" ++ Text.join [','] c.columns.elems ++ ");type=" ++ c.kind.text)
  | index i =>
    Marker.index.line (i.name ++ "(" ++ NamedArgs.list ',' i.arguments ++ ");type=" ++ i.type)
  | ignored => []

/-- The entry can be written on a line. -/
def WellFormed : TableEntry → Prop
  | name n => Text.IsName n
  | properties args => NamedArgs.WellFormed ';' args.entries
  | column c => c.WellFormed
  | constraint c => c.WellFormed
  | index i => i.WellFormed
  | ignored => False

instance : DecidablePred WellFormed
  | name n => inferInstanceAs (Decidable (Text.IsName n))
  | properties args => inferInstanceAs (Decidable (NamedArgs.WellFormed ';' args.entries))
  | column c => inferInstanceAs (Decidable c.WellFormed)
  | constraint c => inferInstanceAs (Decidable c.WellFormed)
  | index i => inferInstanceAs (Decidable i.WellFormed)
  | ignored => inferInstanceAs (Decidable False)

end TableEntry

namespace Table

/-- What the lines of a table definition say, in their order. -/
def entries (t : Table) : List TableEntry :=
  .name t.name :: .properties t.properties ::
    (t.columns.map .column ++ t.primaryKey.toList.map .constraint ++
      t.uniqueKeys.map .constraint ++ t.indexes.map .index)

/-- The lines of a table definition. -/
def canonicalLines (t : Table) : List Text := "TBL" :: t.entries.map TableEntry.line

/-- All parts of the table can be written, and its keys stand where keys of their kind do. -/
@[mk_iff]
structure WellFormed (t : Table) : Prop where
  entry : ∀ e ∈ t.entries, e.WellFormed
  primaryKey_kind : ∀ k ∈ t.primaryKey, k.kind = .primaryKey
  uniqueKey_kind : ∀ k ∈ t.uniqueKeys, k.kind = .unique

instance (t : Table) : Decidable t.WellFormed := decidable_of_iff' _ (wellFormed_iff t)

end Table

/-! ## Sequences -/

namespace SequenceEntry

/-- The line that says what an entry says. -/
def line : SequenceEntry → Text
  | name n => Marker.name.line n
  | properties args => Marker.properties.line (NamedArgs.list ';' args.entries)
  | ignored => []

/-- The entry can be written on a line. -/
def WellFormed : SequenceEntry → Prop
  | name n => Text.IsName n
  | properties args => NamedArgs.WellFormed ';' args.entries
  | ignored => False

instance : DecidablePred WellFormed
  | name n => inferInstanceAs (Decidable (Text.IsName n))
  | properties args => inferInstanceAs (Decidable (NamedArgs.WellFormed ';' args.entries))
  | ignored => inferInstanceAs (Decidable False)

end SequenceEntry

namespace Sequence

/-- What the lines of a sequence definition say, in their order. -/
def entries (s : Sequence) : List SequenceEntry := [.name s.name, .properties s.properties]

/-- The lines of a sequence definition. -/
def canonicalLines (s : Sequence) : List Text := "SEQ" :: s.entries.map SequenceEntry.line

def WellFormed (s : Sequence) : Prop := ∀ e ∈ s.entries, e.WellFormed

instance (s : Sequence) : Decidable s.WellFormed := inferInstanceAs (Decidable (∀ _ ∈ s.entries, _))

end Sequence

/-! ## Functions -/

/-- The attributes of a parameter that are written. -/
def Parameter.attributes (p : Parameter) : List (Text × Option Text) :=
  ("type", some p.type) :: ("direction", some p.direction.text) ::
    (setting "default" p.default ++ setting "description" p.description)

/-- The parameter can be written on a line. Its name is not expanded, so it may hold dollar signs. -/
@[mk_iff]
structure Parameter.WellFormed (p : Parameter) : Prop where
  name : Text.Inline p.name
  name_ne_nil : p.name ≠ []
  open_not_mem_name : '(' ∉ p.name
  type : Text.IsValue p.type
  default : ∀ d ∈ p.default, Text.IsValue d
  description : ∀ d ∈ p.description, Text.IsValue d

/-- The columns of a return as arguments, each with its type. -/
def Return.arguments (columns : OrderedMap Text Text) : List (Text × Option Text) :=
  columns.entries.map fun (column, type) => (column, some type)

/-- The return as it is written. -/
def Return.text : Return → Text
  | .value type _ => type
  | .table columns => "table(" ++ NamedArgs.list ';' (arguments columns) ++ ")"

/-- A type that is no table does not look like one either: what stands ahead of its parentheses is
neither empty nor `table`. -/
def Return.WellFormed : Return → Prop
  | .value type _ =>
    Text.Inline type ∧ (Spec.parse type).name ≠ [] ∧ (Spec.parse type).name ≠ tableReturnType
  | .table columns => NamedArgs.WellFormed ';' (arguments columns)

instance (p : Parameter) : Decidable p.WellFormed :=
  decidable_of_iff' _ (Parameter.wellFormed_iff p)

instance : DecidablePred Return.WellFormed
  | .value type _ => inferInstanceAs (Decidable (Text.Inline type ∧
      (Spec.parse type).name ≠ [] ∧ (Spec.parse type).name ≠ tableReturnType))
  | .table columns => inferInstanceAs (Decidable (NamedArgs.WellFormed ';' (Return.arguments columns)))

namespace FunctionEntry

/-- The line that says what an entry says. -/
def line : FunctionEntry → Text
  | name n => Marker.name.line n
  | properties args => Marker.properties.line (NamedArgs.list ';' args.entries)
  | parameter p =>
    Marker.parameter.line (p.name ++ "(" ++ NamedArgs.list ';' p.attributes ++ ")")
  | returns r => Marker.returns.line r.text
  | body l => l
  | ignored => []

/-- The entry can be written on a line outside the body. -/
def WellFormed : FunctionEntry → Prop
  | name n => Text.IsName n
  | properties args => NamedArgs.WellFormed ';' args.entries
  | parameter p => p.WellFormed
  | returns r => r.WellFormed
  | body _ => False
  | ignored => False

instance : DecidablePred WellFormed
  | name n => inferInstanceAs (Decidable (Text.IsName n))
  | properties args => inferInstanceAs (Decidable (NamedArgs.WellFormed ';' args.entries))
  | parameter p => inferInstanceAs (Decidable p.WellFormed)
  | returns r => inferInstanceAs (Decidable r.WellFormed)
  | body _ | ignored => inferInstanceAs (Decidable False)

end FunctionEntry

namespace Function

/-- What the lines of a function definition outside the body say, in their order. -/
def entries (f : Function) : List FunctionEntry :=
  .name f.name :: .properties f.properties :: (f.params.map .parameter ++ [.returns f.returns])

/-- The lines of the body. -/
def bodyLines (f : Function) : List Text := Text.splitOn '\n' f.body

/-- The lines of a function definition. -/
def canonicalLines (f : Function) : List Text :=
  "FUNC" :: (f.entries.map FunctionEntry.line ++ bodyOpening :: (f.bodyLines ++ [bodyClosing]))

/-- All parts of the function can be written, and nothing in its body ends the body or loses a
carriage return. -/
@[mk_iff]
structure WellFormed (f : Function) : Prop where
  entry : ∀ e ∈ f.entries, e.WellFormed
  body_not_closed : ∀ l ∈ f.bodyLines, l.trim ≠ bodyClosing
  body_no_return : ∀ l ∈ f.bodyLines, l.getLast? ≠ some '\r'

instance (f : Function) : Decidable f.WellFormed := decidable_of_iff' _ (wellFormed_iff f)

end Function

/-! ## Objects -/

namespace Object

/-- The lines of the definition of an object. -/
def canonicalLines : Object → List Text
  | table t => t.canonicalLines
  | sequence s => s.canonicalLines
  | function f => f.canonicalLines

/-- The canonical definition file of an object. -/
def canonicalText (object : Object) : Text := Text.unlines object.canonicalLines

/-- The object can be written as a definition file. -/
def WellFormed : Object → Prop
  | table t => t.WellFormed
  | sequence s => s.WellFormed
  | function f => f.WellFormed

instance : DecidablePred WellFormed
  | table t => inferInstanceAs (Decidable t.WellFormed)
  | sequence s => inferInstanceAs (Decidable s.WellFormed)
  | function f => inferInstanceAs (Decidable f.WellFormed)

end Object

end SchemaCompiler
