import SchemaCompiler.Args

/-!
# Functions

A function has parameters, a return and a body. A return is a type or a table of columns; only a
table return has columns, and no other return has the type `table`.
-/

namespace SchemaCompiler

/-- Which way a parameter passes its value. -/
inductive Direction where
  | inward
  | outward
  deriving DecidableEq, Repr

namespace Direction

/-- The direction that a word names, in any case. -/
def ofText? (t : Text) : Option Direction :=
  if t.eqIgnoreCase "in" then some .inward
  else if t.eqIgnoreCase "out" then some .outward
  else none

/-- The direction as definitions name it. -/
def text : Direction → Text
  | inward => "in"
  | outward => "out"

/-- The direction in the words of the database. -/
def sql : Direction → Text
  | inward => "IN"
  | outward => "OUT"

end Direction

/-- A parameter of a function. -/
structure Parameter where
  name : Text
  type : Text
  direction : Direction
  default : Option Text
  description : Option Text
  deriving DecidableEq, Repr

namespace Parameter

/-- The type of a parameter that declares none. -/
def defaultType : Text := "character varying"

end Parameter

/-- The type of a return that has columns. -/
def tableReturnType : Text := "table"

/-- What a function returns. -/
inductive Return where
  /-- A value of some type. -/
  | value (type : Text) (not_table : type ≠ tableReturnType)
  /-- Rows of columns with their types. -/
  | table (columns : OrderedMap Text Text)
  deriving DecidableEq, Repr

namespace Return

/-- The return of a type; columns count only when the type is `table`. -/
def ofType (type : Text) (columns : OrderedMap Text Text) : Return :=
  if h : type = tableReturnType then .table columns else .value type h

/-- The return of a function that declares none. -/
def default : Return := ofType "void" OrderedMap.empty

/-- The type of a return. -/
def type : Return → Text
  | value type _ => type
  | table _ => tableReturnType

/-- The return has columns. -/
def isTable : Return → Bool
  | value _ _ => false
  | table _ => true

/-- The columns of a return, with their types. -/
def columns : Return → OrderedMap Text Text
  | value _ _ => OrderedMap.empty
  | table columns => columns

end Return

/-- A function. -/
structure Function where
  name : Text
  properties : Properties
  params : List Parameter
  returns : Return
  /-- The text between the body markers, line ends included. -/
  body : Text
  deriving DecidableEq, Repr

namespace Function

/-- The language that the body is written in, if it is declared. -/
def language (function : Function) : Option Text := function.properties.value? "lang"

/-- The delimiter around the body of a function that declares none. -/
def defaultSeparator : Text := "$$"

/-- The delimiter around the body. -/
def separator (function : Function) : Text :=
  (function.properties.value? "sep").getD defaultSeparator

end Function

end SchemaCompiler
