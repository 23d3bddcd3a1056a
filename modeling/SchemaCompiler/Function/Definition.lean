import SchemaCompiler.Definition.Reading
import SchemaCompiler.Function.Basic
import SchemaCompiler.Source

/-!
# Function definitions

A function definition has name, property, parameter and return lines, and blocks between `BODY:` and
`BODY;` whose lines belong to the body as they are written. Names of parameters and all types are
taken literally, without expansion.

Main definitions: `FunctionEntry.parse`, `FunctionEntry.readLines`, `Function.ofEntries`,
`Function.ofLines` and `Function.notices`.
-/

namespace SchemaCompiler

/-- What a line of a function definition says. -/
inductive FunctionEntry where
  | name (name : Text)
  | properties (args : NamedArgs)
  | parameter (parameter : Parameter)
  | returns (returns : Return)
  | body (line : Text)
  | ignored
  deriving DecidableEq, Repr

/-- The block that holds the body of a function. -/
def bodyBlock : VerbatimBlock := ⟨bodyOpening, bodyClosing⟩

/-- The direction of a parameter, inward unless it names another. -/
def Direction.ofArg (parameter : Text) (direction : Option Text) : Except Error Direction :=
  match direction with
  | none => .ok .inward
  | some direction => match Direction.ofText? direction with
    | some direction => .ok direction
    | none => .error (.definition (.unknownDirection parameter direction))

/-- A parameter, written `name(type=…;direction=…;default=…;description=…)`. -/
def Parameter.parse (t : Text) : Except Error Parameter := do
  let spec := NamedSpec.parse ';' t
  if spec.name = [] then throw (.definition .namelessParameter)
  let direction ← Direction.ofArg spec.name (spec.args.value? "direction")
  return {
    name := spec.name
    type := (spec.args.value? "type").getD Parameter.defaultType
    direction
    default := spec.args.value? "default"
    description := spec.args.value? "description" }

/-- The type of a column in a table return. -/
def Return.columnOfArg : Text × Option Text → Except Error (Text × Text)
  | (column, some type) => .ok (column, type)
  | (column, none) => .error (.definition (.untypedReturnColumn column))

/-- A return, written `type` or `table(column=type;…)`. A type other than `table` is kept whole,
with its parentheses. -/
def Return.parse (t : Text) : Except Error Return := do
  let spec := NamedSpec.parse ';' t
  if spec.name = [] then throw (.definition .untypedReturn)
  if spec.name ≠ tableReturnType then return Return.ofType t OrderedMap.empty
  let columns ← spec.args.entries.mapM Return.columnOfArg
  return Return.ofType spec.name (OrderedMap.ofList columns)

/-- The ways of a return: it has no type, a type that is kept whole, or the columns of a table. -/
theorem Return.parse_eq (t : Text) :
    Return.parse t =
      if (Spec.parse t).name = [] then .error (.definition .untypedReturn)
      else if (Spec.parse t).name ≠ tableReturnType then .ok (Return.ofType t OrderedMap.empty)
      else
        (NamedArgs.parse ';' (Spec.parse t).args).entries.mapM Return.columnOfArg >>= fun columns =>
          .ok (Return.ofType (Spec.parse t).name (OrderedMap.ofList columns)) := rfl

namespace FunctionEntry

/-- Reads a line of a function definition outside body blocks. -/
def parse (mapping : Mapping) (line : Text) : Except Error FunctionEntry :=
  match Marker.split? line with
  | some (.name, rest) => (Definition.readName mapping rest).map .name
  | some (.properties, rest) => .ok (.properties (Definition.readProperties rest))
  | some (.parameter, rest) => (Parameter.parse rest).map .parameter
  | some (.returns, rest) => (Return.parse rest).map .returns
  | _ => .ok .ignored

/-- Reads the lines behind the first one; `inBody` tells whether a body block is open. -/
def readLines (mapping : Mapping) : Bool → List Text → Except Error (List FunctionEntry)
  | true, [] => .error (.definition .openBody)
  | false, [] => .ok []
  | true, line :: rest =>
    if line.trim = bodyClosing then readLines mapping false rest
    else (readLines mapping true rest).map (.body line :: ·)
  | false, line :: rest =>
    if line = bodyOpening then readLines mapping true rest
    else do
      let entry ← during (.readingLine line) (parse mapping line)
      (readLines mapping false rest).map (entry :: ·)

/-- The name that an entry gives. -/
def name? : FunctionEntry → Option Text
  | name n => some n
  | _ => none

/-- The properties that an entry gives. -/
def properties? : FunctionEntry → Option NamedArgs
  | properties args => some args
  | _ => none

/-- The parameter that an entry gives. -/
def parameter? : FunctionEntry → Option Parameter
  | parameter p => some p
  | _ => none

/-- The return that an entry gives. -/
def returns? : FunctionEntry → Option Return
  | returns r => some r
  | _ => none

/-- The body line that an entry is. -/
def body? : FunctionEntry → Option Text
  | body line => some line
  | _ => none

end FunctionEntry

namespace Function

/-- Puts a function together from its entries. -/
def ofEntries (entries : List FunctionEntry) : Except Error Function := do
  let name ← Definition.lastName .function (entries.filterMap FunctionEntry.name?)
  return {
    name
    properties := Definition.mergeProperties (entries.filterMap FunctionEntry.properties?)
    params := entries.filterMap FunctionEntry.parameter?
    returns := (entries.filterMap FunctionEntry.returns?).getLast?.getD Return.default
    body := Text.join ['\n'] (entries.filterMap FunctionEntry.body?) }

/-- The function that the prepared lines of a file describe. -/
def ofLines (mapping : Mapping) (lines : List Text) : Except Error Function := do
  let lines ← Definition.afterFirstLine .function lines
  let entries ← FunctionEntry.readLines mapping false lines
  ofEntries entries

/-- The notices about lines up to the first one that cannot be read. -/
def noticesFrom (mapping : Mapping) : Bool → List Text → List Notice
  | _, [] => []
  | true, line :: rest => noticesFrom mapping (decide (line.trim ≠ bodyClosing)) rest
  | false, line :: rest =>
    if line = bodyOpening then noticesFrom mapping true rest
    else match FunctionEntry.parse mapping line with
      | .error _ => []
      | .ok .ignored => Definition.ignoredLine .function line :: noticesFrom mapping false rest
      | .ok _ => noticesFrom mapping false rest

/-- The notices about the prepared lines of a function definition. -/
def notices (mapping : Mapping) (lines : List Text) : List Notice :=
  match Definition.afterFirstLine .function lines with
  | .error _ => []
  | .ok lines => noticesFrom mapping false lines

end Function

end SchemaCompiler
