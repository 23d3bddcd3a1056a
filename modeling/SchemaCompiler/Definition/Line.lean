import SchemaCompiler.Args
import SchemaCompiler.Mapping

/-!
# Specifications and definition lines

A specification is a name with arguments in parentheses, `name(args)`. A definition line is a
specification followed by properties, `name(args); key=value; …`.

Two rules for parentheses meet here. The end of the specification in a line is the first semicolon
outside nested parentheses (`splitTopLevel`); the arguments of a specification reach from its first
opening to its last closing parenthesis (`Spec.parse`).
-/

namespace SchemaCompiler

/-- A name with the raw text between its parentheses. -/
structure Spec where
  name : Text
  args : Text
  deriving DecidableEq, Repr

namespace Spec

/-- Cuts at the first opening and the last closing parenthesis, if they stand in this order; what
follows the last one is dropped. Any other text is all name. -/
def parse (t : Text) : Spec :=
  let t := t.trim
  match t.splitOnce '(' with
  | none => ⟨t, []⟩
  | some (front, rest) => match rest.splitLast ')' with
    | none => ⟨t, []⟩
    | some (inner, _) => ⟨front.trim, inner⟩

end Spec

/-- A name with named arguments in parentheses. -/
structure NamedSpec where
  name : Text
  args : NamedArgs
  deriving DecidableEq, Repr

namespace NamedSpec

/-- The specification of a text, its arguments separated by `sep`. -/
def parse (sep : Char) (t : Text) : NamedSpec :=
  let spec := Spec.parse t
  ⟨spec.name, NamedArgs.parse sep spec.args⟩

end NamedSpec

/-- Cuts at the first separator outside parentheses, with `depth` of them open. A closing
parenthesis without an opening one counts for nothing. -/
def splitTopLevel (sep : Char) : Nat → Text → Text × Option Text
  | _, [] => ([], none)
  | depth, c :: cs =>
    if c = '(' then (splitTopLevel sep (depth + 1) cs).map (c :: ·) id
    else if c = ')' then (splitTopLevel sep (depth - 1) cs).map (c :: ·) id
    else if c = sep ∧ depth = 0 then ([], some cs)
    else (splitTopLevel sep depth cs).map (c :: ·) id

/-- A definition line in its parts. -/
structure DefinitionLine where
  /-- The name, with placeholders expanded. -/
  name : Text
  /-- The text between the parentheses, as written. -/
  args : Text
  /-- The properties that follow. -/
  properties : NamedArgs
  deriving DecidableEq, Repr

namespace DefinitionLine

/-- The parts of a line, unless it holds nothing before its first separator. -/
def parse? (mapping : Mapping) (line : Text) : Option DefinitionLine :=
  let (object, properties) := splitTopLevel ';' 0 line
  if object.trim = [] then none
  else
    let spec := Spec.parse object.trim
    some ⟨mapping.expand spec.name, spec.args, NamedArgs.parse ';' (properties.getD [])⟩

/-- The value of a property that is present and carries one. -/
def property? (line : DefinitionLine) (key : Text) : Option Text := line.properties.value? key

end DefinitionLine

end SchemaCompiler
