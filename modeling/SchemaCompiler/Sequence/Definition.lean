import SchemaCompiler.Definition.Reading
import SchemaCompiler.Sequence

/-!
# Sequence definitions

A sequence definition has name lines and property lines; every other line is ignored.
-/

namespace SchemaCompiler

/-- What a line of a sequence definition says. -/
inductive SequenceEntry where
  | name (name : Text)
  | properties (args : NamedArgs)
  | ignored
  deriving DecidableEq, Repr

namespace SequenceEntry

/-- Reads a line of a sequence definition. -/
def parse (mapping : Mapping) (line : Text) : Except Error SequenceEntry :=
  match Marker.split? line with
  | some (.name, rest) => (Definition.readName mapping rest).map .name
  | some (.properties, rest) => .ok (.properties (Definition.readProperties rest))
  | _ => .ok .ignored

/-- The name that an entry gives. -/
def name? : SequenceEntry → Option Text
  | name n => some n
  | _ => none

/-- The properties that an entry gives. -/
def properties? : SequenceEntry → Option NamedArgs
  | properties args => some args
  | _ => none

end SequenceEntry

namespace Sequence

/-- Puts a sequence together from its entries. -/
def ofEntries (entries : List SequenceEntry) : Except Error Sequence := do
  let name ← Definition.lastName .sequence (entries.filterMap SequenceEntry.name?)
  return {
    name
    properties := Definition.mergeProperties (entries.filterMap SequenceEntry.properties?) }

/-- The sequence that the prepared lines of a file describe. -/
def ofLines (mapping : Mapping) (lines : List Text) : Except Error Sequence := do
  let lines ← Definition.afterFirstLine .sequence lines
  let entries ← lines.mapM fun line =>
    during (.readingLine line) (SequenceEntry.parse mapping line)
  ofEntries entries

/-- The notices about lines up to the first one that cannot be read. -/
def noticesFrom (mapping : Mapping) : List Text → List Notice
  | [] => []
  | line :: rest => match SequenceEntry.parse mapping line with
    | .error _ => []
    | .ok .ignored => Definition.ignoredLine .sequence line :: noticesFrom mapping rest
    | .ok _ => noticesFrom mapping rest

/-- The notices about the prepared lines of a sequence definition. -/
def notices (mapping : Mapping) (lines : List Text) : List Notice :=
  match Definition.afterFirstLine .sequence lines with
  | .error _ => []
  | .ok lines => noticesFrom mapping lines

end Sequence

end SchemaCompiler
