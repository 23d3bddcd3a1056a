import SchemaCompiler.Mapping
import SchemaCompiler.Notice
import SchemaCompiler.Source

/-!
# Mapping files

A mapping file assigns tokens, one on a line: `MAP:token=value`. Lines of another form and lines
about unknown tokens assign nothing.
-/

namespace SchemaCompiler.Mapping

/-- The two sides of a line that has the form of an assignment, as written. -/
def assignment? (line : Text) : Option (Text × Text) :=
  (Text.after? "MAP:" line).bind (Text.splitOnce '=')

/-- Applies a line to a mapping. -/
def readLine (mapping : Mapping) (line : Text) : Mapping :=
  match assignment? line with
  | none => mapping
  | some (name, value) => match Token.ofName? name.trim with
    | none => mapping
    | some token => mapping.assign token value.trim

/-- The mapping that a file describes. -/
def parse (contents : Text) : Mapping := (Source.lines none contents).foldl readLine default

/-- What there is to say about a line that assigns nothing. -/
def lineNotice? (line : Text) : Option Notice :=
  match assignment? line with
  | none => some ⟨.debug, "ignoring malformed mapping line", [("line", .quoted line)]⟩
  | some (name, _) => match Token.ofName? name.trim with
    | none => some ⟨.debug, "ignoring unknown mapping token", [("name", .quoted name)]⟩
    | some _ => none

/-- The notices about a mapping file. -/
def notices (contents : Text) : List Notice := (Source.lines none contents).filterMap lineNotice?

end SchemaCompiler.Mapping
