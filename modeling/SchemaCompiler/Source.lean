import SchemaCompiler.Text.Basic

/-!
# Source lines

How a source file is cut into the lines that mean something: a leading byte-order mark
goes, lines are trimmed, blank lines and `#` comments are left out. A verbatim block keeps every
line between its two marker lines exactly as written.

Main definitions: `Source.lines` and `Source.firstLine?`.
-/

namespace SchemaCompiler

/-- The two marker lines around lines to be kept as written. -/
structure VerbatimBlock where
  opening : Text
  closing : Text
  deriving DecidableEq, Repr

namespace Source

/-- A trimmed line says something: it is neither blank nor a comment. -/
def isEffective (line : Text) : Bool := line ≠ [] && line.head? ≠ some '#'

/-- The effective lines of a file without verbatim blocks. -/
def effectiveLines (lines : List Text) : List Text :=
  (lines.map Text.trim).filter isEffective

/-- The lines of a file with verbatim blocks; `inside` tells whether a block is open. -/
def blockLines (block : VerbatimBlock) : Bool → List Text → List Text
  | _, [] => []
  | true, line :: rest =>
    if line.trim = block.closing then line.trim :: blockLines block false rest
    else line :: blockLines block true rest
  | false, line :: rest =>
    let inside := decide (line.trim = block.opening)
    if isEffective line.trim then line.trim :: blockLines block inside rest
    else blockLines block inside rest

/-- The lines of a file, prepared for reading. -/
def lines (block : Option VerbatimBlock) (contents : Text) : List Text :=
  let raw := contents.dropMark.lines
  match block with
  | none => effectiveLines raw
  | some block => blockLines block false raw

/-- The first line of a file that is neither blank nor a comment. -/
def firstLine? (contents : Text) : Option Text :=
  (contents.dropMark.lines.map Text.trim).find? isEffective

end Source

end SchemaCompiler
