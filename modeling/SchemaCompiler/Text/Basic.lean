/-!
# Text

Text is a list of characters, so that every function on it is a function on lists and can be
reasoned about as one. Packed strings appear only at the edges of the program; a string literal
stands for its characters.

Properties of characters are kept as ranges of code points, each by its first and its last one
(`inRanges`). Trimming removes the characters with the Unicode property White_Space, whole and
exact: it counts the no-break space and the line separators, but neither the zero-width space nor
the byte-order mark.

Main definitions:

* `isBlank`: the character carries the property White_Space;
* `Text.trim`: the text without the blanks at its two ends;
* `Text.splitOn`: the pieces between the occurrences of a separator, never an empty list;
* `Text.splitOnce`, `Text.splitLast`: the two sides of the first or the last separator;
* `Text.lines`: the lines of a text, with either kind of line end;
* `Text.replaceAll`: every occurrence of a pattern, found from left to right, replaced;
* `Text.eqIgnoreCase`: equality up to the case of ASCII letters.
-/

namespace SchemaCompiler

/-- Text as the list of its characters. -/
abbrev Text := List Char

instance : Coe String Text := ⟨String.toList⟩

/-! ## Characters -/

/-- A code point lies in one of the ranges. -/
def inRanges (ranges : Array (Nat × Nat)) (n : Nat) : Bool :=
  ranges.any fun r => decide (r.1 ≤ n) && decide (n ≤ r.2)

/-- The ranges of code points that carry the property White_Space, in ascending order. -/
def blankRanges : List (Nat × Nat) :=
  [(0x0009, 0x000D), (0x0020, 0x0020), (0x0085, 0x0085), (0x00A0, 0x00A0), (0x1680, 0x1680),
   (0x2000, 0x200A), (0x2028, 0x2029), (0x202F, 0x202F), (0x205F, 0x205F), (0x3000, 0x3000)]

/-- A character is blank when it has the property White_Space. -/
def isBlank (c : Char) : Bool :=
  blankRanges.any fun r => decide (r.1 ≤ c.toNat) && decide (c.toNat ≤ r.2)

namespace Text

/-- The packed form of a text, for output. -/
def toString (t : Text) : String := String.ofList t

/-- The decimal digits of a number. -/
def ofNat (n : Nat) : Text := Nat.toDigits 10 n

/-! ## Trimming -/

/-- The text without its leading blanks. -/
def trimStart (t : Text) : Text := t.dropWhile isBlank

/-- The text without its trailing blanks. -/
def trimEnd (t : Text) : Text := (t.reverse.dropWhile isBlank).reverse

/-- The text without the blanks at its two ends. -/
def trim (t : Text) : Text := trimEnd (trimStart t)

/-! ## Cutting -/

/-- What follows `start` in a text that begins with it. -/
def after? : Text → Text → Option Text
  | [], t => some t
  | _ :: _, [] => none
  | p :: ps, c :: cs => if p = c then after? ps cs else none

/-- What precedes `ending` in a text that finishes with it. -/
def before? (ending t : Text) : Option Text := (after? ending.reverse t.reverse).map List.reverse

/-- The text without one leading byte-order mark. -/
def dropMark (t : Text) : Text := (after? ['\uFEFF'] t).getD t

/-- The pieces of a text between the occurrences of a separator; a text without the separator is
one piece. -/
def splitOn (sep : Char) : Text → List Text
  | [] => [[]]
  | c :: cs => if c = sep then [] :: splitOn sep cs else (splitOn sep cs).modifyHead (c :: ·)

/-- The two sides of the first separator. -/
def splitOnce (sep : Char) (t : Text) : Option (Text × Text) :=
  match t.dropWhile (· != sep) with
  | [] => none
  | _ :: rest => some (t.takeWhile (· != sep), rest)

/-- The two sides of the last separator. -/
def splitLast (sep : Char) (t : Text) : Option (Text × Text) :=
  (splitOnce sep t.reverse).map fun (back, front) => (front.reverse, back.reverse)

/-- Every ending of a text, from the whole of it to nothing. -/
def suffixes : Text → List Text
  | [] => [[]]
  | c :: cs => (c :: cs) :: suffixes cs

/-- The text between separators, the inverse of cutting. -/
def join (sep : Text) : List Text → Text
  | [] => []
  | [t] => t
  | t :: u :: ts => t ++ sep ++ join sep (u :: ts)

/-! ## Lines -/

/-- The line without one carriage return at its end. -/
def dropReturn (line : Text) : Text := (before? ['\r'] line).getD line

/-- Lines from the pieces between newlines: a piece that a newline ends loses a carriage return at
its end, and a last piece without a newline is a line only if it holds something. -/
def linesOfPieces : List Text → List Text
  | [] => []
  | [last] => if last = [] then [] else [last]
  | piece :: next :: rest => dropReturn piece :: linesOfPieces (next :: rest)

/-- The lines of a text. A line ends at a newline, or at a carriage return and a newline; a carriage
return alone ends none. -/
def lines (t : Text) : List Text := linesOfPieces (splitOn '\n' t)

/-! ## Search and replacement -/

/-- A text stands somewhere inside another. -/
def occursIn (pattern : Text) : Text → Bool
  | [] => pattern.isEmpty
  | c :: cs => pattern.isPrefixOf (c :: cs) || occursIn pattern cs

/-- Replacement with `skip` characters of the last occurrence still to be passed over. -/
def replaceFrom (pattern replacement : Text) : Nat → Text → Text
  | _, [] => []
  | skip + 1, _ :: cs => replaceFrom pattern replacement skip cs
  | 0, c :: cs =>
    if pattern.isPrefixOf (c :: cs) then
      replacement ++ replaceFrom pattern replacement (pattern.length - 1) cs
    else c :: replaceFrom pattern replacement 0 cs

/-- Every occurrence of a non-empty pattern replaced. Occurrences are found from left to right and
do not overlap, and a replacement is not searched again. -/
def replaceAll (t pattern replacement : Text) : Text :=
  if pattern = [] then t else replaceFrom pattern replacement 0 t

/-! ## Case -/

/-- The text with its ASCII letters in lower case. -/
def lowerAscii (t : Text) : Text := t.map Char.toLower

/-- Equality up to the case of ASCII letters; other letters count as they are. -/
def eqIgnoreCase (a b : Text) : Bool := lowerAscii a == lowerAscii b

end Text

end SchemaCompiler
