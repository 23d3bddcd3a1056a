import SchemaCompiler.Error.Basic

/-!
# Templates

A template is text with placeholders `$name` and `${name}`; `$$` stands for a dollar sign. A name
starts with a letter or an underscore and goes on with letters, digits and underscores, as far as it
can. Values are inserted as they are.

Main definitions: `Template.Segment`, `Template.segments` and `Template.render`.
-/

namespace SchemaCompiler.Template

/-- A piece of a template. -/
inductive Segment where
  | literal (c : Char)
  | placeholder (name : Text)
  /-- A dollar sign that starts nothing, with the number of its line. -/
  | malformed (line : Nat)
  deriving DecidableEq, Repr

/-- A name may start with this character. -/
def startsName (c : Char) : Bool := c.isAlpha || c == '_'

/-- A name may go on with this character. -/
def continuesName (c : Char) : Bool := c.isAlphanum || c == '_'

/-- The name at the start of a text, unless there is none. -/
def name? : Text → Option Text
  | [] => none
  | c :: cs => if startsName c then some (c :: cs.takeWhile continuesName) else none

/-- The piece that a dollar sign on a line starts, given what follows it, and how many of the
characters that follow belong to it. -/
def afterDollar (line : Nat) (t : Text) : Segment × Nat :=
  match t with
  | '$' :: _ => (.literal '$', 1)
  | '\x7b' :: inner =>
    match name? inner with
    | some name =>
      if inner[name.length]? = some '\x7d' then (.placeholder name, name.length + 2)
      else (.malformed line, 0)
    | none => (.malformed line, 0)
  | _ => match name? t with
    | some name => (.placeholder name, name.length)
    | none => (.malformed line, 0)

/-- The pieces of a text that starts on a line, `skip` characters of the last piece still to go. -/
def segmentsFrom (line : Nat) : Nat → Text → List Segment
  | _, [] => []
  | skip + 1, _ :: cs => segmentsFrom line skip cs
  | 0, c :: cs =>
    if c = '$' then
      (afterDollar line cs).1 :: segmentsFrom line (afterDollar line cs).2 cs
    else .literal c :: segmentsFrom (if c = '\n' then line + 1 else line) 0 cs

/-- The pieces of a template. -/
def segments (t : Text) : List Segment := segmentsFrom 1 0 t

/-- The text of a piece, given the values of placeholders. -/
def Segment.render (values : Text → Option Text) : Segment → Except Error Text
  | literal c => .ok [c]
  | placeholder name => match values name with
    | some value => .ok value
    | none => .error (.configuration (.unknownPlaceholder name))
  | malformed line => .error (.configuration (.badPlaceholder line))

/-- A template with every placeholder replaced by its value. -/
def render (values : Text → Option Text) (t : Text) : Except Error Text :=
  ((segments t).mapM (Segment.render values)).map List.flatten

end SchemaCompiler.Template
