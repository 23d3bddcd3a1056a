import SchemaCompiler.Text.Basic
import SchemaCompiler.Text.UnshownTable

/-!
# Notices

What a run reports about its progress, apart from its results: a message of some level with named
values. A line that a reader ignores, for instance, is worth a notice and nothing more. A notice
becomes a line of the log: its level, five columns wide, its message, and its fields as `key=value`.
How many levels a log shows depends on how much was asked for.

Main definitions: `Text.quoted`, `Notice.line` and `Notice.log`.
-/

namespace SchemaCompiler

/-- How much a notice matters. -/
inductive Level where
  | warning
  | info
  | debug
  deriving DecidableEq, Repr

/-- The value of a field, by the way it is shown. -/
inductive FieldValue where
  /-- Shown between quotes, with escapes. -/
  | quoted (t : Text)
  /-- Shown as it is. -/
  | plain (t : Text)
  /-- Shown in decimal digits. -/
  | number (n : Nat)
  /-- Shown as a list of arguments. -/
  | arguments (entries : List (Text × Option Text))
  deriving DecidableEq, Repr

/-- A report with named values. -/
structure Notice where
  level : Level
  message : Text
  fields : List (Text × FieldValue)
  deriving DecidableEq, Repr

/-! ## Quoted text

Text between double quotes, in which nothing can be mistaken: quotes, backslashes and line ends are
written with a backslash, and a character that does not show alone is written by its number.
-/

namespace Text

/-- A character by its number. -/
def numbered (c : Char) : Text := "\\u\x7b" ++ Nat.toDigits 16 c.toNat ++ "\x7d"

/-- A character as it stands between quotes. -/
def escapeChar (c : Char) : Text :=
  if c = '\x00' then "\\0"
  else if c = '\t' then "\\t"
  else if c = '\r' then "\\r"
  else if c = '\n' then "\\n"
  else if c = '\\' ∨ c = '"' then ['\\', c]
  else if inRanges unshownRanges c.toNat then numbered c
  else [c]

/-- The text between quotes. -/
def quoted (t : Text) : Text := '"' :: t.flatMap escapeChar ++ ['"']

end Text

/-! ## Log lines -/

/-- The name of a level. -/
def Level.name : Level → Text
  | warning => "WARN"
  | info => "INFO"
  | debug => "DEBUG"

/-- Whether a log shows a level, by how often more was asked for. -/
def Level.isShown (verbosity : Nat) : Level → Bool
  | warning => true
  | info => decide (1 ≤ verbosity)
  | debug => decide (2 ≤ verbosity)

/-- An argument in a list of arguments. -/
def FieldValue.argument : Text × Option Text → Text
  | (key, none) => Text.quoted key ++ ": None"
  | (key, some value) => Text.quoted key ++ ": Some(" ++ Text.quoted value ++ ")"

/-- The value of a field in words. -/
def FieldValue.text : FieldValue → Text
  | quoted t => t.quoted
  | plain t => t
  | number n => Text.ofNat n
  | arguments entries => "\x7b" ++ Text.join ", " (entries.map argument) ++ "\x7d"

namespace Notice

/-- The notice as a line of the log. -/
def line (notice : Notice) : Text :=
  List.leftpad 5 ' ' notice.level.name ++ [' '] ++ notice.message ++
    notice.fields.flatMap fun (key, value) => ([' '] ++ key ++ ['='] ++ value.text : Text)

/-- The lines that a log shows of some notices. -/
def log (verbosity : Nat) (notices : List Notice) : List Text :=
  (notices.filter fun notice => notice.level.isShown verbosity).map line

end Notice

end SchemaCompiler
