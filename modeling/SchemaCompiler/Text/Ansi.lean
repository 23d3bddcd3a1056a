import SchemaCompiler.Text.Basic

/-!
# Terminal control sequences

Text for a terminal may hold sequences that start with an escape character and select colours or
move the cursor; they take no room on the screen. A sequence is the longest text of the form

* an escape, a parenthesis and one of `0`, `1`, `2`, `A`, `B`; or
* an escape, any number of the characters `[`, `(`, `)`, `#`, `;`, `?`, then numbers of at most
  four digits between semicolons, if any, then one closing character.

Main definitions: `Ansi.sequenceLength` and `Ansi.strip`.
-/

namespace SchemaCompiler.Ansi

/-- How far into a sequence a reader is, by what it has just read. -/
inductive State where
  | escape
  /-- A parenthesis right behind the escape. -/
  | charset
  /-- Any further introducing characters. -/
  | introducer
  /-- The digit behind a charset parenthesis, which ends the sequence. -/
  | charsetDigit
  /-- So many digits of a number. -/
  | digits (n : Nat)
  /-- A semicolon between numbers. -/
  | semicolon
  /-- A closing letter. -/
  | closed
  deriving DecidableEq, Repr

/-- A sequence may start with this character. -/
def isEscape (c : Char) : Bool := c == '\x1b' || c == '\u009b'

/-- A sequence may end with this character, besides digits. -/
def isClosing (c : Char) : Bool :=
  (decide ('A' ≤ c) && decide (c ≤ 'P')) || (decide ('f' ≤ c) && decide (c ≤ 'n')) ||
    ['R', 'Z', 'c', 'q', 'r', 'y', '=', '>', '<'].contains c

/-- What has been read may be a whole sequence. -/
def State.isFinal : State → Bool
  | charsetDigit => true
  | digits _ => true
  | closed => true
  | _ => false

/-- The next character, unless no sequence goes on with it. -/
def State.next? (state : State) (c : Char) : Option State :=
  if c = '(' ∨ c = ')' then
    match state with
    | escape => some .charset
    | charset | introducer => some .introducer
    | _ => none
  else if c = ';' then
    match state with
    | escape | charset | introducer => some .introducer
    | digits n => if n < 5 then some .semicolon else none
    | semicolon => some .semicolon
    | _ => none
  else if c = '[' ∨ c = '#' ∨ c = '?' then
    match state with
    | escape | charset | introducer => some .introducer
    | _ => none
  else if c.isDigit then
    match state with
    | escape | introducer | semicolon => some (.digits 1)
    | charset => if c ≤ '2' then some .charsetDigit else some (.digits 1)
    | digits n => if n < 5 then some (.digits (n + 1)) else none
    | _ => none
  else if isClosing c then
    match state with
    | escape | charset | introducer | semicolon => some .closed
    | digits n => if n < 5 then some .closed else none
    | _ => none
  else none

/-- The length of the longest sequence that goes on from a state, given how much is read and the
longest found so far. -/
def longest (state : State) (read best : Nat) : Text → Nat
  | [] => best
  | c :: cs => match state.next? c with
    | none => best
    | some next => longest next (read + 1) (if next.isFinal then read + 1 else best) cs

/-- The length of the sequence at the start of a text, zero if there is none. -/
def sequenceLength : Text → Nat
  | [] => 0
  | c :: cs => if isEscape c then longest .escape 1 0 cs else 0

/-- The text without its control sequences, `skip` characters of the last one still to go. -/
def stripFrom : Nat → Text → Text
  | _, [] => []
  | skip + 1, _ :: cs => stripFrom skip cs
  | 0, c :: cs =>
    match sequenceLength (c :: cs) with
    | 0 => c :: stripFrom 0 cs
    | n + 1 => stripFrom n cs

/-- The text without its control sequences. -/
def strip (t : Text) : Text := stripFrom 0 t

/-! ## Styles -/

/-- How text is set off from other text. -/
inductive Style where
  | blue
  | blueBold
  | underlined
  | brightRed
  | brightYellow
  | cyan
  | bold
  | greenBold
  | dim
  | yellowDim
  | cyanBoldUnderlined
  deriving DecidableEq, Repr

/-- The codes that select a style, colour before attributes. -/
def Style.codes : Style → List Text
  | blue => ["34"]
  | blueBold => ["34", "1"]
  | underlined => ["4"]
  | brightRed => ["38;5;9"]
  | brightYellow => ["38;5;11"]
  | cyan => ["36"]
  | bold => ["1"]
  | greenBold => ["32", "1"]
  | dim => ["2"]
  | yellowDim => ["33", "2"]
  | cyanBoldUnderlined => ["36", "1", "4"]

/-- The text in a style, or as it is where colours are off. -/
def styled (colors : Bool) (style : Style) (t : Text) : Text :=
  if colors then style.codes.flatMap (fun code => '\x1b' :: '[' :: code ++ ['m']) ++ t ++ "\x1b[0m"
  else t

end SchemaCompiler.Ansi
