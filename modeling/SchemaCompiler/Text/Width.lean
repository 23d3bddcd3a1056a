import SchemaCompiler.Text.Ansi
import SchemaCompiler.Text.WidthTable
import SchemaCompiler.Text.PictographTable

/-!
# Display width

How many columns of a terminal a text takes: the sum over its characters, except that characters
which join into one sign count once. Control sequences take no room.

A character joins what stands behind it, so a text is measured from its end: `Behind` says what
stands behind a character as far as it matters, and `step` sets one more character in front of it.

Main definitions: `Width.ofChar`, `Width.step` and `Width.ofText`.
-/

namespace SchemaCompiler.Width

/-- The columns of a character by itself. Control characters count one. -/
def ofChar (c : Char) : Nat :=
  let n := c.toNat
  if n ≤ 0xA0 then 1
  else if n = 0x17D8 then 3
  else if inRanges zeroRanges n then 0
  else if inRanges wideRanges n then 2
  else 1

/-! ## Classes of characters -/

/-- The character lies between two code points. -/
def isBetween (lo hi : Nat) (c : Char) : Bool := decide (lo ≤ c.toNat) && decide (c.toNat ≤ hi)

/-- The joiner that ties signs together. -/
def joiner : Char := '\u200D'

/-- A sign shown in its coloured form. -/
def isPictograph (c : Char) : Bool := inRanges pictographRanges c.toNat

/-- A skin tone. -/
def isTone (c : Char) : Bool := isBetween 0x1F3FB 0x1F3FF c

/-- One of the letters that make up a flag, two by two. -/
def isFlagLetter (c : Char) : Bool := isBetween 0x1F1E6 0x1F1FF c

/-- A letter of a tag, such as those behind a black flag that name a region. -/
def isTagLetter (c : Char) : Bool := isBetween 0xE0061 0xE007A c

/-- A digit of a tag. -/
def isTagDigit (c : Char) : Bool := isBetween 0xE0030 0xE0039 c

/-- The character that ends a tag. -/
def isTagEnd (c : Char) : Bool := c.toNat == 0xE007F

/-- The flag that a tag makes into the flag of a region. -/
def isBlackFlag (c : Char) : Bool := c.toNat == 0x1F3F4

/-- A pictograph with a plain form of one column. Ideographs in squares stay wide. -/
def hasNarrowForm (c : Char) : Bool :=
  inRanges selectableRanges c.toNat && isPictograph c && !isBetween 0x1F200 0x1F2FF c

/-- A quotation mark, which has a full-width form. -/
def isQuotationMark (c : Char) : Bool := ['\u2018', '\u2019', '\u201C', '\u201D'].contains c

/-- A mark without a column that does not hinder the letters around it from joining. -/
def isThin (c : Char) : Bool :=
  inRanges zeroRanges c.toNat && !inRanges partingRanges c.toNat

/-- A mark that is ignored where it does not change the character before it. -/
def isIgnoredMark (c : Char) : Bool :=
  inRanges #[(0x034F, 0x034F), (0x17B4, 0x17B5), (0x180B, 0x180D), (0x180F, 0x180F),
    (0xFE00, 0xFE0F), (0xE0100, 0xE01EF)] c.toNat

/-- Arabic alef with its variants. -/
def isAlef (c : Char) : Bool :=
  inRanges #[(0x0622, 0x0623), (0x0625, 0x0625), (0x0627, 0x0627), (0x0671, 0x0673),
    (0x0675, 0x0675), (0x0773, 0x0774), (0x0870, 0x0882)] c.toNat

/-- Arabic lam with its variants, which an alef behind it joins. -/
def isLam (c : Char) : Bool :=
  inRanges #[(0x0644, 0x0644), (0x06B5, 0x06B8), (0x076A, 0x076A), (0x08A6, 0x08A6),
    (0x08C7, 0x08C7)] c.toNat

/-- A consonant of Tifinagh, two of which may be written as one. -/
def isTifinagh (c : Char) : Bool := isBetween 0x2D31 0x2D65 c || c == '\u2D6F'

/-- A letter of Khmer that may be written below the one before it. -/
def isKhmerSubscript (c : Char) : Bool :=
  inRanges #[(0x1780, 0x1782), (0x1784, 0x1787), (0x1789, 0x178C), (0x178E, 0x1793),
    (0x1795, 0x1798), (0x179B, 0x179D), (0x17A0, 0x17A0), (0x17A2, 0x17A2), (0x17A7, 0x17A7),
    (0x17AB, 0x17AC), (0x17AF, 0x17AF)] c.toNat

/-! ## What stands behind a character -/

/-- A letter that another before it may join. -/
inductive Letter where
  | hebrewLamed
  | khmerSubscript
  | bugineseYa
  /-- Buginese ya with the vowel i joined to it. -/
  | bugineseIya
  | tifinagh
  /-- A consonant of Tifinagh with the joiner of that script before it. -/
  | tifinaghJoined
  | lisuTone
  | orkhonI
  deriving DecidableEq, Repr

/-- What stands behind a character, as far as it can change how much room the character takes. -/
inductive Kind where
  | plain
  | lineFeed
  | alef
  /-- A letter, and whether a joiner stands before it. -/
  | letter (l : Letter) (joined : Bool)
  | vowelE
  | vowelAi
  | tone
  | flagLetter
  /-- Two flag letters or more. -/
  | flagLetters
  | pictograph
  /-- A joiner before a sign. -/
  | joint
  /-- A keycap before a joint. -/
  | keycap
  /-- So many flag letters before a joint. -/
  | jointFlag (letters : Nat)
  /-- The last letters of a tag before a joint, so many of them. -/
  | tagLetters (n : Nat)
  /-- The digits of a tag that are read so far, behind which only letters stood. -/
  | tagDigits (n : Nat)
  deriving DecidableEq, Repr

/-- A character that chooses among the forms of the character before it. -/
inductive Selector where
  /-- The coloured form, of two columns. -/
  | coloured
  /-- The form of plain text, of one column. -/
  | narrow
  /-- The full-width form of a quotation mark. -/
  | fullWidth
  deriving DecidableEq, Repr

/-- What stands behind a character, with the selectors between the two. -/
structure Behind where
  kind : Kind
  selectors : List Selector
  deriving DecidableEq, Repr

/-- The selector that a character is. -/
def Selector.ofChar? (c : Char) : Option Selector :=
  if c = '\uFE0F' then some .coloured
  else if c = '\uFE0E' then some .narrow
  else if c = '\uFE01' then some .fullWidth
  else none

/-- The letter that a character is to those before it. -/
def Letter.ofChar? (c : Char) : Option Letter :=
  if c = '\u05DC' then some .hebrewLamed
  else if isKhmerSubscript c then some .khmerSubscript
  else if c = '\u1A10' then some .bugineseYa
  else if isTifinagh c then some .tifinagh
  else if c = '\uA4FC' ∨ c = '\uA4FD' then some .lisuTone
  else if c.toNat = 0x10C03 then some .orkhonI
  else none

/-- A letter waits for the one that joins it whatever selector stands before it. -/
def Kind.isLetter : Kind → Bool
  | alef | letter .. => true
  | _ => false

/-- A selector in front. Letters wait behind it and behind those already there, and a joint waits
behind the coloured one. -/
def Behind.select (b : Behind) (s : Selector) : Behind :=
  if b.kind.isLetter then ⟨b.kind, b.selectors.insert s⟩
  else if s = .coloured ∧ (b.kind = .joint ∨ b.kind = .keycap) then ⟨b.kind, [s]⟩
  else ⟨.plain, [s]⟩

/-- What is left where the coloured selector finds no character to change. -/
def Behind.uncoloured (b : Behind) : Behind :=
  ⟨if b.kind.isLetter then b.kind else .plain, b.selectors.filter (· ≠ .coloured)⟩

/-! ## Joining -/

/-- The columns that a letter adds when it joins the one behind it, and what then stands there. -/
def Letter.join? (l : Letter) (joined : Bool) (c : Char) : Option (Int × Kind) :=
  match l with
  | hebrewLamed => if joined && c == '\u05D0' then some (0, .plain) else none
  | khmerSubscript => if c == '\u17D2' then some (-1, .plain) else none
  | bugineseYa => if joined && c == '\u1A17' then some (0, .letter .bugineseIya true) else none
  | bugineseIya => if c == '\u1A15' then some (0, .plain) else none
  | tifinagh =>
    if c == '\u2D7F' then some (1, .letter .tifinaghJoined true)
    else if joined && isTifinagh c then some (0, .plain)
    else none
  | tifinaghJoined => if isTifinagh c then some (-1, .plain) else none
  | lisuTone => if isBetween 0xA4F8 0xA4FB c then some (0, .plain) else none
  | orkhonI => if joined && c.toNat == 0x10C32 then some (0, .plain) else none

/-- The columns that a character adds when it joins what stands behind it, and what then stands
there; nothing if it does not join. -/
def Kind.join? (k : Kind) (c : Char) : Option (Int × Kind) :=
  match k with
  | plain | keycap => none
  | lineFeed => if c = '\r' then some (0, .plain) else none
  | alef =>
    if isLam c then some (0, .plain) else if isThin c then some (0, .alef) else none
  | letter l joined =>
    if c = joiner then some (0, .letter l true)
    else if isIgnoredMark c then some (0, .letter l joined)
    else l.join? joined c
  | vowelE =>
    if c.toNat = 0x16D63 ∨ c.toNat = 0x16D69 then some (0, .plain)
    else if c.toNat = 0x16D67 then some (0, .vowelAi)
    else if c.toNat = 0x16D68 then some (1, .vowelE)
    else none
  | vowelAi => if c.toNat = 0x16D63 then some (0, .plain) else none
  | tone =>
    if inRanges tonedRanges c.toNat then some (0, .pictograph)
    else if c = joiner then some (0, .joint)
    else none
  | flagLetter => if isFlagLetter c then some (1, .flagLetters) else none
  | flagLetters =>
    if isFlagLetter c then some (1, .flagLetters)
    else if c = joiner then some (0, .joint)
    else none
  | pictograph => if c = joiner then some (0, .joint) else none
  | joint =>
    if c = '\u20E3' then some (0, .keycap)
    else if isFlagLetter c then some (1, .jointFlag 1)
    else if isTone c then some (0, .tone)
    else if isTagEnd c then some (0, .tagLetters 0)
    else if isPictograph c then some (0, .pictograph)
    else none
  | jointFlag n =>
    if isFlagLetter c then some (if n % 2 = 1 then -1 else 3, .jointFlag (n + 1))
    else if c = joiner ∧ 2 ≤ n then some (0, .joint)
    else none
  | tagLetters n =>
    if isTagLetter c ∧ n < 6 then some (0, .tagLetters (n + 1))
    else if isTagDigit c ∧ n < 5 then some (0, .tagDigits 1)
    else if isBlackFlag c ∧ 3 ≤ n then some (0, .pictograph)
    else none
  | tagDigits n =>
    if isTagDigit c ∧ n < 3 then some (0, .tagDigits (n + 1))
    else if isBlackFlag c ∧ n = 3 then some (0, .pictograph)
    else none

/-- What a character by itself is to those before it. -/
def Kind.ofChar (c : Char) : Kind :=
  if c = '\n' then .lineFeed
  else if isAlef c then .alef
  else if c.toNat = 0x16D67 then .vowelE
  else if c.toNat = 0x16D68 then .vowelAi
  else if isFlagLetter c then .flagLetter
  else if isTone c then .tone
  else if isPictograph c then .pictograph
  else match Letter.ofChar? c with
    | some l => .letter l false
    | none => .plain

/-- The columns that a character that is no selector adds in front of others, and what then stands
there. -/
def Kind.step (k : Kind) (c : Char) : Int × Behind :=
  match k.join? c with
  | some (columns, kind) => (columns, ⟨kind, []⟩)
  | none => (Width.ofChar c, ⟨.ofChar c, []⟩)

/-- The columns that a character adds in front of what stands behind it, where the coloured selector
is not among it, and what then stands there. -/
def Behind.step (b : Behind) (c : Char) : Int × Behind :=
  match Selector.ofChar? c with
  | some s => (0, b.select s)
  | none =>
    if b.selectors.contains .narrow && hasNarrowForm c then (1, ⟨.plain, []⟩)
    else if b.selectors.contains .fullWidth && isQuotationMark c then (2, ⟨.plain, []⟩)
    else b.kind.step c

/-- The columns that a character adds in front of what stands behind it, and what then stands
there. -/
def step (b : Behind) (c : Char) : Int × Behind :=
  if !b.selectors.contains .coloured then b.step c
  else if inRanges selectableRanges c.toNat then
    (if b.kind = .joint ∨ b.kind = .keycap then 0 else 2, ⟨.pictograph, []⟩)
  else b.uncoloured.step c

/-- The columns of a text and what it is to characters before it, built up from the end. -/
def scan (t : Text) : Int × Behind :=
  t.foldr (fun c r => let s := step r.2 c; (r.1 + s.1, s.2)) (0, ⟨.plain, []⟩)

/-- The columns of a text, control sequences left out. -/
def ofText (t : Text) : Nat := (scan (Ansi.strip t)).1.toNat

end SchemaCompiler.Width
