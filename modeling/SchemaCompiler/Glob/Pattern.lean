import SchemaCompiler.Text.Basic

/-!
# Name patterns

A pattern over names: `*` stands for any text, `?` for any character, `[…]` for a character of a
set and `[!…]` for a character outside it. `**`, as a whole component of a path, stands for any
number of directories.

Main definitions:

* `Pattern.parse`: the elements of a pattern, or where it is malformed;
* `Pattern.matchesName`: a name is an instance of a pattern;
* `Pattern.escape`: a pattern whose only instance is a given text.

Main statements: `Pattern.matchesName_nil`, `Pattern.matchesName_cons_of_isAny`,
`Pattern.matchesName_cons_cons` and `Pattern.matchesName_cons_nil` say element by element which names
are instances.
-/

namespace SchemaCompiler

/-- A member of a character set. -/
inductive CharRange where
  | single (c : Char)
  | between (low high : Char)
  deriving DecidableEq, Repr

/-- The character belongs to the member. -/
def CharRange.contains : CharRange → Char → Bool
  | single d, c => c == d
  | between low high, c => decide (low ≤ c) && decide (c ≤ high)

/-- An element of a pattern. -/
inductive PatternElement where
  | literal (c : Char)
  | anyChar
  | anyText
  | anyDirectories
  | within (set : List CharRange)
  | except (set : List CharRange)
  deriving DecidableEq, Repr

/-- The element stands for any number of characters. -/
def PatternElement.isAny : PatternElement → Bool
  | anyText | anyDirectories => true
  | _ => false

/-- The element stands for this character, among others perhaps. -/
def PatternElement.takes : PatternElement → Char → Bool
  | literal c, d => c == d
  | within set, d => set.any (·.contains d)
  | except set, d => !set.any (·.contains d)
  | _, _ => true

/-- What is wrong with a pattern. -/
inductive PatternReason where
  /-- Three or more stars in a row. -/
  | tooManyStars
  /-- Two stars that are not a whole component. -/
  | partialDirectories
  /-- A character set without an end. -/
  | openSet
  deriving DecidableEq, Repr

/-- The wording of a reason. -/
def PatternReason.message : PatternReason → Text
  | tooManyStars => "wildcards are either regular `*` or recursive `**`"
  | partialDirectories => "recursive wildcards must form a single path component"
  | openSet => "invalid range pattern"

/-- Where a pattern is malformed, in characters from its start. -/
structure PatternFault where
  position : Nat
  reason : PatternReason
  deriving DecidableEq, Repr

/-- The wording of a fault. -/
def PatternFault.message (fault : PatternFault) : Text :=
  "Pattern syntax error near position " ++ Text.ofNat fault.position ++ ": " ++ fault.reason.message

/-- The elements of a pattern, in order. -/
abbrev Pattern := List PatternElement

namespace Pattern

/-- The members of a character set: a character, a hyphen and a character form a range. -/
def ranges : Text → List CharRange
  | low :: '-' :: high :: rest => .between low high :: ranges rest
  | c :: rest => .single c :: ranges rest
  | [] => []

/-- The set that an opening bracket starts, and what follows its closing bracket. The first
character inside is a member even if it is a closing bracket. -/
def set? (t : Text) : Option (PatternElement × Text) :=
  match t with
  | '!' :: first :: rest =>
    (Text.splitOnce ']' rest).map fun (inner, after) => (.except (ranges (first :: inner)), after)
  | '!' :: [] => none
  | first :: rest =>
    (Text.splitOnce ']' rest).map fun (inner, after) => (.within (ranges (first :: inner)), after)
  | [] => none

/-- Reads elements with at most `fuel` steps. `position` is the place of `t` in the pattern, and
`afterSlash` tells whether a component starts there. -/
def parseFrom : Nat → Nat → Bool → Text → Except PatternFault Pattern
  | 0, _, _, _ => .ok []
  | fuel + 1, position, afterSlash, t =>
    match t with
    | [] => .ok []
    | '?' :: rest => (parseFrom fuel (position + 1) false rest).map (.anyChar :: ·)
    | '[' :: rest =>
      match set? rest with
      | none => .error ⟨position, .openSet⟩
      | some (element, after) =>
        (parseFrom fuel (position + (t.length - after.length)) false after).map (element :: ·)
    | '*' :: _ =>
      let stars := (t.takeWhile (· == '*')).length
      let rest := t.dropWhile (· == '*')
      if stars > 2 then .error ⟨position + 2, .tooManyStars⟩
      else if stars = 1 then (parseFrom fuel (position + 1) false rest).map (.anyText :: ·)
      else if !afterSlash then .error ⟨position - 1, .partialDirectories⟩
      else match rest with
        | [] => .ok [.anyDirectories]
        | '/' :: rest =>
          (parseFrom fuel (position + 3) true rest).map (.anyDirectories :: ·)
        | _ => .error ⟨position + 2, .partialDirectories⟩
    | c :: rest => (parseFrom fuel (position + 1) (c == '/') rest).map (.literal c :: ·)

/-- The elements of a pattern. Each step uses up a character, so its length bounds the steps. -/
def parse (t : Text) : Except PatternFault Pattern := parseFrom (t.length + 1) 0 true t

/-! ## Matching

Whether a pattern matches a name is found for all suffixes of the name at once, from the last
element of the pattern to the first, so that no element is tried twice at one place. -/

/-- At each place: some answer there or further on is yes. -/
def fromHereOn : List Bool → List Bool
  | [] => []
  | here :: rest =>
    let later := fromHereOn rest
    (here || later.headD false) :: later

/-- At each place in a name: the element takes the character there and the answer at the next place
is yes. -/
def oneBefore (element : PatternElement) : Text → List Bool → List Bool
  | c :: cs, _ :: rest => (element.takes c && rest.headD false) :: oneBefore element cs rest
  | _, _ => [false]

/-- For each suffix of a name, the longest first: the pattern matches it. -/
def matchesSuffixes : Pattern → Text → List Bool
  | [], name => (Text.suffixes name).map List.isEmpty
  | element :: rest, name =>
    if element.isAny then fromHereOn (matchesSuffixes rest name)
    else oneBefore element name (matchesSuffixes rest name)

/-- The name is an instance of the pattern. -/
def matchesName (pattern : Pattern) (name : Text) : Bool :=
  (matchesSuffixes pattern name).headD false

/-- The answers over the suffixes of a name start with the one for the name. -/
theorem headD_map_suffixes (f : Text → Bool) (name : Text) :
    ((Text.suffixes name).map f).headD false = f name := by
  cases name <;> rfl

/-- An answer somewhere further on is one for a suffix of the suffix. -/
theorem fromHereOn_map_suffixes (f : Text → Bool) (name : Text) :
    fromHereOn ((Text.suffixes name).map f) =
      (Text.suffixes name).map fun suffix => (Text.suffixes suffix).any f := by
  induction name with
  | nil => simp [Text.suffixes, fromHereOn]
  | cons c cs ih =>
      simp only [Text.suffixes, List.map_cons, fromHereOn, ih, headD_map_suffixes, List.any_cons]

/-- The answer at the next place is the one for the suffix without its first character. -/
theorem oneBefore_map_suffixes (element : PatternElement) (f : Text → Bool) (name : Text) :
    oneBefore element name ((Text.suffixes name).map f) =
      (Text.suffixes name).map fun suffix => match suffix with
        | [] => false
        | c :: cs => element.takes c && f cs := by
  induction name with
  | nil => rfl
  | cons c cs ih =>
      simp only [Text.suffixes, List.map_cons, oneBefore, ih, headD_map_suffixes]

/-- Only the empty name is an instance of the empty pattern. -/
theorem matchesName_nil (name : Text) : matchesName [] name = name.isEmpty :=
  headD_map_suffixes _ name

/-- The answers over the suffixes are those that each suffix has by itself. -/
theorem matchesSuffixes_eq (pattern : Pattern) (name : Text) :
    matchesSuffixes pattern name = (Text.suffixes name).map (matchesName pattern) := by
  induction pattern generalizing name with
  | nil => exact List.map_congr_left fun suffix _ => (matchesName_nil suffix).symm
  | cons element rest ih =>
      rw [matchesSuffixes]
      split
      next h =>
        rw [ih, fromHereOn_map_suffixes]
        refine List.map_congr_left fun suffix _ => ?_
        rw [matchesName, matchesSuffixes, if_pos h, ih, fromHereOn_map_suffixes,
          headD_map_suffixes]
      next h =>
        rw [ih, oneBefore_map_suffixes]
        refine List.map_congr_left fun suffix _ => ?_
        rw [matchesName, matchesSuffixes, if_neg h, ih, oneBefore_map_suffixes,
          headD_map_suffixes]

/-- A star takes any beginning of the name. -/
theorem matchesName_cons_of_isAny {element : PatternElement} (h : element.isAny = true)
    (rest : Pattern) (name : Text) :
    matchesName (element :: rest) name = (Text.suffixes name).any (matchesName rest) := by
  rw [matchesName, matchesSuffixes, if_pos h, matchesSuffixes_eq, fromHereOn_map_suffixes,
    headD_map_suffixes]

/-- Any other element takes one character. -/
theorem matchesName_cons_cons {element : PatternElement} (h : element.isAny = false)
    (rest : Pattern) (c : Char) (cs : Text) :
    matchesName (element :: rest) (c :: cs) = (element.takes c && matchesName rest cs) := by
  rw [matchesName, matchesSuffixes, if_neg (by simp [h]), matchesSuffixes_eq,
    oneBefore_map_suffixes, headD_map_suffixes]

/-- Only stars match an empty name. -/
theorem matchesName_cons_nil {element : PatternElement} (h : element.isAny = false)
    (rest : Pattern) : matchesName (element :: rest) [] = false := by
  rw [matchesName, matchesSuffixes, if_neg (by simp [h]), matchesSuffixes_eq,
    oneBefore_map_suffixes, headD_map_suffixes]

/-! ## Literal text -/

/-- The text that the pattern spells, if it holds literal characters only. -/
def literalText? (pattern : Pattern) : Option Text :=
  pattern.mapM fun element => match element with
    | .literal c => some c
    | _ => none

/-- A pattern whose only instance is the text: each character with a meaning becomes a set. -/
def escape (t : Text) : Text :=
  t.flatMap fun c => if ['?', '*', '[', ']'].contains c then ['[', c, ']'] else [c]

end Pattern

end SchemaCompiler
