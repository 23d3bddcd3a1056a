import SchemaCompiler.Proofs.OnePass

namespace SchemaCompiler

/-! # Definition files piece by piece

Behind its first effective line, a definition file is a row of pieces: raw lines and, in functions,
closed blocks, each of which adds its lines to the body. The readers of all three kinds do the same
with them. Main statements:

* `Piece.readLines_eq`: what the reader of functions makes of prepared lines is what the pieces say
  one by one;
* `Object.parse_eq_pieces`: reading a file is checking its first line, reading its pieces and putting
  the entries together.
-/

/-! ## Entries of any kind -/

/-- What a line of a definition of some kind says. -/
def Entry : ObjectKind → Type
  | .table => TableEntry
  | .sequence => SequenceEntry
  | .function => FunctionEntry

namespace Entry

/-- Reads a line of a definition outside blocks. -/
def parse (mapping : Mapping) : (kind : ObjectKind) → Text → Except Error (Entry kind)
  | .table => TableEntry.parse mapping
  | .sequence => SequenceEntry.parse mapping
  | .function => FunctionEntry.parse mapping

/-- What a line inside a block says; only functions have blocks. -/
def body : (kind : ObjectKind) → Text → Entry kind
  | .table => fun _ => TableEntry.ignored
  | .sequence => fun _ => SequenceEntry.ignored
  | .function => FunctionEntry.body

/-- Puts an object together from its entries. -/
def assemble : (kind : ObjectKind) → List (Entry kind) → Except Error Object
  | .table, entries => (Table.ofEntries entries).map .table
  | .sequence, entries => (Sequence.ofEntries entries).map .sequence
  | .function, entries => (Function.ofEntries entries).map .function

end Entry

/-! ## Pieces -/

/-- A piece of a definition file: a raw line, or a block with the lines between its marker lines. -/
inductive Piece where
  | line (line : Text)
  | block (body : List Text)
  deriving DecidableEq, Repr

namespace Piece

/-- Cuts lines into pieces. Inside a block the lines that it has so far are given; a block that is
never closed makes no piece. -/
def cut : Option (List Text) → List Text → List Piece
  | _, [] => []
  | none, l :: rest => if l.trim = bodyOpening then cut (some []) rest else line l :: cut none rest
  | some body, l :: rest =>
    if l.trim = bodyClosing then block body :: cut none rest else cut (some (body ++ [l])) rest

/-- Every block is closed; `inside` tells whether one is open. -/
def closed : Bool → List Text → Bool
  | inside, [] => !inside
  | true, l :: rest => closed (decide (l.trim ≠ bodyClosing)) rest
  | false, l :: rest => closed (decide (l.trim = bodyOpening)) rest

/-- The pieces of a file of some kind. -/
def ofLines : ObjectKind → List Text → List Piece
  | .function, lines => cut none lines
  | _, lines => lines.map line

/-- The file leaves no block open. -/
def allClosed : ObjectKind → List Text → Bool
  | .function, lines => closed false lines
  | _, _ => true

/-- The entries that a piece gives. A skipped line gives none. -/
def read (mapping : Mapping) (kind : ObjectKind) : Piece → Except Error (List (Entry kind))
  | line l =>
    if OnePass.isSkipped l then .ok []
    else (during (.readingLine l.trim) (Entry.parse mapping kind l.trim)).map fun e => [e]
  | block body => .ok (body.map (Entry.body kind))

/-- The entries of all pieces, in order; no block may have been left open. -/
def readAll (mapping : Mapping) (kind : ObjectKind) (closed : Bool) (pieces : List Piece) :
    Except Error (List (Entry kind)) := do
  let entries ← pieces.mapM (read mapping kind)
  if closed then .ok entries.flatten else .error (.definition .openBody)

end Piece

namespace Source

/-- The raw lines behind the first effective one. -/
def behindFirst (contents : Text) : List Text :=
  (contents.dropMark.lines.dropWhile OnePass.isSkipped).tail

section

variable {l : Text} {rest : List Text}

theorem effectiveLines_skipped (h : OnePass.isSkipped l = true) :
    effectiveLines (l :: rest) = effectiveLines rest :=
  List.filter_cons_of_neg (by simp [isEffective_trim, h])

theorem effectiveLines_line (h : OnePass.isSkipped l = false) :
    effectiveLines (l :: rest) = l.trim :: effectiveLines rest :=
  List.filter_cons_of_pos (by simp [isEffective_trim, h])

end

end Source

namespace Piece

open OnePass (isSkipped)

variable (mapping : Mapping)

section

variable {kind : ObjectKind} {l : Text}

theorem read_skipped (h : isSkipped l = true) : read mapping kind (line l) = .ok [] := by
  rw [read, if_pos h]

theorem read_line (h : isSkipped l = false) :
    read mapping kind (line l) =
      (during (.readingLine l.trim) (Entry.parse mapping kind l.trim)).map fun e => [e] := by
  rw [read, if_neg (by simp [h])]

end

/-- The entries of the first piece come first. -/
theorem readAll_cons (kind : ObjectKind) (closed : Bool) (piece : Piece) (rest : List Piece) :
    readAll mapping kind closed (piece :: rest) =
      read mapping kind piece >>= fun es => (readAll mapping kind closed rest).map (es ++ ·) := by
  rw [readAll, readAll, List.mapM_cons]
  cases read mapping kind piece with
  | error e => rfl
  | ok es => cases rest.mapM (read mapping kind) <;> cases closed <;> rfl

theorem readAll_skipped {kind : ObjectKind} {l : Text} (h : isSkipped l = true) (closed : Bool)
    (rest : List Piece) :
    readAll mapping kind closed (line l :: rest) = readAll mapping kind closed rest := by
  rw [readAll_cons, read_skipped mapping h, ok_bind]
  cases readAll mapping kind closed rest <;> rfl

theorem readAll_line {kind : ObjectKind} {l : Text} (h : isSkipped l = false) (closed : Bool)
    (rest : List Piece) :
    readAll mapping kind closed (line l :: rest) =
      during (.readingLine l.trim) (Entry.parse mapping kind l.trim) >>= fun e =>
        (readAll mapping kind closed rest).map (e :: ·) := by
  rw [readAll_cons, read_line mapping h, map_bind]
  rfl

/-! ## Lines that are read one by one -/

/-- Reading the effective lines of a file is reading all its lines as pieces. -/
theorem mapM_effectiveLines (kind : ObjectKind) (lines : List Text) :
    ((Source.effectiveLines lines).mapM fun l =>
        during (.readingLine l) (Entry.parse mapping kind l)) =
      readAll mapping kind true (lines.map line) := by
  induction lines with
  | nil => rfl
  | cons l rest ih =>
      rw [List.map_cons]
      cases hskipped : isSkipped l with
      | true =>
          rw [Source.effectiveLines_skipped hskipped, ih, readAll_skipped mapping hskipped]
      | false =>
          rw [Source.effectiveLines_line hskipped, List.mapM_cons, ih, readAll_line mapping hskipped]
          rfl

/-! ## Lines that may stand in blocks -/

/-- The second pass over a function, from prepared lines, gives what the pieces of the raw lines say
one by one. Inside a block, the lines that it has so far come first. -/
theorem readLines_eq (lines : List Text) :
    FunctionEntry.readLines mapping false (Source.blockLines bodyBlock false lines) =
        readAll mapping .function (closed false lines) (cut none lines) ∧
      ∀ before : List Text,
        (FunctionEntry.readLines mapping true (Source.blockLines bodyBlock true lines)).map
            (before.map FunctionEntry.body ++ ·) =
          readAll mapping .function (closed true lines) (cut (some before) lines) := by
  induction lines with
  | nil => exact ⟨rfl, fun _ => rfl⟩
  | cons l rest ih =>
      obtain ⟨houtside, hinside⟩ := ih
      constructor
      · by_cases hopening : l.trim = bodyOpening
        · -- a block begins, with no line so far
          have hread : ∀ ls, FunctionEntry.readLines mapping false (bodyOpening :: ls) =
              FunctionEntry.readLines mapping true ls := fun _ => rfl
          have hclosed : closed false (l :: rest) = closed true rest :=
            congrArg (closed · rest) (decide_eq_true hopening)
          rw [Source.blockLines_opening rest hopening, hread, cut, if_pos hopening, hclosed,
            ← hinside []]
          cases FunctionEntry.readLines mapping true (Source.blockLines bodyBlock true rest) <;> rfl
        · have hclosed : closed false (l :: rest) = closed false rest :=
            congrArg (closed · rest) (decide_eq_false hopening)
          rw [cut, if_neg hopening, hclosed]
          cases hskipped : isSkipped l with
          | true =>
              -- the preparation drops the line, and its piece gives nothing
              rw [Source.blockLines_skipped rest hskipped, readAll_skipped mapping hskipped, houtside]
          | false =>
              rw [Source.blockLines_line rest hopening hskipped, readAll_line mapping hskipped,
                FunctionEntry.readLines, if_neg hopening, houtside]
              rfl
      · intro before
        by_cases hclosing : l.trim = bodyClosing
        · -- the block is complete
          have hread : ∀ ls, FunctionEntry.readLines mapping true (bodyClosing :: ls) =
              FunctionEntry.readLines mapping false ls := fun _ => rfl
          have hclosed : closed true (l :: rest) = closed false rest :=
            congrArg (closed · rest) (decide_eq_false (not_not.2 hclosing))
          rw [Source.blockLines_closing rest hclosing, hread, houtside, cut, if_pos hclosing, hclosed,
            readAll_cons]
          rfl
        · -- the line joins those that the block has so far
          have hblock : Source.blockLines bodyBlock true (l :: rest) =
              l :: Source.blockLines bodyBlock true rest := if_neg hclosing
          have hclosed : closed true (l :: rest) = closed true rest :=
            congrArg (closed · rest) (decide_eq_true hclosing)
          rw [hblock, FunctionEntry.readLines, if_neg hclosing, cut, if_neg hclosing, hclosed,
            ← hinside (before ++ [l])]
          cases FunctionEntry.readLines mapping true (Source.blockLines bodyBlock true rest) with
          | error e => rfl
          | ok entries =>
              simp only [Except.map, List.map_append, List.map_singleton, List.append_assoc,
                List.singleton_append]

end Piece

/-! ## Files -/

namespace Source

open OnePass (isSkipped)

/-- The first effective line is the first one that is not skipped. -/
theorem firstLine?_eq (contents : Text) :
    firstLine? contents = (contents.dropMark.lines.dropWhile isSkipped).head?.map Text.trim := by
  rw [firstLine?]
  induction contents.dropMark.lines with
  | nil => rfl
  | cons l rest ih =>
      rw [List.map_cons, List.find?_cons, isEffective_trim]
      cases hskipped : isSkipped l with
      | true =>
          rw [List.dropWhile_cons_of_pos hskipped]
          exact ih
      | false =>
          rw [List.dropWhile_cons_of_neg (by simp [hskipped])]
          rfl

/-- Preparing lines starts with the first one that is not skipped. -/
theorem effectiveLines_eq (lines : List Text) :
    effectiveLines lines = match lines.dropWhile isSkipped with
      | [] => []
      | l :: rest => l.trim :: effectiveLines rest := by
  induction lines with
  | nil => rfl
  | cons l rest ih =>
      cases hskipped : isSkipped l with
      | true =>
          rw [List.dropWhile_cons_of_pos hskipped, ← ih, effectiveLines_skipped hskipped]
      | false =>
          rw [List.dropWhile_cons_of_neg (by simp [hskipped]), effectiveLines_line hskipped]

/-- What is prepared without blocks goes on behind the first effective line. -/
theorem afterFirstLine_effectiveLines (kind : ObjectKind) (contents : Text) :
    Definition.afterFirstLine kind (effectiveLines contents.dropMark.lines) =
      match firstLine? contents with
      | none => .error (.definition (.wrongFirstLine kind none))
      | some first =>
        if first = kind.discriminator then .ok (effectiveLines (behindFirst contents))
        else .error (.definition (.wrongFirstLine kind (some first))) := by
  rw [effectiveLines_eq, firstLine?_eq, behindFirst]
  rcases contents.dropMark.lines.dropWhile isSkipped with _ | ⟨l, rest⟩ <;> rfl

end Source

namespace Object

open Source (firstLine? behindFirst)

/-- Without blocks, the effective lines behind the first one are read one by one. -/
theorem bind_afterFirstLine (mapping : Mapping) (kind : ObjectKind) (contents : Text) :
    (Definition.afterFirstLine kind (Source.effectiveLines contents.dropMark.lines) >>= fun lines =>
        (lines.mapM fun l => during (.readingLine l) (Entry.parse mapping kind l)) >>=
          Entry.assemble kind) =
      match firstLine? contents with
      | none => .error (.definition (.wrongFirstLine kind none))
      | some first =>
        if first = kind.discriminator then
          Piece.readAll mapping kind true ((behindFirst contents).map Piece.line) >>=
            Entry.assemble kind
        else .error (.definition (.wrongFirstLine kind (some first))) := by
  rw [Source.afterFirstLine_effectiveLines]
  rcases firstLine? contents with _ | first
  · rfl
  · dsimp only
    split
    · rw [ok_bind, Piece.mapM_effectiveLines]
    · rfl

/-- Reading a file is checking its first line, reading the pieces behind it and putting the entries
together. -/
theorem parse_eq_pieces (mapping : Mapping) (kind : ObjectKind) (contents : Text) :
    parse mapping kind contents = match firstLine? contents with
      | none => .error (.definition (.wrongFirstLine kind none))
      | some first =>
        if first = kind.discriminator then
          Piece.readAll mapping kind (Piece.allClosed kind (behindFirst contents))
            (Piece.ofLines kind (behindFirst contents)) >>= Entry.assemble kind
        else .error (.definition (.wrongFirstLine kind (some first))) := by
  cases kind with
  | table =>
      refine Eq.trans ?_ (bind_afterFirstLine mapping .table contents)
      simp only [parse, preparedLines, Source.lines, Table.ofLines, map_of_bind]
      rfl
  | sequence =>
      refine Eq.trans ?_ (bind_afterFirstLine mapping .sequence contents)
      simp only [parse, preparedLines, Source.lines, Sequence.ofLines, map_of_bind]
      rfl
  | function =>
      have honce : parse mapping .function contents =
          (OnePass.parse mapping contents.dropMark.lines).map .function := by
        rw [OnePass.parse_eq_ofLines]
        rfl
      rw [honce, OnePass.parse, Source.firstLine?_eq, behindFirst]
      rcases contents.dropMark.lines.dropWhile OnePass.isSkipped with _ | ⟨l, rest⟩
      · rfl
      · dsimp only [List.head?_cons, Option.map_some, List.tail_cons]
        split
        · -- the single pass keeps step with the second of the two passes
          have hstep : rest.foldlM (OnePass.step mapping) OnePass.State.initial >>=
                OnePass.State.finish =
              FunctionEntry.readLines mapping false (Source.blockLines bodyBlock false rest) >>=
                Function.ofEntries := OnePass.foldlM_step mapping false [] rest
          rw [hstep, map_of_bind, (Piece.readLines_eq mapping rest).1]
          rfl
        · rfl

end Object

end SchemaCompiler
