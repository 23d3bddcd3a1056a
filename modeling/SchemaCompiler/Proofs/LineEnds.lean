import SchemaCompiler.Compile
import SchemaCompiler.Proofs.RoundTrip.Line

namespace SchemaCompiler

/-! # Line ends and byte-order marks

A text has the same lines whether its lines end at newlines or at carriage returns and newlines, and
with a byte-order mark ahead of it (`Source.rawLines_of_spelling`). Every reader of a source file
starts from these lines, so all of them read the four spellings of a text alike. Main statement:
`Source.read_spelling`.
-/

namespace Text

/-! ## Spellings -/

/-- The text with a byte-order mark ahead of it. -/
def marked (t : Text) : Text := '\uFEFF' :: t

/-- The text with a carriage return ahead of every newline. -/
def withReturns (t : Text) : Text := t.replaceAll ['\n'] ['\r', '\n']

/-- The ways to spell a text: with either kind of line end, with or without a mark. -/
def spellings (t : Text) : List Text := [t, t.marked, t.withReturns, t.withReturns.marked]

theorem withReturns_of_not_mem {t : Text} (h : '\n' ∉ t) : t.withReturns = t :=
  replaceFrom_of_not_mem h [] ['\r', '\n']

/-- The first newline of a text gets the first carriage return. -/
theorem withReturns_append_cons {line : Text} (h : '\n' ∉ line) (rest : Text) :
    withReturns (line ++ '\n' :: rest) = (line ++ ['\r']) ++ '\n' :: rest.withReturns := by
  induction line with
  | nil => rfl
  | cons c cs ih =>
      rw [List.mem_cons, not_or] at h
      have hstep : withReturns (c :: (cs ++ '\n' :: rest)) =
          c :: withReturns (cs ++ '\n' :: rest) := by
        simp [withReturns, replaceAll, replaceFrom, h.1]
      rw [List.cons_append, hstep, ih h.2, List.cons_append, List.cons_append]

/-! ## Lines -/

/-- What stands ahead of the first newline is the first line. -/
theorem lines_append_cons {line : Text} (h : '\n' ∉ line) (rest : Text) :
    lines (line ++ '\n' :: rest) = dropReturn line :: lines rest := by
  rw [lines_append_newline, splitOn_of_not_mem h, List.map_singleton, List.singleton_append]

/-- Carriage returns ahead of the newlines change no line, if there are no others. -/
theorem lines_withReturns {t : Text} (h : '\r' ∉ t) : lines t.withReturns = lines t := by
  -- line by line, from the front
  induction hlength : t.length using Nat.strongRecOn generalizing t with
  | ind n ih =>
      by_cases hnewline : '\n' ∈ t
      · obtain ⟨line, rest, rfl, hline⟩ := List.eq_append_cons_of_mem hnewline
        have hreturn : '\r' ∉ line ∧ '\r' ∉ rest := by simpa [not_or] using h
        have hlast : line.getLast? ≠ some '\r' := fun hlast =>
          hreturn.1 (List.mem_of_mem_getLast? hlast)
        have hrest : lines (withReturns rest) = lines rest :=
          ih rest.length (by simp [← hlength]; omega) hreturn.2 rfl
        have hline' : '\n' ∉ line ++ ['\r'] := by simpa using hline
        rw [withReturns_append_cons hline, lines_append_cons hline', dropReturn_append_return, hrest,
          lines_append_cons hline, dropReturn_eq_self hlast]
      · rw [withReturns_of_not_mem hnewline]

theorem dropMark_eq_self {t : Text} (h : t.head? ≠ some '\uFEFF') : dropMark t = t := by
  cases t with
  | nil => rfl
  | cons c cs => exact Source.dropMark_of_ne (fun hc => h (congrArg some hc)) cs

theorem dropMark_marked (t : Text) : dropMark t.marked = t := rfl

/-- Carriage returns ahead of the newlines make no mark. -/
theorem head?_withReturns_ne {t : Text} (h : t.head? ≠ some '\uFEFF') :
    t.withReturns.head? ≠ some '\uFEFF' := by
  cases t with
  | nil => exact h
  | cons c cs =>
      by_cases hc : c = '\n'
      · subst hc
        have hhead : (withReturns ('\n' :: cs)).head? = some '\r' := rfl
        rw [hhead]
        decide
      · have hhead : (withReturns (c :: cs)).head? = some c := by
          simp [withReturns, replaceAll, replaceFrom, Ne.symm hc]
        rw [hhead]
        exact h

end Text

namespace Source

/-- Every spelling of a text has the same raw lines. -/
theorem rawLines_of_spelling {contents spelling : Text} (hreturn : '\r' ∉ contents)
    (hmark : contents.head? ≠ some '\uFEFF') (h : spelling ∈ contents.spellings) :
    spelling.dropMark.lines = contents.dropMark.lines := by
  have hself : contents.dropMark = contents := Text.dropMark_eq_self hmark
  have hreturns : contents.withReturns.dropMark = contents.withReturns :=
    Text.dropMark_eq_self (Text.head?_withReturns_ne hmark)
  simp only [Text.spellings, List.mem_cons, List.not_mem_nil, or_false] at h
  rcases h with rfl | rfl | rfl | rfl
  · rfl
  · rw [Text.dropMark_marked, hself]
  · rw [hreturns, hself, Text.lines_withReturns hreturn]
  · rw [Text.dropMark_marked, hself, Text.lines_withReturns hreturn]

/-! ## Readers -/

variable {contents other : Text}

theorem lines_congr (h : other.dropMark.lines = contents.dropMark.lines)
    (block : Option VerbatimBlock) : lines block other = lines block contents := by
  simp only [lines, h]

theorem firstLine?_congr (h : other.dropMark.lines = contents.dropMark.lines) :
    firstLine? other = firstLine? contents := by
  rw [firstLine?, firstLine?, h]

/-- Reading an object starts from the prepared lines. -/
theorem parse_congr (h : ∀ block, lines block other = lines block contents) (m : Mapping)
    (kind : ObjectKind) : Object.parse m kind other = Object.parse m kind contents := by
  have hprepared : Object.preparedLines kind other = Object.preparedLines kind contents := by
    cases kind with
    | table => exact h none
    | sequence => exact h none
    | function => exact h (some bodyBlock)
  simp only [Object.parse, hprepared]

/-- All readers of source files read the four spellings of a text without carriage returns and
without a mark of its own alike: the one that prepares lines, with any block or none, the one that
finds out the kind, and those of objects, makefiles, mappings and definition files. -/
theorem read_spelling (hreturn : '\r' ∉ contents) (hmark : contents.head? ≠ some '\uFEFF')
    (h : other ∈ contents.spellings) :
    (∀ block, lines block other = lines block contents) ∧
      firstLine? other = firstLine? contents ∧
      Object.sniff? other = Object.sniff? contents ∧
      (∀ m kind, Object.parse m kind other = Object.parse m kind contents) ∧
      (∀ m file, Compile.parseDefinition m file other = Compile.parseDefinition m file contents) ∧
      Makefile.parse other = Makefile.parse contents ∧
      Mapping.parse other = Mapping.parse contents := by
  have hraw := rawLines_of_spelling hreturn hmark h
  have hlines := lines_congr hraw
  have hfirst := firstLine?_congr hraw
  have hsniff : Object.sniff? other = Object.sniff? contents := by
    rw [Object.sniff?, Object.sniff?, hfirst]
  have hparse := parse_congr hlines
  refine ⟨hlines, hfirst, hsniff, hparse, fun m file => ?_, ?_, ?_⟩
  · rw [Compile.parseDefinition, Compile.parseDefinition, hsniff, hfirst]
    simp only [hparse]
  · rw [Makefile.parse, Makefile.parse, hlines]
  · rw [Mapping.parse, Mapping.parse, hlines]

/-- A function whose body keeps blanks and an empty line; its last line is not ended. -/
def dequeue : Text := "FUNC\nNAME:f\nBODY:\n  begin \n\n# end\nBODY;\nRET:int"

theorem read_spelling_dequeue :
    '\r' ∉ dequeue ∧ dequeue.head? ≠ some '\uFEFF' ∧
      dequeue.withReturns.marked ∈ dequeue.spellings ∧
      Object.parse Mapping.default .function dequeue.withReturns.marked =
        Object.parse Mapping.default .function dequeue := by
  have hreturn : '\r' ∉ dequeue := by decide
  have hmark : dequeue.head? ≠ some '\uFEFF' := by decide
  have hspelling : dequeue.withReturns.marked ∈ dequeue.spellings := by decide
  obtain ⟨-, -, -, hparse, -⟩ := read_spelling hreturn hmark hspelling
  exact ⟨hreturn, hmark, hspelling, hparse Mapping.default .function⟩

example : Object.parse Mapping.default .function dequeue.withReturns.marked =
    .ok (.function ⟨"f", OrderedMap.empty, [], Return.ofType "int" OrderedMap.empty,
      "  begin \n\n# end"⟩) := rfl

end Source

end SchemaCompiler
