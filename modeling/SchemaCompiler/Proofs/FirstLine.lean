import SchemaCompiler.Proofs.Failures

namespace SchemaCompiler

/-! # The first line of a definition file

Three scans look for the first line that says something: the one that finds out the kind of a file,
the preparation of lines without blocks and the preparation with blocks, where the lines of a block
are kept whatever they say. Main statement: `Object.first_lines_agree`, all three find the same line,
so a file that is read as what it names is never refused for its first line.
-/

/-! ## Prepared lines -/

namespace Source

theorem head?_effectiveLines (raw : List Text) :
    (effectiveLines raw).head? = (raw.map Text.trim).find? isEffective :=
  List.head?_filter ..

/-- A line that opens a block says something, so no line of a block comes ahead of the first one
that does. -/
theorem head?_blockLines {block : VerbatimBlock} (h : isEffective block.opening = true)
    (raw : List Text) :
    (blockLines block false raw).head? = (raw.map Text.trim).find? isEffective := by
  induction raw with
  | nil => rfl
  | cons line rest ih =>
      rw [List.map_cons, List.find?_cons]
      cases heffective : isEffective line.trim with
      | true =>
          -- the line is kept, whether it opens a block or not
          simp only [blockLines, heffective]
          rfl
      | false =>
          have hopening : line.trim ≠ block.opening := by
            intro hopening
            rw [hopening, h] at heffective
            cases heffective
          simp only [blockLines, heffective, decide_eq_false hopening]
          exact ih

end Source

theorem Object.head?_preparedLines (kind : ObjectKind) (contents : Text) :
    (preparedLines kind contents).head? = Source.firstLine? contents := by
  cases kind with
  | table => exact Source.head?_effectiveLines _
  | sequence => exact Source.head?_effectiveLines _
  | function => exact Source.head?_blockLines (by decide) _

/-- The first line passes exactly if it names the kind. -/
theorem Definition.exists_afterFirstLine_eq_ok_iff {kind : ObjectKind} {lines : List Text} :
    (∃ rest, afterFirstLine kind lines = .ok rest) ↔ lines.head? = some kind.discriminator := by
  cases lines with
  | nil => exact iff_of_false nofun nofun
  | cons line rest =>
      rw [afterFirstLine, List.head?_cons, Option.some.injEq]
      constructor
      · rintro ⟨_, hrest⟩
        by_contra hne
        rw [if_neg hne] at hrest
        cases hrest
      · intro heq
        exact ⟨rest, if_pos heq⟩

/-- A file is of the kind whose discriminator is its first line. -/
theorem Object.sniff?_eq_some_iff {contents : Text} {kind : ObjectKind} :
    sniff? contents = some kind ↔ Source.firstLine? contents = some kind.discriminator := by
  constructor
  · exact Compile.firstLine?_of_sniff?
  · intro hfirst
    rw [sniff?, hfirst]
    cases kind <;> rfl

/-! ## Errors about the first line -/

/-- Some link of the error is about a wrong first line. -/
def Error.OfFirstLine (e : Error) : Prop :=
  ∃ kind found, Fault.definition (.wrongFirstLine kind found) ∈ e.faults

theorem Error.not_ofFirstLine_ofFault {fault : Fault}
    (h : ∀ kind found, fault ≠ .definition (.wrongFirstLine kind found)) :
    ¬(ofFault fault).OfFirstLine := by
  rintro ⟨kind, found, hmem⟩
  exact h kind found (List.mem_singleton.1 hmem).symm

theorem Error.ofFirstLine_within {e : Error} {activity : Activity} :
    (e.within activity).OfFirstLine ↔ e.OfFirstLine := by
  have hfaults : (e.within activity).faults = .during activity :: e.faults := rfl
  simp [OfFirstLine, hfaults]

namespace Grammar

variable {m : Mapping} {kind : ObjectKind} {marker : Marker} {rest contents : Text} {e : Error}

/-- No line behind the first one is refused for the first line. -/
theorem Offence.not_ofFirstLine (h : Offence m kind marker rest e) : ¬e.OfFirstLine := by
  cases h <;> exact Error.not_ofFirstLine_ofFault nofun

/-- A file is refused for its first line exactly if this does not name its kind. -/
theorem FirstOffence.ofFirstLine_iff (h : FirstOffence m kind contents e) :
    e.OfFirstLine ↔ Source.firstLine? contents ≠ some kind.discriminator := by
  cases h with
  | wrongFirstLine hne => exact iff_of_true ⟨kind, _, List.mem_singleton.2 rfl⟩ hne
  | line hfirst _ _ hoffence =>
      obtain ⟨_, _, _, hoffence⟩ := hoffence
      rw [Error.ofFirstLine_within]
      exact iff_of_false hoffence.not_ofFirstLine (not_not.2 hfirst)
  | openBody hfirst _ _ =>
      exact iff_of_false (Error.not_ofFirstLine_ofFault nofun) (not_not.2 hfirst)
  | nameless hfirst _ _ _ =>
      exact iff_of_false (Error.not_ofFirstLine_ofFault nofun) (not_not.2 hfirst)

end Grammar

namespace Object

/-- Reading fails for the first line exactly if this does not name the kind that is read. -/
theorem exists_parse_ofFirstLine_iff {m : Mapping} {kind : ObjectKind} {contents : Text} :
    (∃ e, parse m kind contents = .error e ∧ e.OfFirstLine) ↔
      Source.firstLine? contents ≠ some kind.discriminator := by
  constructor
  · rintro ⟨e, hparse, hfirst⟩
    exact (parse_eq_error_iff.1 hparse).ofFirstLine_iff.1 hfirst
  · intro hne
    have hoffence := Grammar.FirstOffence.wrongFirstLine (m := m) hne
    exact ⟨_, parse_eq_error_iff.2 hoffence, hoffence.ofFirstLine_iff.2 hne⟩

/-- The kind of a file and its prepared lines, with and without blocks, are found from the same first
line. So a reader passes this line exactly if it is the one of its kind, and reading a file as the
kind that it names never fails for its first line. -/
theorem first_lines_agree (contents : Text) :
    (Source.lines none contents).head? = Source.firstLine? contents ∧
      (Source.lines (some bodyBlock) contents).head? = Source.firstLine? contents ∧
      (∀ kind, sniff? contents = some kind ↔
        Source.firstLine? contents = some kind.discriminator) ∧
      (∀ kind, (∃ rest, Definition.afterFirstLine kind (preparedLines kind contents) = .ok rest) ↔
        Source.firstLine? contents = some kind.discriminator) ∧
      (∀ m kind, (∃ e, parse m kind contents = .error e ∧ e.OfFirstLine) ↔
        Source.firstLine? contents ≠ some kind.discriminator) ∧
      ∀ m file, ¬∃ e, Compile.parseDefinition m file contents = .error e ∧ e.OfFirstLine := by
  refine ⟨head?_preparedLines .table contents, head?_preparedLines .function contents,
    fun kind => sniff?_eq_some_iff, ?_, fun m kind => exists_parse_ofFirstLine_iff, ?_⟩
  · intro kind
    rw [Definition.exists_afterFirstLine_eq_ok_iff, head?_preparedLines]
  · rintro m file ⟨e, hparse, hfirst⟩
    rw [Compile.parseDefinition] at hparse
    cases hsniff : sniff? contents with
    | none =>
        rw [hsniff] at hparse
        cases hparse
        apply Error.not_ofFirstLine_ofFault _ hfirst
        intro kind found h
        cases h
    | some kind =>
        -- the reader was chosen by the first line
        rw [hsniff] at hparse
        obtain ⟨e', hoffence, rfl⟩ := during_eq_error_iff.1 hparse
        rw [Error.ofFirstLine_within] at hfirst
        exact exists_parse_ofFirstLine_iff.1 ⟨e', hoffence, hfirst⟩ (sniff?_eq_some_iff.1 hsniff)

end Object

end SchemaCompiler
