import SchemaCompiler.Proofs.RoundTrip.Function
import SchemaCompiler.Proofs.RoundTrip.Table

namespace SchemaCompiler

/-! # Canonical definition files are read back

Reading the canonical definition file of a well-formed object gives exactly that object, under every
mapping and with every order kept (`Object.parse_canonicalText`). What remains behind the lines of
tables and functions are the two lines of a sequence and the way from the text of a file to its
lines. -/

/-! ## Sequences -/

namespace SequenceEntry

theorem isLine_line {e : SequenceEntry} (h : e.WellFormed) : Source.IsLine e.line := by
  cases e with
  | name n => exact Source.isLine_marker _ h.toInline
  | properties args => exact Source.isLine_marker _ (NamedArgs.WellFormed.inline (by decide) h)
  | ignored => exact h.elim

/-- A line says what the entry it was written for says. -/
theorem parse_line (mapping : Mapping) {e : SequenceEntry} (h : e.WellFormed) :
    parse mapping e.line = .ok e := by
  cases e with
  | name n =>
      have hname : Text.IsName n := h
      simp only [line, parse, Marker.split?_line, hname.trim_eq,
        Definition.readName_isName mapping hname]
      rfl
  | properties args =>
      have hlist := NamedArgs.WellFormed.inline (by decide) h
      simp only [line, parse, Marker.split?_line, hlist.trim_eq, Definition.readProperties_list h]
  | ignored => exact h.elim

end SequenceEntry

namespace Sequence

variable {s : Sequence}

theorem isLine_canonicalLines (h : s.WellFormed) : ∀ l ∈ s.canonicalLines, Source.IsLine l := by
  intro l hl
  rcases List.mem_cons.1 hl with rfl | hl
  · exact ⟨by decide, by decide⟩
  · obtain ⟨e, he, rfl⟩ := List.mem_map.1 hl
    exact SequenceEntry.isLine_line (h e he)

/-- The lines of a sequence are read as the sequence. -/
theorem ofLines_canonicalLines (mapping : Mapping) (h : s.WellFormed) :
    ofLines mapping s.canonicalLines = .ok s := by
  have hlines := readingLines_eq_ok fun e he => SequenceEntry.parse_line mapping (h e he)
  have hfirst : Definition.afterFirstLine .sequence s.canonicalLines =
      .ok (s.entries.map SequenceEntry.line) :=
    Definition.afterFirstLine_discriminator .sequence _
  have hentries : ofEntries s.entries = .ok s := by
    have hproperties : Definition.mergeProperties [s.properties] = s.properties :=
      Definition.mergeProperties_singleton _
    simp only [ofEntries, entries, filterMap_cons_toList, SequenceEntry.name?,
      SequenceEntry.properties?, Option.toList, List.filterMap_nil, List.nil_append,
      List.cons_append, hproperties]
    rfl
  rw [ofLines, hfirst, ok_bind, hlines, ok_bind, hentries]

end Sequence

/-! ## From the text of a file to its lines -/

namespace Object

/-- The first line of a canonical definition names the kind. -/
theorem canonicalLines_eq_cons (object : Object) :
    ∃ rest, object.canonicalLines = object.kind.discriminator :: rest := by
  cases object with
  | table t => exact ⟨_, rfl⟩
  | sequence s => exact ⟨_, rfl⟩
  | function f => exact ⟨_, rfl⟩

/-- A canonical definition file starts with no byte-order mark. -/
theorem dropMark_canonicalText (object : Object) :
    object.canonicalText.dropMark = object.canonicalText := by
  obtain ⟨rest, hrest⟩ := object.canonicalLines_eq_cons
  obtain ⟨c, cs, hcs, hc⟩ : ∃ c cs, object.kind.discriminator = c :: cs ∧ c ≠ '\uFEFF' := by
    cases object.kind with
    | table => exact ⟨'T', "BL", rfl, by decide⟩
    | sequence => exact ⟨'S', "EQ", rfl, by decide⟩
    | function => exact ⟨'F', "UNC", rfl, by decide⟩
  have htext : object.canonicalText = c :: (cs ++ '\n' :: Text.unlines rest) := by
    rw [canonicalText, hrest, hcs]
    simp [Text.unlines]
  rw [htext, Source.dropMark_of_ne hc]

/-- No canonical line holds a newline or ends in a carriage return. -/
theorem lines_canonicalText {object : Object} (h : object.WellFormed) :
    object.canonicalText.lines = object.canonicalLines := by
  -- a carriage return is blank, so no trimmed line ends in one
  have hline : ∀ l : Text, Source.IsLine l → '\n' ∉ l ∧ l.getLast? ≠ some '\r' :=
    fun l hl => ⟨hl.newline_not_mem, hl.trimmed.getLast?_ne_return⟩
  have hall : ∀ l ∈ object.canonicalLines, '\n' ∉ l ∧ l.getLast? ≠ some '\r' := by
    intro l hl
    cases object with
    | table t => exact hline l (Table.isLine_canonicalLines h l hl)
    | sequence s => exact hline l (Sequence.isLine_canonicalLines h l hl)
    | function f =>
        -- the lines of the body are free to hold anything else
        have hparts : l ∈ ("FUNC".toList :: f.entries.map FunctionEntry.line) ++
            bodyOpening :: (f.bodyLines ++ [bodyClosing]) := hl
        rcases List.mem_append.1 hparts with hl | hl
        · exact hline l (Function.isLine_entries h l hl).1
        · rcases List.mem_cons.1 hl with rfl | hl
          · exact ⟨by decide, by decide⟩
          · rcases List.mem_append.1 hl with hl | hl
            · exact ⟨Text.not_mem_of_mem_splitOn hl, h.body_no_return l hl⟩
            · obtain rfl := List.mem_singleton.1 hl
              exact ⟨by decide, by decide⟩
  exact Text.lines_unlines (fun l hl => (hall l hl).1) fun l hl => (hall l hl).2

/-- The lines of a canonical definition reach the reader as they are. -/
theorem preparedLines_canonicalText {object : Object} (h : object.WellFormed) :
    preparedLines object.kind object.canonicalText = object.canonicalLines := by
  have hraw : object.canonicalText.dropMark.lines = object.canonicalLines := by
    rw [dropMark_canonicalText, lines_canonicalText h]
  cases object with
  | table t =>
      have hlines := Source.effectiveLines_eq_self (Table.isLine_canonicalLines h)
      rw [kind, preparedLines, Source.lines, hraw]
      exact hlines
  | sequence s =>
      have hlines := Source.effectiveLines_eq_self (Sequence.isLine_canonicalLines h)
      rw [kind, preparedLines, Source.lines, hraw]
      exact hlines
  | function f =>
      rw [kind, preparedLines, Source.lines, hraw]
      exact Function.blockLines_canonicalLines h

/-- Reading the canonical definition file of a well-formed object gives exactly that object. -/
theorem parse_canonicalText (mapping : Mapping) (object : Object) (h : object.WellFormed) :
    parse mapping object.kind object.canonicalText = .ok object := by
  have hlines := preparedLines_canonicalText h
  cases object with
  | table t =>
      have hread := Table.ofLines_canonicalLines mapping h
      simp only [kind] at hlines
      simp only [parse, kind, hlines, canonicalLines, hread]
      rfl
  | sequence s =>
      have hread := Sequence.ofLines_canonicalLines mapping h
      simp only [kind] at hlines
      simp only [parse, kind, hlines, canonicalLines, hread]
      rfl
  | function f =>
      have hread := Function.ofLines_canonicalLines mapping h
      simp only [kind] at hlines
      simp only [parse, kind, hlines, canonicalLines, hread]
      rfl

/-- A table with a part of every kind. -/
def tasks : Table where
  name := "tasks"
  properties := OrderedMap.ofList [("title", some ("Tasks" : Text)), ("partitioned", none)]
  columns :=
    [⟨"id", "numeric(10,0)", true, none, some ("The number of the task" : Text)⟩,
     ⟨"state", "text", false, some ("'new'" : Text), none⟩]
  primaryKey := some ⟨"tasks_pk", .primaryKey, OrderedSet.ofList ["id"]⟩
  uniqueKeys := []
  indexes := [⟨"tasks_ix", "btree",
    OrderedMap.ofList [("lower(state)", .ascending), ("id", .descending)]⟩]

theorem parse_canonicalText_tasks : (table tasks).WellFormed ∧
    parse Mapping.default .table (table tasks).canonicalText = .ok (table tasks) :=
  ⟨by decide, parse_canonicalText Mapping.default (table tasks) (by decide)⟩

end Object

end SchemaCompiler
