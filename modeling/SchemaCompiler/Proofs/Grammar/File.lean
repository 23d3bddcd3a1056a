import SchemaCompiler.Proofs.Grammar.Line

namespace SchemaCompiler

/-! # The grammar of definition files

A file is grammatical if its first line names its kind, its lines outside blocks are admissible, its
blocks are closed and one of its lines is a name line (`Grammar.Grammatical`). Otherwise one offence
comes first (`Grammar.FirstOffence`). Main statement: `Object.parse_grammar`, files are read exactly
if they are grammatical, and are refused for their first offence.
-/

/-- The line that a piece is, unless it is a block. -/
def Piece.line? : Piece → Option Text
  | line l => some l
  | block _ => none

namespace Grammar

open Source (firstLine? behindFirst)

/-! ## Grammar -/

/-- A name line. -/
def IsName (line : Text) : Prop := ∃ rest, Marker.split? line = some (.name, rest)

/-- The effective lines among pieces, outside blocks. -/
def linesOf (pieces : List Piece) : List Text :=
  Source.effectiveLines (pieces.filterMap Piece.line?)

/-- The effective lines of a file behind its first one, outside blocks. -/
def lines (kind : ObjectKind) (contents : Text) : List Text :=
  linesOf (Piece.ofLines kind (behindFirst contents))

/-- The file is as a file of its kind has to be. -/
structure Grammatical (kind : ObjectKind) (contents : Text) : Prop where
  first : firstLine? contents = some kind.discriminator
  admissible : ∀ line ∈ lines kind contents, LineAdmissible kind line
  closed : Piece.allClosed kind (behindFirst contents) = true
  named : ∃ line ∈ lines kind contents, IsName line

/-- The first offence of a file: its first line comes first, then its other lines in their order,
then a block left open and at last the lack of a name. -/
inductive FirstOffence (m : Mapping) (kind : ObjectKind) (contents : Text) : Error → Prop
  | wrongFirstLine (h : firstLine? contents ≠ some kind.discriminator) :
      FirstOffence m kind contents (.definition (.wrongFirstLine kind (firstLine? contents)))
  | line {before after : List Text} {line : Text} {e : Error}
      (hfirst : firstLine? contents = some kind.discriminator)
      (hlines : lines kind contents = before ++ line :: after)
      (hbefore : ∀ l ∈ before, LineAdmissible kind l) (h : LineOffence m kind line e) :
      FirstOffence m kind contents (e.within (.readingLine line))
  | openBody (hfirst : firstLine? contents = some kind.discriminator)
      (hlines : ∀ l ∈ lines kind contents, LineAdmissible kind l)
      (h : Piece.allClosed kind (behindFirst contents) = false) :
      FirstOffence m kind contents (.definition .openBody)
  | nameless (hfirst : firstLine? contents = some kind.discriminator)
      (hlines : ∀ l ∈ lines kind contents, LineAdmissible kind l)
      (hclosed : Piece.allClosed kind (behindFirst contents) = true)
      (h : ∀ l ∈ lines kind contents, ¬IsName l) :
      FirstOffence m kind contents (.definition (.nameless kind))

/-- A file without a first offence is grammatical, and only such a file is. -/
theorem grammatical_iff (m : Mapping) {kind : ObjectKind} {contents : Text} :
    Grammatical kind contents ↔ ∀ e, ¬FirstOffence m kind contents e := by
  constructor
  · rintro ⟨hfirst, hadmissible, hclosed, line, hline, hname⟩ e he
    cases he with
    | wrongFirstLine h => exact h hfirst
    | @line before after offender e _ hlines _ h =>
        have hmem : offender ∈ lines kind contents := by
          rw [hlines]
          exact List.mem_append_right _ List.mem_cons_self
        exact (lineAdmissible_iff m).1 (hadmissible offender hmem) e h
    | openBody _ _ h =>
        rw [h] at hclosed
        cases hclosed
    | nameless _ _ _ h => exact h line hline hname
  · intro h
    have hfirst : firstLine? contents = some kind.discriminator := by
      by_contra hfirst
      exact h _ (.wrongFirstLine hfirst)
    have hadmissible : ∀ l ∈ lines kind contents, LineAdmissible kind l := by
      by_contra hnot
      obtain ⟨before, line, after, hlines, hbefore, hline⟩ := exists_first_not hnot
      rw [lineAdmissible_iff m] at hline
      push Not at hline
      obtain ⟨e, he⟩ := hline
      exact h _ (.line hfirst hlines hbefore he)
    have hclosed : Piece.allClosed kind (behindFirst contents) = true := by
      by_contra hopen
      exact h _ (.openBody hfirst hadmissible (Bool.eq_false_iff.2 hopen))
    refine ⟨hfirst, hadmissible, hclosed, ?_⟩
    by_contra hnameless
    refine h _ (.nameless hfirst hadmissible hclosed fun l hl hname => ?_)
    exact hnameless ⟨l, hl, hname⟩

end Grammar

/-! ## Entries that name the object -/

theorem Grammar.not_isName {line rest : Text} {marker : Marker}
    (hline : Marker.split? line = some (marker, rest)) (hne : marker ≠ .name) : ¬IsName line := by
  rintro ⟨_, hname⟩
  rw [hline] at hname
  cases hname
  exact hne rfl

/-- A line of a table gives a name exactly if it is a name line. -/
theorem TableEntry.isSome_name?_iff {m : Mapping} {line : Text} {e : TableEntry}
    (h : TableEntry.parse m line = .ok e) : e.name?.isSome ↔ Grammar.IsName line := by
  unfold TableEntry.parse at h
  split at h
  · rename_i hline
    obtain ⟨n, -, rfl⟩ := exists_of_map_eq_ok h
    exact iff_of_true rfl ⟨_, hline⟩
  · rename_i hline
    cases h
    exact iff_of_false nofun (Grammar.not_isName hline nofun)
  · rename_i hline
    obtain ⟨l, -, rfl⟩ := exists_of_map_eq_ok h
    exact iff_of_false nofun (Grammar.not_isName hline nofun)
  · rename_i hline
    obtain ⟨l, -, h⟩ := exists_of_bind_eq_ok h
    obtain ⟨c, -, rfl⟩ := exists_of_map_eq_ok h
    exact iff_of_false nofun (Grammar.not_isName hline nofun)
  · rename_i hline
    obtain ⟨l, -, h⟩ := exists_of_bind_eq_ok h
    obtain ⟨i, -, rfl⟩ := exists_of_map_eq_ok h
    exact iff_of_false nofun (Grammar.not_isName hline nofun)
  · rename_i hname _ _ _ _
    cases h
    exact iff_of_false nofun fun ⟨rest, hline⟩ => hname rest hline

/-- A line of a sequence gives a name exactly if it is a name line. -/
theorem SequenceEntry.isSome_name?_iff {m : Mapping} {line : Text} {e : SequenceEntry}
    (h : SequenceEntry.parse m line = .ok e) : e.name?.isSome ↔ Grammar.IsName line := by
  unfold SequenceEntry.parse at h
  split at h
  · rename_i hline
    obtain ⟨n, -, rfl⟩ := exists_of_map_eq_ok h
    exact iff_of_true rfl ⟨_, hline⟩
  · rename_i hline
    cases h
    exact iff_of_false nofun (Grammar.not_isName hline nofun)
  · rename_i hname _
    cases h
    exact iff_of_false nofun fun ⟨rest, hline⟩ => hname rest hline

/-- A line of a function outside blocks gives a name exactly if it is a name line. -/
theorem FunctionEntry.isSome_name?_iff {m : Mapping} {line : Text} {e : FunctionEntry}
    (h : FunctionEntry.parse m line = .ok e) : e.name?.isSome ↔ Grammar.IsName line := by
  unfold FunctionEntry.parse at h
  split at h
  · rename_i hline
    obtain ⟨n, -, rfl⟩ := exists_of_map_eq_ok h
    exact iff_of_true rfl ⟨_, hline⟩
  · rename_i hline
    cases h
    exact iff_of_false nofun (Grammar.not_isName hline nofun)
  · rename_i hline
    obtain ⟨p, -, rfl⟩ := exists_of_map_eq_ok h
    exact iff_of_false nofun (Grammar.not_isName hline nofun)
  · rename_i hline
    obtain ⟨r, -, rfl⟩ := exists_of_map_eq_ok h
    exact iff_of_false nofun (Grammar.not_isName hline nofun)
  · rename_i hname _ _ _
    cases h
    exact iff_of_false nofun fun ⟨rest, hline⟩ => hname rest hline

namespace Entry

/-- The name that an entry gives. -/
def name? : (kind : ObjectKind) → Entry kind → Option Text
  | .table => TableEntry.name?
  | .sequence => SequenceEntry.name?
  | .function => FunctionEntry.name?

/-- A line gives a name exactly if it is a name line. -/
theorem name?_of_parse {m : Mapping} {kind : ObjectKind} {line : Text} {e : Entry kind}
    (h : parse m kind line = .ok e) : (name? kind e).isSome ↔ Grammar.IsName line := by
  cases kind with
  | table => exact TableEntry.isSome_name?_iff h
  | sequence => exact SequenceEntry.isSome_name?_iff h
  | function => exact FunctionEntry.isSome_name?_iff h

/-- An object is put together unless its name is missing. -/
theorem assemble_eq_error_iff_lastName {kind : ObjectKind} {entries : List (Entry kind)}
    {e : Error} : assemble kind entries = .error e ↔
      Definition.lastName kind (entries.filterMap (name? kind)) = .error e := by
  cases kind with
  | table => exact map_eq_error_iff.trans bind_pure_eq_error_iff
  | sequence => exact map_eq_error_iff.trans bind_pure_eq_error_iff
  | function => exact map_eq_error_iff.trans bind_pure_eq_error_iff

/-- An object is put together unless no entry gives a name. -/
theorem assemble_eq_error_iff {kind : ObjectKind} {entries : List (Entry kind)} {e : Error} :
    assemble kind entries = .error e ↔
      entries.filterMap (name? kind) = [] ∧ e = .definition (.nameless kind) := by
  rw [assemble_eq_error_iff_lastName, Definition.lastName]
  cases hnames : (entries.filterMap (name? kind)).getLast? with
  | none =>
      rw [List.getLast?_eq_none_iff] at hnames
      constructor
      · rintro ⟨rfl⟩
        exact ⟨hnames, rfl⟩
      · rintro ⟨-, rfl⟩
        rfl
  | some name =>
      constructor
      · rintro ⟨⟩
      · rintro ⟨hnil, -⟩
        rw [hnil] at hnames
        cases hnames

end Entry

/-! ## Pieces -/

namespace Piece

open Grammar (LineAdmissible LineOffence linesOf)
open OnePass (isSkipped)

variable {m : Mapping} {kind : ObjectKind}

/-- Pieces are read if the lines among them are and no block is left open, and fail in this order.
-/
theorem map_readAll (closed : Bool) (pieces : List Piece) :
    (readAll m kind closed pieces).map (fun _ => ()) =
      ((linesOf pieces).mapM fun l =>
        during (.readingLine l) (Entry.parse m kind l)) >>= fun _ =>
          if closed then .ok () else .error (.definition .openBody) := by
  induction pieces with
  | nil => cases closed <;> rfl
  | cons piece rest ih =>
      cases piece with
      | line l =>
          cases hskipped : isSkipped l with
          | true =>
              have hlines : linesOf (line l :: rest) = linesOf rest :=
                Source.effectiveLines_skipped hskipped
              rw [readAll_skipped m hskipped, hlines, ih]
          | false =>
              have hlines : linesOf (line l :: rest) = l.trim :: linesOf rest :=
                Source.effectiveLines_line hskipped
              rw [readAll_line m hskipped, hlines, List.mapM_cons]
              cases during (.readingLine l.trim) (Entry.parse m kind l.trim) with
              | error e => rfl
              | ok e =>
                  -- the entry of the line changes no failure of the others
                  have hleft : ((readAll m kind closed rest).map (e :: ·)).map (fun _ => ()) =
                      (readAll m kind closed rest).map fun _ => () := by
                    cases readAll m kind closed rest <;> rfl
                  rw [ok_bind, hleft, ih, ok_bind]
                  cases (linesOf rest).mapM fun l =>
                    during (.readingLine l) (Entry.parse m kind l) <;> rfl
      | block body =>
          have hlines : linesOf (block body :: rest) = linesOf rest := rfl
          have hread : (readAll m kind closed (block body :: rest)).map (fun _ => ()) =
              (readAll m kind closed rest).map fun _ => () := by
            rw [readAll_cons, read, ok_bind]
            cases readAll m kind closed rest <;> rfl
          rw [hread, hlines, ih]

/-- The entries of pieces give a name exactly if one of the lines among them is a name line. -/
theorem names_eq_nil_iff {closed : Bool} {pieces : List Piece} {entries : List (Entry kind)}
    (h : readAll m kind closed pieces = .ok entries) :
    entries.filterMap (Entry.name? kind) = [] ↔ ∀ l ∈ linesOf pieces, ¬Grammar.IsName l := by
  induction pieces generalizing entries with
  | nil =>
      have hnil : entries = [] := by
        cases closed <;> cases h
        rfl
      rw [hnil]
      exact iff_of_true rfl nofun
  | cons piece rest ih =>
      cases piece with
      | line l =>
          cases hskipped : isSkipped l with
          | true =>
              have hlines : linesOf (line l :: rest) = linesOf rest :=
                Source.effectiveLines_skipped hskipped
              rw [readAll_skipped m hskipped] at h
              rw [hlines, ih h]
          | false =>
              have hlines : linesOf (line l :: rest) = l.trim :: linesOf rest :=
                Source.effectiveLines_line hskipped
              rw [readAll_line m hskipped] at h
              obtain ⟨e, hparse, h⟩ := exists_of_bind_eq_ok h
              obtain ⟨es, hrest, rfl⟩ := exists_of_map_eq_ok h
              have hname := Entry.name?_of_parse (eq_ok_of_during_eq_ok hparse)
              rw [hlines, List.forall_mem_cons, ← ih hrest, ← hname, filterMap_cons_toList,
                List.append_eq_nil_iff]
              cases Entry.name? kind e <;> simp
      | block body =>
          have hlines : linesOf (block body :: rest) = linesOf rest := rfl
          rw [readAll_cons] at h
          obtain ⟨es, hread, h⟩ := exists_of_bind_eq_ok h
          obtain ⟨es', hrest, rfl⟩ := exists_of_map_eq_ok h
          -- no line inside a block gives a name
          have hbody : es.filterMap (Entry.name? kind) = [] := by
            cases hread
            rw [List.filterMap_eq_nil_iff]
            intro e he
            obtain ⟨l, -, rfl⟩ := List.mem_map.1 he
            cases kind <;> rfl
          rw [hlines, ← ih hrest, List.filterMap_append, hbody, List.nil_append]

theorem readingLine_eq_error_iff {l : Text} {e : Error} :
    during (.readingLine l) (Entry.parse m kind l) = .error e ↔
      ∃ e', LineOffence m kind l e' ∧ e'.within (.readingLine l) = e := by
  simp only [during_eq_error_iff, Entry.parse_eq_error_iff]

theorem readingLine_ne_error_iff {l : Text} :
    (∀ e, during (.readingLine l) (Entry.parse m kind l) ≠ .error e) ↔ LineAdmissible kind l := by
  rw [Grammar.lineAdmissible_iff m]
  constructor
  · exact fun h e' he' => h _ (readingLine_eq_error_iff.2 ⟨e', he', rfl⟩)
  · intro h e he
    obtain ⟨e', he', -⟩ := readingLine_eq_error_iff.1 he
    exact h e' he'

theorem exists_readingLines_eq_ok_iff {ls : List Text} :
    (∃ entries, ls.mapM (fun l => during (.readingLine l) (Entry.parse m kind l)) = .ok entries) ↔
      ∀ l ∈ ls, LineAdmissible kind l := by
  simp only [exists_mapM_eq_ok_iff, readingLine_ne_error_iff]

/-- A row of pieces is read exactly if the lines among them are admissible and no block is open. -/
theorem exists_readAll_eq_ok_iff {closed : Bool} {pieces : List Piece} :
    (∃ entries, readAll m kind closed pieces = .ok entries) ↔
      (∀ l ∈ linesOf pieces, LineAdmissible kind l) ∧ closed = true := by
  have hmap : (readAll m kind closed pieces).map (fun _ => ()) = _ := map_readAll closed pieces
  rw [← exists_readingLines_eq_ok_iff (m := m)]
  constructor
  · rintro ⟨entries, h⟩
    rw [h] at hmap
    obtain ⟨es, hread, hclosed⟩ := exists_of_bind_eq_ok hmap.symm
    cases closed with
    | true => exact ⟨⟨es, hread⟩, rfl⟩
    | false => cases hclosed
  · rintro ⟨⟨es, hread⟩, rfl⟩
    rw [hread] at hmap
    obtain ⟨entries, h, -⟩ := exists_of_map_eq_ok hmap
    exact ⟨entries, h⟩

/-- A row of pieces is refused for the first line among them that is not admissible, or else for a
block left open. -/
theorem readAll_eq_error_iff {closed : Bool} {pieces : List Piece} {e : Error} :
    readAll m kind closed pieces = .error e ↔
      (∃ before line after, linesOf pieces = before ++ line :: after ∧
        (∀ l ∈ before, LineAdmissible kind l) ∧
        ∃ e', LineOffence m kind line e' ∧ e'.within (.readingLine line) = e) ∨
      (∀ l ∈ linesOf pieces, LineAdmissible kind l) ∧ closed = false ∧
        e = .definition .openBody := by
  rw [← map_eq_error_iff (f := fun _ => ()), map_readAll, bind_eq_error_iff]
  refine or_congr ?_ ?_
  · simp only [mapM_eq_error_iff, readingLine_eq_error_iff, readingLine_ne_error_iff]
  · rw [← exists_readingLines_eq_ok_iff (m := m)]
    cases closed with
    | true =>
        constructor
        · rintro ⟨_, -, ⟨⟩⟩
        · rintro ⟨-, ⟨⟩, -⟩
    | false =>
        constructor
        · rintro ⟨es, hread, ⟨rfl⟩⟩
          exact ⟨⟨es, hread⟩, rfl, rfl⟩
        · rintro ⟨⟨es, hread⟩, -, rfl⟩
          exact ⟨es, hread, rfl⟩

end Piece

/-! ## Files -/

open Grammar (Grammatical FirstOffence)

namespace Object

/-- A file is refused for its first offence, and for no other reason. -/
theorem parse_eq_error_iff {m : Mapping} {kind : ObjectKind} {contents : Text} {e : Error} :
    parse m kind contents = .error e ↔ FirstOffence m kind contents e := by
  rw [parse_eq_pieces]
  by_cases hfirst : Source.firstLine? contents = some kind.discriminator
  · rw [hfirst]
    dsimp only
    rw [if_pos rfl, bind_eq_error_iff, Piece.readAll_eq_error_iff]
    constructor
    · rintro ((⟨before, line, after, hlines, hbefore, e', he', rfl⟩ | ⟨hlines, hopen, rfl⟩) |
        ⟨entries, hread, hassemble⟩)
      · exact .line hfirst hlines hbefore he'
      · exact .openBody hfirst hlines hopen
      · -- the pieces are read, so only the name can be missing
        obtain ⟨hnames, rfl⟩ := Entry.assemble_eq_error_iff.1 hassemble
        obtain ⟨hlines, hclosed⟩ := Piece.exists_readAll_eq_ok_iff.1 ⟨entries, hread⟩
        exact .nameless hfirst hlines hclosed ((Piece.names_eq_nil_iff hread).1 hnames)
    · intro h
      cases h with
      | wrongFirstLine h => exact absurd hfirst h
      | line _ hlines hbefore h => exact .inl (.inl ⟨_, _, _, hlines, hbefore, _, h, rfl⟩)
      | openBody _ hlines h => exact .inl (.inr ⟨hlines, h, rfl⟩)
      | nameless _ hlines hclosed h =>
          obtain ⟨entries, hread⟩ := Piece.exists_readAll_eq_ok_iff.2 ⟨hlines, hclosed⟩
          refine .inr ⟨entries, hread, ?_⟩
          exact Entry.assemble_eq_error_iff.2 ⟨(Piece.names_eq_nil_iff hread).2 h, rfl⟩
  · have hwrong : FirstOffence m kind contents e ↔
        e = .definition (.wrongFirstLine kind (Source.firstLine? contents)) := by
      constructor
      · intro h
        cases h with
        | wrongFirstLine _ => rfl
        | line h => exact absurd h hfirst
        | openBody h => exact absurd h hfirst
        | nameless h => exact absurd h hfirst
      · rintro rfl
        exact .wrongFirstLine hfirst
    rw [hwrong]
    cases hline : Source.firstLine? contents with
    | none =>
        dsimp only
        rw [Except.error.injEq, eq_comm]
    | some first =>
        have hne : first ≠ kind.discriminator := fun h => hfirst (h ▸ hline)
        dsimp only
        rw [if_neg hne, Except.error.injEq, eq_comm]

/-- A file is read exactly if it is grammatical, and else refused for its first offence. -/
theorem parse_grammar (m : Mapping) (kind : ObjectKind) (contents : Text) :
    ((∃ object, parse m kind contents = .ok object) ↔ Grammatical kind contents) ∧
      ∀ e, parse m kind contents = .error e ↔ FirstOffence m kind contents e := by
  refine ⟨?_, fun e => parse_eq_error_iff⟩
  rw [Grammar.grammatical_iff m]
  simp only [← parse_eq_error_iff]
  cases parse m kind contents with
  | ok object => exact iff_of_true ⟨object, rfl⟩ nofun
  | error e => exact iff_of_false nofun fun h => h e rfl

/-- The unknown sort order is the first of three offences. -/
example : parse Mapping.default .table "TBL\nCOL: id\nIDX: i(id=up)\nNAME:\nCOL: ;type=int" =
    .error ((Error.definition (.unknownSortOrder "id" "up")).within
      (.readingLine "IDX: i(id=up)")) := rfl

end Object

end SchemaCompiler
