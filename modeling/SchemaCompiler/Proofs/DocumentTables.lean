import Mathlib.Algebra.GroupWithZero.Nat
import Mathlib.Data.List.Forall2
import SchemaCompiler.Output.Markdown
import SchemaCompiler.Proofs.Text

namespace SchemaCompiler

/-! # Tables of the documentation

A line of a table is read as cells between bars, and only a backslash before a bar keeps it from
parting two cells, also in code. Texts go into the cells as they are, so a line has a cell more for
every bar that a text brings along. Main statements:

* `Markdown.length_cells_rowText`: how many cells a line has;
* `Markdown.object_table`: the documentation of an object ends in a table with a line for each
  column, property or parameter, and the table is a rectangle exactly if no text brings a bar;
* `Markdown.parted_cell`: a default that is put together with `||` does bring some.
-/

/-- A piece stands in the joined text. -/
theorem Text.infix_join {sep : Text} {pieces : List Text} {p : Text} (h : p ∈ pieces) :
    p <:+: join sep pieces := by
  induction pieces with
  | nil => exact absurd h List.not_mem_nil
  | cons q qs ih =>
      rcases qs with _ | ⟨r, rs⟩
      · obtain rfl := List.mem_singleton.1 h
        exact List.infix_refl _
      · rcases List.mem_cons.1 h with rfl | h
        · exact ⟨[], sep ++ join sep (r :: rs), by simp [join]⟩
        · exact (ih h).trans ⟨q ++ sep, [], by simp [join]⟩

namespace Markdown

/-! ## Cells -/

/-- The parts of a text between the bars that no backslash precedes; `before` stands ahead of it. -/
def partsAfter (before : Char) : Text → List Text
  | [] => [[]]
  | c :: cs =>
    if c = '|' ∧ before ≠ '\\' then [] :: partsAfter c cs
    else (partsAfter c cs).modifyHead (c :: ·)

/-- The parts without a blank first one, which a bar at the edge of a line leaves. -/
def dropEdge : List Text → List Text
  | [] => []
  | p :: ps => if p.trim = [] then ps else p :: ps

/-- The cells of a line of a table: the parts between its bars, of which those at the two edges only
enclose them. -/
def cells (line : Text) : List Text := (dropEdge (dropEdge (partsAfter ' ' line)).reverse).reverse

/-- How many bars of a text no backslash precedes; `before` stands ahead of it. -/
def barsAfter (before : Char) (t : Text) : Nat :=
  (t.zip (before :: t)).countP fun (c, previous) => c == '|' && previous != '\\'

/-- How many bars of a text part a cell that it stands in. -/
def bars (t : Text) : Nat := barsAfter ' ' t

theorem barsAfter_cons (before c : Char) (cs : Text) :
    barsAfter before (c :: cs) = barsAfter c cs + if c = '|' ∧ before ≠ '\\' then 1 else 0 := by
  simp [barsAfter, List.countP_cons]

theorem barsAfter_eq_bars {before : Char} (h : before ≠ '\\') (t : Text) :
    barsAfter before t = bars t := by
  cases t with
  | nil => rfl
  | cons c cs =>
      rw [bars, barsAfter_cons, barsAfter_cons]
      simp [h]

theorem length_partsAfter (before : Char) (t : Text) :
    (partsAfter before t).length = barsAfter before t + 1 := by
  induction t generalizing before with
  | nil => rfl
  | cons c cs ih =>
      rw [barsAfter_cons, partsAfter]
      split
      · rw [List.length_cons, ih]
      · rw [List.length_modifyHead, ih]

/-- A character that is neither a bar nor a backslash keeps apart what stands around it. -/
theorem barsAfter_append_cons {c : Char} (hbar : c ≠ '|') (hslash : c ≠ '\\') (before : Char)
    (front back : Text) :
    barsAfter before (front ++ c :: back) = barsAfter before front + bars back := by
  induction front generalizing before with
  | nil =>
      rw [List.nil_append, barsAfter_cons, barsAfter_eq_bars hslash]
      simp [hbar, barsAfter]
  | cons d ds ih =>
      rw [List.cons_append, barsAfter_cons, barsAfter_cons, ih]
      omega

theorem bars_append_cons {c : Char} (hbar : c ≠ '|') (hslash : c ≠ '\\') (front back : Text) :
    bars (front ++ c :: back) = bars front + bars back :=
  barsAfter_append_cons hbar hslash ' ' front back

theorem bars_cons {c : Char} (hbar : c ≠ '|') (hslash : c ≠ '\\') (t : Text) :
    bars (c :: t) = bars t := by
  have h := bars_append_cons hbar hslash [] t
  rw [List.nil_append] at h
  rw [h]
  exact Nat.zero_add _

/-- A bar ahead of a text parts it from what stands before. -/
theorem bars_bar (t : Text) : bars ('|' :: t) = bars t + 1 := by
  rw [bars, barsAfter_cons, barsAfter_eq_bars (by decide)]
  simp

theorem partsAfter_ne_nil (before : Char) (t : Text) : partsAfter before t ≠ [] := by
  intro hnil
  have hlength := length_partsAfter before t
  rw [hnil] at hlength
  exact absurd hlength (Nat.succ_ne_zero _).symm

/-- A bar behind a blank parts off what stands behind it. -/
theorem partsAfter_closed (before : Char) (t : Text) :
    partsAfter before (t ++ " |") = partsAfter before (t ++ " ") ++ [[]] := by
  -- the blank is what stands ahead of the bar, whatever `t` ends in
  induction t generalizing before with
  | nil => rfl
  | cons c cs ih =>
      obtain ⟨p, ps, hparts⟩ := List.exists_cons_of_ne_nil (partsAfter_ne_nil c (cs ++ " "))
      rw [List.cons_append, List.cons_append, partsAfter, partsAfter, ih, hparts]
      split <;> rfl

/-- The bars of a line at its two edges enclose its cells. -/
theorem length_cells_enclosed (t : Text) : (cells ("|" ++ t ++ " |")).length = bars t + 1 := by
  have hline : partsAfter ' ' ("|" ++ t ++ " |") = [] :: (partsAfter '|' (t ++ " ") ++ [[]]) :=
    congrArg (List.cons []) (partsAfter_closed '|' t)
  have hcells : cells ("|" ++ t ++ " |") = partsAfter '|' (t ++ " ") := by
    rw [cells, hline]
    simp [dropEdge, Text.trim, Text.trimStart, Text.trimEnd]
  have hblank : barsAfter '|' (t ++ " ") = barsAfter '|' t :=
    barsAfter_append_cons (c := ' ') (by decide) (by decide) '|' t []
  rw [hcells, length_partsAfter, hblank, barsAfter_eq_bars (by decide)]

/-! ## Lines -/

/-- A line of a table without its end. -/
def rowText (texts : List Text) : Text := "| " ++ Text.join " | " texts ++ " |"

theorem bars_join {texts : List Text} (h : texts ≠ []) :
    bars (Text.join " | " texts) + 1 = texts.length + (texts.map bars).sum := by
  induction texts with
  | nil => exact absurd rfl h
  | cons t ts ih =>
      rcases ts with _ | ⟨u, us⟩
      · simp [Text.join, Nat.add_comm]
      · have hjoin : Text.join " | " (t :: u :: us) =
            t ++ ' ' :: '|' :: ' ' :: Text.join " | " (u :: us) := by simp [Text.join]
        have hrest := ih (List.cons_ne_nil u us)
        rw [hjoin, bars_append_cons (by decide) (by decide), bars_bar,
          bars_cons (by decide) (by decide), List.length_cons, List.map_cons, List.sum_cons]
        omega

/-- A line has a cell for each of its texts and one more for every bar in them. -/
theorem length_cells_rowText {texts : List Text} (h : texts ≠ []) :
    (cells (rowText texts)).length = texts.length + (texts.map bars).sum := by
  rw [← bars_join h, ← bars_cons (c := ' ') (by decide) (by decide)]
  exact length_cells_enclosed (' ' :: Text.join " | " texts)

/-- A cell shows some texts: it brings no bars but theirs, and stays on one line if they do. -/
structure Shows (texts : List Text) (cell : Text) : Prop where
  bars : Markdown.bars cell = (texts.map Markdown.bars).sum
  inline : (∀ t ∈ texts, '\n' ∉ t) → '\n' ∉ cell
  holds : ∀ t ∈ texts, t <:+: cell

theorem shows_code (t : Text) : Shows [t] (code t) where
  bars := by
    have hcode : code t = '`' :: (t ++ '`' :: []) := rfl
    rw [hcode, bars_cons (by decide) (by decide), bars_append_cons (by decide) (by decide)]
    simp [Markdown.bars, barsAfter]
  inline h := by simpa [code] using h t List.mem_cons_self
  holds s hs := by
    obtain rfl := List.mem_singleton.1 hs
    exact ⟨['`'], ['`'], rfl⟩

theorem shows_getD {alternative : Text} (h : Shows [] alternative) (t : Option Text) :
    Shows t.toList (t.getD alternative) := by
  cases t with
  | none => exact h
  | some t =>
      refine ⟨by simp, fun h => h t List.mem_cons_self, fun s hs => ?_⟩
      obtain rfl := List.mem_singleton.1 hs
      exact List.infix_refl _

/-- A fixed text without bars on one line shows no text. -/
theorem shows_fixed {cell : Text} (hbars : Markdown.bars cell = 0) (hline : '\n' ∉ cell) :
    Shows [] cell :=
  ⟨hbars, fun _ => hline, fun _ h => absurd h List.not_mem_nil⟩

/-- What a text shows, the cell around it shows. -/
theorem Shows.comp {texts : List Text} {t cell : Text} (h : Shows [t] cell) (ht : Shows texts t) :
    Shows texts cell where
  bars := by rw [h.bars, List.map_singleton, List.sum_singleton, ht.bars]
  inline htexts := h.inline (List.forall_mem_singleton.2 (ht.inline htexts))
  holds s hs := (ht.holds s hs).trans (h.holds t List.mem_cons_self)

/-- Cells show texts, each of them in one cell and in this order. -/
inductive InCells : List Text → List Text → Prop where
  | nil : InCells [] []
  | cons {texts others : List Text} {cell : Text} {cells : List Text} :
    Shows texts cell → InCells others cells → InCells (texts ++ others) (cell :: cells)

namespace InCells

variable {texts others cells cells' : List Text}

theorem append (h : InCells texts cells) (h' : InCells others cells') :
    InCells (texts ++ others) (cells ++ cells') := by
  induction h with
  | nil => exact h'
  | cons hcell _ ih =>
      rw [List.append_assoc]
      exact .cons hcell ih

theorem singleton {cell : Text} (h : Shows texts cell) : InCells texts [cell] := by
  have hcells := InCells.cons h .nil
  rwa [List.append_nil] at hcells

theorem sum_bars (h : InCells texts cells) : (cells.map bars).sum = (texts.map bars).sum := by
  induction h with
  | nil => rfl
  | cons hcell _ ih =>
      rw [List.map_cons, List.sum_cons, hcell.bars, ih, List.map_append, List.sum_append]

theorem inline (h : InCells texts cells) (htexts : ∀ t ∈ texts, '\n' ∉ t) :
    ∀ cell ∈ cells, '\n' ∉ cell := by
  induction h with
  | nil => exact fun _ h => absurd h List.not_mem_nil
  | cons hcell _ ih =>
      rw [List.forall_mem_append] at htexts
      exact List.forall_mem_cons.2 ⟨hcell.inline htexts.1, ih htexts.2⟩

theorem exists_mem (h : InCells texts cells) {t : Text} (ht : t ∈ texts) :
    ∃ cell ∈ cells, t <:+: cell := by
  induction h with
  | nil => exact absurd ht List.not_mem_nil
  | cons hcell _ ih =>
      rcases List.mem_append.1 ht with ht | ht
      · exact ⟨_, List.mem_cons_self, hcell.holds t ht⟩
      · obtain ⟨cell, hmem, hin⟩ := ih ht
        exact ⟨cell, List.mem_cons_of_mem _ hmem, hin⟩

end InCells

theorem bars_join_comma (notes : List Text) :
    bars (Text.join ", " notes) = (notes.map bars).sum := by
  induction notes with
  | nil => rfl
  | cons note notes ih =>
      rcases notes with _ | ⟨next, notes⟩
      · simp [Text.join]
      · have hjoin : Text.join ", " (note :: next :: notes) =
            note ++ ',' :: ' ' :: Text.join ", " (next :: notes) := by simp [Text.join]
        rw [hjoin, bars_append_cons (by decide) (by decide), bars_cons (by decide) (by decide), ih,
          List.map_cons (a := note), List.sum_cons]

/-- Notes one behind another show in one cell what each of them shows. -/
theorem InCells.join {texts notes : List Text} (h : InCells texts notes) :
    Shows texts (Text.join ", " notes) where
  bars := by rw [bars_join_comma, h.sum_bars]
  inline htexts := Text.not_mem_join (by decide) (h.inline htexts)
  holds t ht := by
    obtain ⟨note, hnote, hin⟩ := h.exists_mem ht
    exact hin.trans (Text.infix_join hnote)

/-! ## Entries -/

/-- What a table tells of one column, property or parameter. -/
structure Entry where
  name : Text
  /-- Its type, value, default or description, so far as the table tells of them. -/
  details : List Text

namespace Entry

/-- All texts of an entry. -/
def texts (e : Entry) : List Text := e.name :: e.details

/-- The bars that part cells in the line of an entry. -/
def bars (e : Entry) : Nat := (e.texts.map Markdown.bars).sum

end Entry

/-- The titles of the columns of a table about an object of a kind. -/
def header : ObjectKind → List Text
  | .table => ["Column", "Type", "Notes"]
  | .sequence => ["Name", "Value"]
  | .function => ["Parameter", "Type", "Notes"]

/-- What there is to list of an object: the columns of a table, the properties of a sequence that do
not document it, or the parameters of a function. -/
def entries : Object → List Entry
  | .table t => t.columns.map fun c => ⟨c.name, c.type :: c.default.toList⟩
  | .sequence s => (Properties.nonMeta s.properties).map fun p => ⟨p.1, p.2.toList⟩
  | .function f => f.params.map fun p => ⟨p.name, p.type :: p.description.toList⟩

/-- What stands ahead of the table: the heading and, for a function, its statement and a sentence
that leads over to its parameters. -/
def introduction : Object → Text
  | .table t => heading .table t.name t.properties
  | .sequence s => heading .sequence s.name s.properties
  | .function f =>
    heading .function f.name f.properties ++
      line "```" ++ line (Script.ofObject Sql.defaultSchema (.function f)).trimEnd ++
      line "```" ++ ['\n'] ++
      if f.params = [] then [] else line "The function parameters are explained below:" ++ ['\n']

/-- The rows of the table about an object. -/
def rows : Object → List (List Text)
  | .table t => t.columns.map (columnRow t)
  | .sequence s => (Properties.nonMeta s.properties).map propertyRow
  | .function f => f.params.map parameterRow

theorem object_eq (o : Object) : object o =
    introduction o ++ if rows o = [] then [] else tableBlock (header o.kind) (rows o) := by
  cases o with
  | table t => simp only [object, introduction, rows, header, Object.kind, List.map_eq_nil_iff]
  | sequence s => simp only [object, introduction, rows, header, Object.kind, List.map_eq_nil_iff]
  | function f =>
      simp only [object, introduction, rows, header, Object.kind, List.map_eq_nil_iff]
      split <;> simp

/-- A row tells of an entry: behind its name as code stand cells that show the rest of it. -/
structure RowOf (columns : Nat) (e : Entry) (row : List Text) : Prop where
  length : row.length = columns
  cells : ∃ others, row = code e.name :: others ∧ others ≠ [] ∧ InCells e.details others

theorem inCells_columnNotes (t : Table) (c : Column) :
    InCells c.default.toList (columnNotes t c) := by
  have hflag {note : Text} (hnote : Shows [] note) (b : Bool) :
      InCells [] (if b then [note] else []) := by
    cases b with
    | false => exact .nil
    | true => exact .singleton hnote
  have hdefault (value : Text) : InCells [value] ["`DEFAULT " ++ value ++ "`"] := by
    have hvalue : Shows [value] ("DEFAULT " ++ value) := by
      refine ⟨?_, fun h => ?_, fun s hs => ?_⟩
      · exact (bars_append_cons (c := ' ') (by decide) (by decide) "DEFAULT" value).trans
          (Nat.zero_add _)
      · simpa using h value List.mem_cons_self
      · obtain rfl := List.mem_singleton.1 hs
        exact (List.suffix_append _ _).isInfix
    exact .singleton ((shows_code _).comp hvalue)
  refine ((hflag (shows_fixed (by decide) (by decide)) c.notNull).append
    (hflag (shows_fixed (by decide) (by decide)) (t.inPrimaryKey c.name))).append
    (hflag (shows_fixed (by decide) (by decide)) (t.inUniqueKey c.name)) |>.append ?_
  cases c.default with
  | none => exact .nil
  | some value => exact hdefault value

theorem shows_columnNotes (t : Table) (c : Column) : Shows c.default.toList
    (if columnNotes t c = [] then "-" else Text.join ", " (columnNotes t c)) := by
  have hnotes := inCells_columnNotes t c
  split
  · rename_i hnone
    rw [hnone] at hnotes
    generalize hdefault : c.default.toList = texts at hnotes ⊢
    cases hnotes
    exact shows_fixed (by decide) (by decide)
  · exact hnotes.join

theorem rowOf_columnRow (t : Table) (c : Column) :
    RowOf 3 ⟨c.name, c.type :: c.default.toList⟩ (columnRow t c) :=
  ⟨rfl, _, rfl, List.cons_ne_nil _ _,
    .cons (shows_code c.type) (.singleton (shows_columnNotes t c))⟩

theorem rowOf_propertyRow (p : Text × Option Text) :
    RowOf 2 ⟨p.1, p.2.toList⟩ (propertyRow p) :=
  ⟨rfl, _, rfl, List.cons_ne_nil _ _, .singleton
    ((shows_code _).comp (shows_getD (shows_fixed (by decide) (by decide)) p.2))⟩

theorem rowOf_parameterRow (p : Parameter) :
    RowOf 3 ⟨p.name, p.type :: p.description.toList⟩ (parameterRow p) :=
  ⟨rfl, _, rfl, List.cons_ne_nil _ _, .cons (shows_code p.type) (.singleton
    (shows_getD (shows_fixed (by decide) (by decide)) p.description))⟩

/-- The rows of a table tell of the entries, one row of each and in their order. -/
theorem rowsOf_entries (o : Object) :
    List.Forall₂ (RowOf (header o.kind).length) (entries o) (rows o) := by
  cases o with
  | table t =>
      exact List.forall₂_map_left_iff.2 (List.forall₂_map_right_iff.2
        (List.forall₂_same.2 fun c _ => rowOf_columnRow t c))
  | sequence s =>
      exact List.forall₂_map_left_iff.2 (List.forall₂_map_right_iff.2
        (List.forall₂_same.2 fun p _ => rowOf_propertyRow p))
  | function f =>
      exact List.forall₂_map_left_iff.2 (List.forall₂_map_right_iff.2
        (List.forall₂_same.2 fun p _ => rowOf_parameterRow p))

/-! ## The table -/

/-- A line tells of an entry in a table of so many columns: it opens with the name, holds the other
texts, and is parted only by the bars of the table and those that the texts bring along. -/
structure Tells (columns : Nat) (e : Entry) (line : Text) : Prop where
  opens : ("| `" ++ e.name ++ "` | " : Text) <+: line
  holds : ∀ t ∈ e.details, t <:+: line
  length_cells : (cells line).length = columns + e.bars

namespace RowOf

variable {columns : Nat} {e : Entry} {row : List Text}

theorem inCells (h : RowOf columns e row) : InCells e.texts row := by
  obtain ⟨others, rfl, -, hothers⟩ := h.cells
  exact .cons (shows_code e.name) hothers

theorem tells (h : RowOf columns e row) : Tells columns e (rowText row) := by
  have hrow := h.inCells
  obtain ⟨hlength, others, rfl, hne, hothers⟩ := h
  refine ⟨?_, fun t ht => ?_, ?_⟩
  · obtain ⟨next, others, rfl⟩ := List.exists_cons_of_ne_nil hne
    exact ⟨Text.join " | " (next :: others) ++ " |", by simp [rowText, Text.join, code]⟩
  · obtain ⟨cell, hcell, hin⟩ := hothers.exists_mem ht
    have hjoin : cell <:+: Text.join " | " (code e.name :: others) :=
      Text.infix_join (List.mem_cons_of_mem _ hcell)
    exact (hin.trans hjoin).trans ⟨"| ", " |", rfl⟩
  · rw [length_cells_rowText (List.cons_ne_nil _ _), hlength, hrow.sum_bars]
    rfl

end RowOf

theorem newline_not_mem_rowText {row : List Text} (h : ∀ cell ∈ row, '\n' ∉ cell) :
    '\n' ∉ rowText row := by
  have hjoin : '\n' ∉ Text.join " | " row := Text.not_mem_join (by decide) h
  simpa [rowText] using hjoin

theorem rows_eq_nil_iff {o : Object} : rows o = [] ↔ entries o = [] := by
  rw [← List.length_eq_zero_iff, ← (rowsOf_entries o).length_eq, List.length_eq_zero_iff]

/-- The lines of a table: its header, a rule and its rows. -/
def tableLines (header : List Text) (rows : List (List Text)) : List Text :=
  rowText header :: rowText (header.map fun _ => "---") :: rows.map rowText

theorem tableBlock_eq (header : List Text) (rows : List (List Text)) :
    tableBlock header rows = Text.unlines (tableLines header rows) ++ ['\n'] := by
  have hrows : (rows.map rowText).flatMap (fun t => t ++ ['\n']) = rows.flatMap row :=
    List.flatMap_map ..
  rw [Text.unlines, tableLines, List.flatMap_cons, List.flatMap_cons, hrows, ← List.append_assoc]
  rfl

theorem newline_not_mem_of_rowsOf {columns : Nat} {es : List Entry} {rows : List (List Text)}
    (h : List.Forall₂ (RowOf columns) es rows) (htexts : ∀ e ∈ es, ∀ t ∈ e.texts, '\n' ∉ t) :
    ∀ line ∈ rows.map rowText, '\n' ∉ line := by
  induction h with
  | nil => exact fun _ h => absurd h List.not_mem_nil
  | cons hrow _ ih =>
      rw [List.forall_mem_cons] at htexts
      exact List.forall_mem_cons.2
        ⟨newline_not_mem_rowText (hrow.inCells.inline htexts.1), ih htexts.2⟩

theorem newline_not_mem_tableLines (kind : ObjectKind) {rows : List (List Text)}
    (h : ∀ line ∈ rows.map rowText, '\n' ∉ line) :
    ∀ line ∈ tableLines (header kind) rows, '\n' ∉ line := by
  have hheader : '\n' ∉ rowText (header kind) ∧
      '\n' ∉ rowText ((header kind).map fun _ => "---") := by cases kind <;> decide
  exact List.forall_mem_cons.2 ⟨hheader.1, List.forall_mem_cons.2 ⟨hheader.2, h⟩⟩

theorem forall_length_iff {columns : Nat} {es : List Entry} {lines : List Text}
    (h : List.Forall₂ (Tells columns) es lines) :
    (∀ line ∈ lines, (cells line).length = columns) ↔ ∀ e ∈ es, e.bars = 0 := by
  induction h with
  | nil => simp
  | cons htells _ ih => simp [htells.length_cells, ih]

/-- The documentation of an object ends in a table, if there is anything to list: behind a header
and a rule there is one line for each entry, in their order, if the texts of the entries have no
newlines. A line has a cell more than the header for every bar in the texts of its entry that no
backslash precedes, so that the table is a rectangle exactly if there are none. -/
theorem object_table {o : Object} (h : ∀ e ∈ entries o, ∀ t ∈ e.texts, '\n' ∉ t) :
    ∃ lines : List Text,
      object o = introduction o ++ (if lines = [] then [] else Text.unlines lines ++ ['\n']) ∧
      (∀ line ∈ lines, '\n' ∉ line) ∧
      (lines = [] ↔ entries o = []) ∧
      (entries o ≠ [] → ∃ head rule told, lines = head :: rule :: told ∧
        cells head = (header o.kind).map (fun title => (" " ++ title ++ " " : Text)) ∧
        (cells rule).length = (cells head).length ∧
        List.Forall₂ (Tells (cells head).length) (entries o) told) ∧
      ((∀ line ∈ lines, (cells line).length = (header o.kind).length) ↔
        ∀ e ∈ entries o, e.bars = 0) := by
  have hhead (kind : ObjectKind) : cells (rowText (header kind)) =
      (header kind).map (fun title => (" " ++ title ++ " " : Text)) := by cases kind <;> decide
  have hrule (kind : ObjectKind) : (cells (rowText ((header kind).map fun _ => "---"))).length =
      (cells (rowText (header kind))).length := by cases kind <;> decide
  have hcolumns : (cells (rowText (header o.kind))).length = (header o.kind).length := by
    rw [hhead, List.length_map]
  have htold : List.Forall₂ (Tells (header o.kind).length) (entries o) ((rows o).map rowText) :=
    List.forall₂_map_right_iff.2 ((rowsOf_entries o).imp fun _ _ h => h.tells)
  -- without rows there is no table at all, not even a header
  by_cases hnone : rows o = []
  · have hentries : entries o = [] := rows_eq_nil_iff.1 hnone
    refine ⟨[], ?_, by simp, by simp [hentries], fun hsome => absurd hentries hsome, ?_⟩
    · rw [object_eq, if_pos hnone, if_pos rfl]
    · simp [hentries]
  · have hentries : entries o ≠ [] := fun h => hnone (rows_eq_nil_iff.2 h)
    have hlines : tableLines (header o.kind) (rows o) ≠ [] := List.cons_ne_nil _ _
    refine ⟨tableLines (header o.kind) (rows o), ?_,
      newline_not_mem_tableLines _ (newline_not_mem_of_rowsOf (rowsOf_entries o) h),
      iff_of_false hlines hentries, fun _ => ⟨_, _, _, rfl, hhead _, hrule _, ?_⟩, ?_⟩
    · rw [object_eq, if_neg hnone, if_neg hlines, tableBlock_eq]
    · rwa [hcolumns]
    · rw [tableLines, List.forall_mem_cons, List.forall_mem_cons, hrule, hcolumns,
        forall_length_iff htold]
      simp

/-- A function with a bar in one description, and a bar behind a backslash in the other. -/
def convert : Function where
  name := "convert"
  properties := OrderedMap.empty
  params := [⟨"amount", "numeric(10,2)", .inward, none, some "net | gross"⟩,
    ⟨"mode", "text", .inward, some "up", some "up \\| down"⟩]
  returns := Return.default
  body := "select 1;"

theorem object_table_convert :
    (∀ e ∈ entries (.function convert), ∀ t ∈ e.texts, '\n' ∉ t) ∧
      ∃ head rule amount mode : Text,
        object (.function convert) = introduction (.function convert) ++
          (Text.unlines [head, rule, amount, mode] ++ ['\n']) ∧
        cells head = ([" Parameter ", " Type ", " Notes "] : List Text) ∧
        ("| `amount` | " : Text) <+: amount ∧ (cells amount).length = 4 ∧
        ("| `mode` | " : Text) <+: mode ∧ (cells mode).length = 3 := by
  have hsingle : ∀ e ∈ entries (.function convert), ∀ t ∈ e.texts, '\n' ∉ t := by decide
  obtain ⟨lines, hobject, -, -, htable, -⟩ := object_table hsingle
  obtain ⟨head, rule, told, rfl, hhead, -, htold⟩ := htable (List.cons_ne_nil _ _)
  rcases htold with _ | ⟨hamount, _ | ⟨hmode, _ | _⟩⟩
  refine ⟨hsingle, head, rule, _, _, hobject, hhead, hamount.opens, ?_, hmode.opens, ?_⟩
  · rw [hamount.length_cells, hhead]
    rfl
  · rw [hmode.length_cells, hhead]
    rfl

/-- A table with a default that is put together from two texts. -/
def labels : Table where
  name := "labels"
  properties := OrderedMap.empty
  columns := [⟨"label", "text", false, some "'a' || 'b'", none⟩]
  primaryKey := none
  uniqueKeys := []
  indexes := []

/-- The default parts its cell into three. -/
theorem parted_cell :
    (∀ e ∈ entries (.table labels), ∀ t ∈ e.texts, '\n' ∉ t) ∧
      object (.table labels) = introduction (.table labels) ++ (Text.unlines
        ["| Column | Type | Notes |", "| --- | --- | --- |",
          "| `label` | `text` | `DEFAULT 'a' || 'b'` |"] ++ ['\n']) ∧
      (cells "| Column | Type | Notes |").length = 3 ∧
      (cells "| `label` | `text` | `DEFAULT 'a' || 'b'` |").length = 5 :=
  ⟨by decide, rfl, by decide, by decide⟩

end Markdown

end SchemaCompiler
