import Mathlib.Algebra.GroupWithZero.Nat
import Mathlib.Data.List.Forall2
import SchemaCompiler.Grid
import SchemaCompiler.Proofs.DisplayWidth
import SchemaCompiler.Proofs.Text

namespace SchemaCompiler

/-! # Grids are rectangles

A grid is measured in columns of a terminal, whose number is a parameter: all that counts is that
the characters of its frame take one column each and keep apart what stands around them, which holds
of the columns of a terminal as well as of every sum over characters. Main statements:

* `Grid.isWidth_ofText`, `Grid.isWidth_of_additive`: measures of this kind;
* `Grid.widths_eq`: the widths of the columns are those of their widest texts;
* `Grid.showsRow_rowLines`: the lines of a row show the lines of its cells;
* `Grid.render_rectangular`: all lines of a grid are equally wide, and no text is cut or lost.
-/

namespace Grid

variable {measure : Text → Nat}

/-! ## Measures -/

/-- The characters of which a grid is made, apart from its texts. -/
def frame : List Char := [' ', '|', '+', '-']

/-- A measure of columns by which a character of the frame takes one column wherever it stands, in
addition to those of the parts around it. -/
structure IsWidth (measure : Text → Nat) : Prop where
  nil : measure [] = 0
  append_cons : ∀ c ∈ frame, ∀ front back : Text,
    measure (front ++ c :: back) = measure front + 1 + measure back

/-- A measure that adds up over the parts of a text is one, if it counts one for every character of
the frame. -/
theorem isWidth_of_additive (hadd : ∀ a b, measure (a ++ b) = measure a + measure b)
    (hone : ∀ c ∈ frame, measure [c] = 1) : IsWidth measure where
  nil := by
    have hnil := hadd [] []
    rw [List.append_nil] at hnil
    omega
  append_cons c hc front back := by
    have hcons : c :: back = [c] ++ back := rfl
    rw [hadd, hcons, hadd, hone c hc, Nat.add_assoc]

/-- The columns of a terminal are one, though characters may join and control sequences take no
room. -/
theorem isWidth_ofText : IsWidth Width.ofText where
  nil := rfl
  append_cons _ hc front back := (Width.standsApart_of_mem hc).ofText_append_cons front back

namespace IsWidth

variable (h : IsWidth measure) {c : Char} (hc : c ∈ frame)

include h hc

theorem cons (t : Text) : measure (c :: t) = 1 + measure t := by
  have happend := h.append_cons c hc [] t
  rwa [List.nil_append, h.nil, Nat.zero_add] at happend

theorem append_replicate (t : Text) (n : Nat) :
    measure (t ++ List.replicate n c) = measure t + n := by
  induction n with
  | zero => rw [List.replicate_zero, List.append_nil, Nat.add_zero]
  | succ n ih =>
      have hlast : t ++ List.replicate (n + 1) c = (t ++ List.replicate n c) ++ c :: [] := by
        rw [List.replicate_succ', List.append_assoc]
      rw [hlast, h.append_cons c hc, ih, h.nil]
      omega

end IsWidth

/-! ## Columns -/

/-- The texts of a column: its header, and the lines of its cells. -/
def columnTexts (grid : Grid) (j : Nat) : List Text :=
  grid.header[j]?.toList ++ grid.rows.flatMap fun row => Text.lines (row[j]?.getD [])

/-- The width of the widest text of a column. -/
def columnWidth (measure : Text → Nat) (grid : Grid) (j : Nat) : Nat :=
  ((grid.columnTexts j).map measure).foldr max 0

/-- The width of the widest text of every column. -/
def columnWidths (measure : Text → Nat) (grid : Grid) : List Nat :=
  (List.range grid.header.length).map (grid.columnWidth measure)

theorem foldl_max {α : Type} (f : α → Nat) (least : Nat) (xs : List α) :
    xs.foldl (fun n x => max n (f x)) least = max least ((xs.map f).foldr max 0) := by
  induction xs generalizing least with
  | nil => exact (Nat.max_zero least).symm
  | cons x xs ih => rw [List.foldl_cons, ih, List.map_cons, List.foldr_cons, Nat.max_assoc]

theorem widest_eq (least : Nat) (texts : List Text) :
    widest measure least texts = max least ((texts.map measure).foldr max 0) :=
  foldl_max measure least texts

theorem widest_append (least : Nat) (texts others : List Text) :
    widest measure least (texts ++ others) = widest measure (widest measure least texts) others :=
  List.foldl_append

/-- A row raises each width by the cell in its column. -/
theorem getElem?_raiseWidths (widths : List Nat) (row : List Text) (j : Nat) :
    (raiseWidths measure widths row)[j]? =
      widths[j]?.map fun width => widest measure width (Text.lines (row[j]?.getD [])) := by
  induction widths generalizing row j with
  | nil => cases row <;> rfl
  | cons width widths ih =>
      cases row with
      | nil =>
          have hkeep (width : Nat) : widest measure width (Text.lines []) = width := rfl
          simp [raiseWidths, hkeep]
      | cons cell cells =>
          cases j with
          | zero => rfl
          | succ j => simpa [raiseWidths] using ih cells j

theorem getElem?_foldl_raiseWidths (widths : List Nat) (rows : List (List Text)) (j : Nat) :
    (rows.foldl (raiseWidths measure) widths)[j]? = widths[j]?.map fun width =>
      widest measure width (rows.flatMap fun row => Text.lines (row[j]?.getD [])) := by
  induction rows generalizing widths with
  | nil =>
      have hkeep (width : Nat) : widest measure width [] = width := rfl
      simp [hkeep]
  | cons row rows ih =>
      rw [List.foldl_cons, ih, getElem?_raiseWidths, Option.map_map]
      simp only [Function.comp_def, List.flatMap_cons, widest_append]

/-- The widths of a grid are those of the widest texts. -/
theorem widths_eq (grid : Grid) : grid.widths measure = grid.columnWidths measure := by
  -- column by column, as rows may be shorter than the header
  apply List.ext_getElem?
  intro j
  rw [widths, getElem?_foldl_raiseWidths, columnWidths, List.getElem?_map, List.getElem?_map]
  by_cases hj : j < grid.header.length
  · have htexts : grid.header[j]? = some grid.header[j] := List.getElem?_eq_getElem hj
    rw [htexts, List.getElem?_range hj]
    simp [columnWidth, columnTexts, htexts, widest_eq]
  · have hnone : grid.header[j]? = none := List.getElem?_eq_none (Nat.le_of_not_lt hj)
    rw [hnone, List.getElem?_eq_none (by simpa using Nat.le_of_not_lt hj)]
    rfl

theorem le_foldr_max {ns : List Nat} {n : Nat} (h : n ∈ ns) : n ≤ ns.foldr max 0 := by
  induction ns with
  | nil => exact absurd h List.not_mem_nil
  | cons m ms ih =>
      rw [List.foldr_cons]
      rcases List.mem_cons.1 h with rfl | h
      · exact Nat.le_max_left _ _
      · exact Nat.le_trans (ih h) (Nat.le_max_right _ _)

theorem foldr_max_le {ns : List Nat} {bound : Nat} (h : ∀ n ∈ ns, n ≤ bound) :
    ns.foldr max 0 ≤ bound := by
  induction ns with
  | nil => exact Nat.zero_le _
  | cons m ms ih =>
      rw [List.forall_mem_cons] at h
      exact Nat.max_le.2 ⟨h.1, ih h.2⟩

theorem measure_le_columnWidth {grid : Grid} {j : Nat} {t : Text} (h : t ∈ grid.columnTexts j) :
    measure t ≤ grid.columnWidth measure j :=
  le_foldr_max (List.mem_map_of_mem h)

/-! ## Lines -/

/-- A line shows texts in columns of these widths: each text stands behind a bar and a blank, and is
followed by the blanks that fill up its column and one more. -/
inductive ShowsIn (measure : Text → Nat) : List Nat → List Text → Text → Prop where
  | edge : ShowsIn measure [] [] ['|']
  | cell {width : Nat} {widths : List Nat} {t line : Text} {texts : List Text} (blanks : Nat) :
    measure t + blanks = width → ShowsIn measure widths texts line →
    ShowsIn measure (width :: widths) (t :: texts)
      ('|' :: ' ' :: t ++ List.replicate blanks ' ' ++ ' ' :: line)

/-- The width of every line of a grid with columns of these widths. -/
def lineWidth (widths : List Nat) : Nat := 1 + (widths.map (· + 3)).sum

namespace ShowsIn

variable {widths : List Nat} {texts : List Text} {line : Text}

theorem measure_eq (hm : IsWidth measure) (h : ShowsIn measure widths texts line) :
    measure line = lineWidth widths := by
  have hbar : '|' ∈ frame := by decide
  have hblank : ' ' ∈ frame := by decide
  induction h with
  | edge => rw [hm.cons hbar, hm.nil]; rfl
  | cell blanks hwidth _ ih =>
      rw [hm.append_cons _ hblank, List.cons_append, List.cons_append, hm.cons hbar, hm.cons hblank,
        hm.append_replicate hblank, ih]
      simp only [lineWidth, List.map_cons, List.sum_cons]
      omega

theorem newline_not_mem (h : ShowsIn measure widths texts line) (htexts : ∀ t ∈ texts, '\n' ∉ t) :
    '\n' ∉ line := by
  induction h with
  | edge => decide
  | cell blanks _ _ ih =>
      rw [List.forall_mem_cons] at htexts
      simp [htexts.1, ih htexts.2]

theorem getLast?_eq (h : ShowsIn measure widths texts line) : line.getLast? = some '|' := by
  induction h with
  | edge => rfl
  | cell blanks _ _ ih => simp [List.getLast?_append, List.getLast?_cons, ih]

end ShowsIn

theorem showsIn_rowLine (hm : IsWidth measure) {cells : List (List Text)} {widths : List Nat}
    (h : List.Forall₂ (fun lines width => ∀ t ∈ lines, measure t ≤ width) cells widths) (i : Nat) :
    ShowsIn measure widths (cells.map fun lines => lines[i]?.getD [])
      (rowLine measure widths cells i) := by
  induction h with
  | nil => exact .edge
  | @cons lines width cells widths hfits _ ih =>
      have hfit : measure (lines[i]?.getD []) ≤ width := by
        cases hline : lines[i]? with
        | none => exact hm.nil ▸ Nat.zero_le _
        | some t => exact hfits t (List.mem_of_getElem? hline)
      have hline : rowLine measure (width :: widths) (lines :: cells) i =
          '|' :: ' ' :: (lines[i]?.getD []) ++
            List.replicate (width - measure (lines[i]?.getD [])) ' ' ++
              ' ' :: rowLine measure widths cells i := by
        simp [rowLine, pad]
      rw [List.map_cons, hline]
      exact .cell _ (Nat.add_sub_of_le hfit) ih

/-! ## Borders -/

theorem measure_border (hm : IsWidth measure) (widths : List Nat) :
    measure (border widths) = lineWidth widths := by
  have hplus : '+' ∈ frame := by decide
  have hminus : '-' ∈ frame := by decide
  have hcolumns : measure (widths.flatMap fun width => List.replicate (width + 2) '-' ++ ['+']) =
      (widths.map (· + 3)).sum := by
    induction widths with
    | nil => exact hm.nil
    | cons width widths ih =>
        have hrule := hm.append_replicate hminus [] (width + 2)
        rw [List.nil_append, hm.nil] at hrule
        rw [List.flatMap_cons, List.append_assoc, List.singleton_append, hm.append_cons _ hplus, ih,
          hrule, List.map_cons, List.sum_cons]
        omega
  rw [border, hm.cons hplus, hcolumns, lineWidth]

theorem mem_border {widths : List Nat} {c : Char} (h : c ∈ border widths) : c = '+' ∨ c = '-' := by
  simp only [border, List.mem_cons, List.mem_flatMap, List.mem_append, List.mem_replicate,
    List.not_mem_nil, or_false] at h
  tauto

/-! ## Rows -/

/-- The largest number of lines in a cell of a row, but at least one. -/
def rowHeight (row : List Text) : Nat :=
  max 1 ((row.map fun cell => cell.lines.length).foldr max 0)

theorem height_eq (row : List Text) : height (row.map Text.lines) = rowHeight row := by
  rw [height, foldl_max, Nat.zero_max, List.map_map, rowHeight]
  rfl

/-- The lines of a row show in order the lines of its cells: each line those of its number, and
nothing where a cell has fewer. -/
structure ShowsRow (measure : Text → Nat) (widths : List Nat) (row block : List Text) : Prop where
  length : block.length = rowHeight row
  showsIn : ∀ (i : Nat) (line : Text), block[i]? = some line →
    ShowsIn measure widths (row.map fun cell => cell.lines[i]?.getD []) line

/-- The lines of a cell find room in its column. -/
def Fits (measure : Text → Nat) (cell : Text) (width : Nat) : Prop :=
  ∀ t ∈ cell.lines, measure t ≤ width

theorem showsRow_rowLines (hm : IsWidth measure) {row : List Text} {widths : List Nat}
    (h : List.Forall₂ (Fits measure) row widths) :
    ShowsRow measure widths row (rowLines measure widths row) := by
  have hcells : List.Forall₂ (fun lines width => ∀ t ∈ lines, measure t ≤ width)
      (row.map Text.lines) widths := List.forall₂_map_left_iff.2 h
  refine ⟨?_, fun i line hline => ?_⟩
  · rw [rowLines, List.length_map, List.length_range, height_eq]
  · rw [rowLines, List.getElem?_map, Option.map_eq_some_iff] at hline
    obtain ⟨k, hk, rfl⟩ := hline
    obtain ⟨-, rfl⟩ := List.getElem?_eq_some_iff.1 hk
    rw [List.getElem_range]
    have hshows := showsIn_rowLine hm hcells i
    rwa [List.map_map] at hshows

theorem length_flatten_of_showsRow {widths : List Nat} {rows blocks : List (List Text)}
    (h : List.Forall₂ (ShowsRow measure widths) rows blocks) :
    blocks.flatten.length = (rows.map rowHeight).sum := by
  induction h with
  | nil => rfl
  | cons hrow _ ih =>
      rw [List.flatten_cons, List.length_append, hrow.length, ih, List.map_cons, List.sum_cons]

/-! ## The grid -/

theorem length_columnWidths (grid : Grid) :
    (grid.columnWidths measure).length = grid.header.length := by
  rw [columnWidths, List.length_map, List.length_range]

theorem fits_of_mem {grid : Grid} {row : List Text} (hrow : row ∈ grid.rows)
    (hlength : row.length = grid.header.length) :
    List.Forall₂ (Fits measure) row (grid.columnWidths measure) := by
  refine List.forall₂_iff_get.2 ⟨hlength.trans (length_columnWidths grid).symm, ?_⟩
  intro j hj _ t ht
  simp only [columnWidths, List.get_eq_getElem, List.getElem_map, List.getElem_range]
  refine measure_le_columnWidth (List.mem_append_right _ (List.mem_flatMap.2 ⟨row, hrow, ?_⟩))
  rwa [List.getElem?_eq_getElem hj]

theorem fits_header {grid : Grid} (h : ∀ t ∈ grid.header, '\n' ∉ t) :
    List.Forall₂ (Fits measure) grid.header (grid.columnWidths measure) := by
  refine List.forall₂_iff_get.2 ⟨(length_columnWidths grid).symm, ?_⟩
  intro j hj _ t ht
  simp only [columnWidths, List.get_eq_getElem, List.getElem_map, List.getElem_range] at ht ⊢
  rw [Text.lines_of_not_mem (h _ (List.getElem_mem hj))] at ht
  split at ht
  · exact absurd ht List.not_mem_nil
  · rw [List.mem_singleton.1 ht]
    refine measure_le_columnWidth (List.mem_append_left _ ?_)
    rw [List.getElem?_eq_getElem hj]
    exact List.mem_singleton_self _

/-- The header of a grid stands on one line, which shows it whole. -/
theorem exists_head (hm : IsWidth measure) {grid : Grid} (h : ∀ t ∈ grid.header, '\n' ∉ t) :
    ∃ head, rowLines measure (grid.columnWidths measure) grid.header = [head] ∧
      ShowsIn measure (grid.columnWidths measure) grid.header head := by
  have hrow := showsRow_rowLines hm (fits_header h)
  -- a text without newlines is its own and only line, unless it is empty and has none
  have hheight : rowHeight grid.header = 1 := by
    refine Nat.max_eq_left (foldr_max_le fun n hn => ?_)
    obtain ⟨cell, hcell, rfl⟩ := List.mem_map.1 hn
    rw [Text.lines_of_not_mem (h cell hcell)]
    split
    · exact Nat.zero_le _
    · exact Nat.le_refl _
  obtain ⟨head, hhead⟩ := List.length_eq_one_iff.1 (hrow.length.trans hheight)
  have hshows := hrow.showsIn 0 head (by rw [hhead]; rfl)
  have hwhole : grid.header.map (fun cell => (Text.lines cell)[0]?.getD []) = grid.header := by
    refine (List.map_congr_left fun cell hcell => ?_).trans (List.map_id _)
    rw [Text.lines_of_not_mem (h cell hcell)]
    split
    · rename_i hnil
      exact hnil.symm
    · rfl
  rw [hwhole] at hshows
  exact ⟨head, hhead, hshows⟩

/-- The lines of a grid: its header between borders, the lines of its rows, and a border behind them
if there are any. -/
theorem exists_renderLines (hm : IsWidth measure) {grid : Grid}
    (hheader : ∀ t ∈ grid.header, '\n' ∉ t)
    (hrows : ∀ row ∈ grid.rows, row.length = grid.header.length) :
    ∃ head blocks, grid.renderLines measure =
        border (grid.columnWidths measure) :: head :: border (grid.columnWidths measure) ::
          (blocks.flatten ++ if grid.rows = [] then [] else [border (grid.columnWidths measure)]) ∧
      ShowsIn measure (grid.columnWidths measure) grid.header head ∧
      List.Forall₂ (ShowsRow measure (grid.columnWidths measure)) grid.rows blocks := by
  obtain ⟨head, hhead, hshows⟩ := exists_head hm hheader
  refine ⟨head, grid.rows.map (rowLines measure (grid.columnWidths measure)), ?_, hshows, ?_⟩
  · rw [renderLines, widths_eq, hhead, List.flatMap_def]
    rfl
  · refine List.forall₂_map_right_iff.2 (List.forall₂_same.2 fun row hrow => ?_)
    exact showsRow_rowLines hm (fits_of_mem hrow (hrows row hrow))

/-- A line that shows texts of one line each, or a border. -/
inductive IsLine (measure : Text → Nat) (widths : List Nat) : Text → Prop where
  | border : IsLine measure widths (border widths)
  | row {texts : List Text} {line : Text} : (∀ t ∈ texts, '\n' ∉ t) →
    ShowsIn measure widths texts line → IsLine measure widths line

namespace IsLine

variable {widths : List Nat} {line : Text}

theorem measure_eq (hm : IsWidth measure) (h : IsLine measure widths line) :
    measure line = lineWidth widths := by
  cases h with
  | border => exact measure_border hm widths
  | row _ hshows => exact hshows.measure_eq hm

theorem newline_not_mem (h : IsLine measure widths line) : '\n' ∉ line := by
  cases h with
  | border => exact fun hmem => (mem_border hmem).elim (by decide) (by decide)
  | row htexts hshows => exact hshows.newline_not_mem htexts

theorem getLast?_ne (h : IsLine measure widths line) : line.getLast? ≠ some '\r' := by
  intro hlast
  cases h with
  | border => exact (mem_border (List.mem_of_getLast? hlast)).elim (by decide) (by decide)
  | row _ hshows =>
      rw [hshows.getLast?_eq] at hlast
      exact absurd hlast (by decide)

end IsLine

theorem ShowsRow.isLine {widths : List Nat} {row block : List Text}
    (h : ShowsRow measure widths row block) : ∀ line ∈ block, IsLine measure widths line := by
  intro line hline
  obtain ⟨i, hi⟩ := List.mem_iff_getElem?.1 hline
  refine .row (List.forall_mem_map.2 fun cell _ => ?_) (h.showsIn i line hi)
  cases ht : (Text.lines cell)[i]? with
  | none => exact List.not_mem_nil
  | some t => exact Text.not_mem_of_mem_lines (List.mem_of_getElem? ht)

theorem isLine_of_showsRow {widths : List Nat} {rows blocks : List (List Text)}
    (h : List.Forall₂ (ShowsRow measure widths) rows blocks) :
    ∀ line ∈ blocks.flatten, IsLine measure widths line := by
  induction h with
  | nil => exact fun _ h => absurd h List.not_mem_nil
  | cons hrow _ ih => exact List.forall_mem_append.2 ⟨hrow.isLine, ih⟩

theorem isLine_of_mem (hm : IsWidth measure) {grid : Grid}
    (hheader : ∀ t ∈ grid.header, '\n' ∉ t)
    (hrows : ∀ row ∈ grid.rows, row.length = grid.header.length) :
    ∀ line ∈ grid.renderLines measure, IsLine measure (grid.columnWidths measure) line := by
  obtain ⟨head, blocks, hlines, hhead, hblocks⟩ := exists_renderLines hm hheader hrows
  rw [hlines]
  refine List.forall_mem_cons.2 ⟨.border, List.forall_mem_cons.2 ⟨.row hheader hhead,
    List.forall_mem_cons.2 ⟨.border, List.forall_mem_append.2 ⟨isLine_of_showsRow hblocks, ?_⟩⟩⟩⟩
  split
  · exact fun _ h => absurd h List.not_mem_nil
  · exact List.forall_mem_singleton.2 .border

/-- A grid whose header has no newlines and whose rows have a cell for each column is a rectangle:
its lines are all as wide as its columns with their frame, each of which is as wide as its widest
text. Between borders it shows the header, and every row on as many lines as its highest cell has,
the lines of all cells side by side, each in its column and followed by nothing but blanks. -/
theorem render_rectangular (hm : IsWidth measure) {grid : Grid}
    (hheader : ∀ t ∈ grid.header, '\n' ∉ t)
    (hrows : ∀ row ∈ grid.rows, row.length = grid.header.length) :
    grid.render measure = Text.unlines (grid.render measure).lines ∧
      (∀ line ∈ (grid.render measure).lines,
        measure line = 1 + ((grid.columnWidths measure).map (· + 3)).sum) ∧
      (grid.render measure).lines.length =
        3 + (grid.rows.map rowHeight).sum + (if grid.rows = [] then 0 else 1) ∧
      ∃ rule head blocks, (grid.render measure).lines =
          rule :: head :: rule :: (blocks.flatten ++ if grid.rows = [] then [] else [rule]) ∧
        ShowsIn measure (grid.columnWidths measure) grid.header head ∧
        List.Forall₂ (ShowsRow measure (grid.columnWidths measure)) grid.rows blocks := by
  obtain ⟨head, blocks, hlines, hhead, hblocks⟩ := exists_renderLines hm hheader hrows
  have hall := isLine_of_mem hm hheader hrows
  have hrender : (grid.render measure).lines = grid.renderLines measure :=
    Text.lines_unlines (fun line h => (hall line h).newline_not_mem)
      (fun line h => (hall line h).getLast?_ne)
  -- the lines that are read back from the grid are those that it was made of
  rw [hrender]
  refine ⟨rfl, fun line h => (hall line h).measure_eq hm, ?_, _, head, blocks, hlines, hhead,
    hblocks⟩
  rw [hlines, List.length_cons, List.length_cons, List.length_cons, List.length_append,
    length_flatten_of_showsRow hblocks]
  split
  · simp only [List.length_nil]
    omega
  · simp only [List.length_singleton]
    omega

/-- A grid with a cell of two lines, an empty one, and one in colour. -/
def indexes : Grid where
  header := ["Name", "Columns"]
  rows := [["ix", "a: ASC\nlonger_b: DESC"], ["", "\x1b[1mid\x1b[0m"]]

theorem render_rectangular_indexes :
    IsWidth Width.ofText ∧ (∀ t ∈ indexes.header, '\n' ∉ t) ∧
      (∀ row ∈ indexes.rows, row.length = indexes.header.length) ∧
      (∀ line ∈ (indexes.render Width.ofText).lines, Width.ofText line = 25) ∧
      (indexes.render Width.ofText).lines.length = 7 := by
  have hheader : ∀ t ∈ indexes.header, '\n' ∉ t := by decide
  have hrows : ∀ row ∈ indexes.rows, row.length = indexes.header.length := by decide
  have hwidths : indexes.columnWidths Width.ofText = [4, 14] := by decide +kernel
  have hheights : (indexes.rows.map rowHeight).sum = 3 := by decide
  obtain ⟨-, hwidth, hlength, -⟩ := render_rectangular isWidth_ofText hheader hrows
  rw [hwidths] at hwidth
  rw [hheights] at hlength
  exact ⟨isWidth_ofText, hheader, hrows, hwidth, hlength⟩

end Grid

end SchemaCompiler
