import Mathlib.Data.List.Basic
import SchemaCompiler.Proofs.Delimited
import SchemaCompiler.Proofs.OrderedMap
import SchemaCompiler.Sql.Script

namespace SchemaCompiler

/-! # Statements read back

A statement on a table is read back from its text, whatever stands behind it: plain names end where
a character comes that they do not hold, a column ends with its line, and its default stands behind
the one `DEFAULT` in it. Main statements:

* `Sql.column_inj`, `Sql.columns_append_inj`: columns come back from their lines;
* `Statement.write_append_inj`: a statement comes back from its text, and so does what follows it;
* `Statement.mark_absent`: what ends a statement in a script does not come up inside it.
-/

/-! ## Plain names -/

namespace Text

/-- The characters of plain names. -/
def inWord (c : Char) : Bool := c.isAlphanum || c == '_'

/-- A plain name: ASCII letters, digits and underscores, one at least. -/
def Word (t : Text) : Prop := t ≠ [] ∧ ∀ c ∈ t, inWord c = true

instance : DecidablePred Word := fun _ => @instDecidableAnd _ _ _ (List.decidableBAll _ _)

theorem Word.not_mem {t : Text} {c : Char} (h : Word t) (hc : inWord c = false) : c ∉ t := by
  intro hmem
  have hin : inWord c = true := h.2 c hmem
  rw [hc] at hin
  contradiction

/-- Plain names end where a character of no name comes. -/
theorem Word.append_inj {a b r s : Text} {stop : Char} (ha : Word a) (hb : Word b)
    (hstop : inWord stop = false) (h : a ++ stop :: r = b ++ stop :: s) : a = b ∧ r = s :=
  append_stop_inj (ha.not_mem hstop) (hb.not_mem hstop) h

end Text

open Text

/-! ## Columns -/

/-- A type or a default that fits into a column: one line, without the keywords of other parts. -/
def Sql.Fits (t : Text) : Prop :=
  '\n' ∉ t ∧ ¬"DEFAULT".toList <:+: t ∧ ¬"NOT NULL".toList <:+: t

instance : DecidablePred Sql.Fits := fun _ => instDecidableAnd

/-- A column whose name is plain and whose type and default fit. -/
def Column.Plain (c : Column) : Prop :=
  Word c.name ∧ Sql.Fits c.type ∧ ∀ d ∈ c.default, Sql.Fits d

instance : DecidablePred Column.Plain := fun _ =>
  @instDecidableAnd _ _ _ (@instDecidableAnd _ _ _ (Option.decidableForallMem _))

/-- What a statement says of a column: all but its description. -/
def Column.written (c : Column) : Column := { c with description := none }

namespace Sql

/-- The part of a column that says that it is never null. -/
def notNull (b : Bool) : Text := ((if b then " NOT NULL" else "") : String)

theorem column_eq (c : Column) :
    column c = c.name ++ ' ' :: (c.type ++ clause " DEFAULT " c.default ++ notNull c.notNull) := by
  unfold column notNull
  rw [List.append_assoc, List.append_assoc, List.append_assoc, ← List.append_assoc c.type]
  rfl

/-- A default clause brings no `NOT NULL` with it. -/
theorem notNull_absent {type : Text} {default : Option Text} (ht : Fits type)
    (hd : ∀ d ∈ default, Fits d) : ¬"NOT NULL".toList <:+: type ++ clause " DEFAULT " default := by
  intro h
  cases default with
  | none =>
      rw [show clause " DEFAULT " none = [] from rfl, List.append_nil] at h
      exact ht.2.2 h
  | some d =>
      have hcut : "NOT NULL".toList <:+: type ++ [' '] ++ 'D' :: ("EFAULT ".toList ++ d) := by
        rw [List.append_assoc]
        exact h
      rcases infix_append_cons (by decide) hcut with h | h
      · -- the blank behind the type is not the last letter of `NULL`
        rcases List.infix_concat_iff.1 h with h | h
        · obtain ⟨before, heq⟩ := h
          have hlast : some 'L' = some ' ' := by
            have hends := congrArg List.getLast? heq
            rw [List.getLast?_append, List.getLast?_append] at hends
            exact hends
          contradiction
        · exact ht.2.2 h
      · exact (hd d rfl).2.2 (infix_of_infix_append (by decide) h)

theorem notNull_inj {u v : Text} {a b : Bool} (hu : ¬"NOT NULL".toList <:+: u)
    (hv : ¬"NOT NULL".toList <:+: v) (h : u ++ notNull a = v ++ notNull b) : u = v ∧ a = b := by
  have hends : ∀ w : Text, "NOT NULL".toList <:+: w ++ notNull true := by
    intro w
    exact ⟨w ++ [' '], [], by rw [List.append_nil, List.append_assoc]; rfl⟩
  cases a <;> cases b
  · exact ⟨List.append_cancel_right h, rfl⟩
  · rw [show notNull false = [] from rfl, List.append_nil] at h
    exact absurd (h ▸ hends v) hu
  · rw [show notNull false = [] from rfl, List.append_nil] at h
    exact absurd (h ▸ hends u) hv
  · exact ⟨List.append_cancel_right h, rfl⟩

/-- A type ends where the `DEFAULT` behind it stands. -/
theorem default_inj {t₁ t₂ : Text} {d₁ d₂ : Option Text} (h₁ : Fits t₁) (h₂ : Fits t₂)
    (h : t₁ ++ clause " DEFAULT " d₁ = t₂ ++ clause " DEFAULT " d₂) : t₁ = t₂ ∧ d₁ = d₂ := by
  have hsome : ∀ t d : Text, t ++ clause " DEFAULT " (some d) =
      t ++ [' '] ++ 'D' :: ("EFAULT".toList ++ ' ' :: d) := by
    intro t d
    rw [List.append_assoc]
    rfl
  have hnone : ∀ t : Text, t ++ clause " DEFAULT " none = t := fun t => List.append_nil t
  have hin : ∀ t d : Text, "DEFAULT".toList <:+: t ++ clause " DEFAULT " (some d) := by
    intro t d
    refine ⟨t ++ [' '], ' ' :: d, ?_⟩
    rw [hsome, List.append_assoc]
    rfl
  cases d₁ with
  | none =>
      cases d₂ with
      | none =>
          rw [hnone, hnone] at h
          exact ⟨h, rfl⟩
      | some d =>
          rw [hnone] at h
          exact absurd (h ▸ hin t₂ d) h₁.2.1
  | some d =>
      cases d₂ with
      | none =>
          rw [hnone] at h
          exact absurd (h ▸ hin t₁ d) h₂.2.1
      | some e =>
          have hblank : ∀ t : Text, Fits t → ¬ 'D' :: "EFAULT".toList <:+: t ++ [' '] := by
            intro t ht hoccurs
            rcases infix_append_cons (by decide) hoccurs with hoccurs | hoccurs
            · exact ht.2.1 hoccurs
            · exact absurd hoccurs (by decide)
          rw [hsome, hsome] at h
          obtain ⟨hu, hv⟩ := append_pattern_inj (by decide) (hblank t₁ h₁) (hblank t₂ h₂) h
          rw [List.append_cancel_right hu, (List.cons.inj hv).2]
          exact ⟨rfl, rfl⟩

/-- A column comes back from its text. -/
theorem column_inj {c d : Column} (hc : c.Plain) (hd : d.Plain) (h : column c = column d) :
    c.written = d.written := by
  rw [column_eq, column_eq] at h
  obtain ⟨hname, hrest⟩ := hc.1.append_inj hd.1 (by decide) h
  obtain ⟨hclauses, hnull⟩ := notNull_inj (notNull_absent hc.2.1 hc.2.2)
    (notNull_absent hd.2.1 hd.2.2) hrest
  obtain ⟨htype, hdefault⟩ := default_inj hc.2.1 hd.2.1 hclauses
  unfold Column.written
  rw [hname, htype, hdefault, hnull]

/-- A column stands on one line. -/
theorem newline_not_mem_column {c : Column} (hc : c.Plain) : '\n' ∉ column c := by
  have hname : '\n' ∉ c.name := hc.1.not_mem (by decide)
  have hdefault : '\n' ∉ clause " DEFAULT " c.default := by
    cases hd : c.default with
    | none => exact List.not_mem_nil
    | some d =>
        have hfits : Fits d := hc.2.2 d hd
        have hkeyword : '\n' ∉ " DEFAULT ".toList := by decide
        exact fun hmem => (List.mem_append.1 hmem).elim hkeyword hfits.1
  have hnull : '\n' ∉ notNull c.notNull := by
    cases c.notNull <;> decide
  have htype : '\n' ∉ c.type := hc.2.1.1
  rw [column_eq]
  simp only [List.mem_append, List.mem_cons, not_or]
  exact ⟨hname, by decide, ⟨htype, hdefault⟩, hnull⟩

/-- The comma behind a column, unless it is the last. -/
def comma : List Column → Text
  | [] => []
  | _ :: _ => [',']

theorem comma_map (f : Column → Column) (cs : List Column) : comma (cs.map f) = comma cs := by
  cases cs <;> rfl

theorem columns_cons (c : Column) (cs : List Column) :
    columns (c :: cs) = '\t' :: (column c ++ comma cs) ++ '\n' :: columns cs := by
  cases cs with
  | nil => simp [columns, comma]
  | cons d ds => simp [columns, comma]

theorem newline_not_mem_line {c : Column} (hc : c.Plain) (cs : List Column) :
    '\n' ∉ '\t' :: (column c ++ comma cs) := by
  have hcolumn : '\n' ∉ column c := newline_not_mem_column hc
  have hcomma : '\n' ∉ comma cs := by
    cases cs <;> simp [comma]
  simp [hcolumn, hcomma]

/-- Columns come back from their lines; a line is the last one if the parenthesis follows. -/
theorem columns_append_inj {cs ds : List Column} {r s : Text} (hcs : ∀ c ∈ cs, c.Plain)
    (hds : ∀ d ∈ ds, d.Plain) (h : columns cs ++ ')' :: r = columns ds ++ ')' :: s) :
    cs.map Column.written = ds.map Column.written ∧ r = s := by
  induction cs generalizing ds with
  | nil =>
      cases ds with
      | nil => exact ⟨rfl, (List.cons.inj h).2⟩
      | cons d ds =>
          rw [columns_cons] at h
          exact absurd (List.cons.inj h).1 (by decide)
  | cons c cs ih =>
      cases ds with
      | nil =>
          rw [columns_cons] at h
          exact absurd (List.cons.inj h).1 (by decide)
      | cons d ds =>
          have hc : c.Plain := hcs c List.mem_cons_self
          have hd : d.Plain := hds d List.mem_cons_self
          rw [columns_cons, columns_cons, List.append_assoc, List.append_assoc] at h
          obtain ⟨hline, hrest⟩ := append_stop_inj (newline_not_mem_line hc cs)
            (newline_not_mem_line hd ds) h
          obtain ⟨hlater, hrs⟩ := ih (fun c hc => hcs c (List.mem_cons_of_mem _ hc))
            (fun d hd => hds d (List.mem_cons_of_mem _ hd)) hrest
          -- as many columns follow on both sides, so both lines end with a comma or neither
          have hcomma : comma cs = comma ds := by
            rw [← comma_map Column.written cs, hlater, comma_map]
          rw [hcomma] at hline
          have hcolumn : column c = column d := List.append_cancel_right (List.cons.inj hline).2
          rw [List.map_cons, List.map_cons, column_inj hc hd hcolumn, hlater]
          exact ⟨rfl, hrs⟩

end Sql

/-! ## Keys and indexes -/

/-- A constraint whose name and columns are plain. -/
def Constraint.Plain (k : Constraint) : Prop := Word k.name ∧ ∀ c ∈ k.columns.elems, Word c

instance : DecidablePred Constraint.Plain := fun _ => instDecidableAnd

/-- An index whose name, method and columns are plain. -/
def Index.Plain (i : Index) : Prop :=
  Word i.name ∧ Word i.type ∧ ∀ entry ∈ i.columns.entries, Word entry.1

instance : DecidablePred Index.Plain := fun _ => instDecidableAnd

namespace Sql

theorem join_word_inj {sep : Text} {ws vs : List Text} (hws : ∀ w ∈ ws, Word w)
    (hvs : ∀ v ∈ vs, Word v) (h : join (',' :: sep) ws = join (',' :: sep) vs) : ws = vs :=
  join_inj (fun w hw => ⟨(hws w hw).1, (hws w hw).not_mem (by decide)⟩)
    (fun v hv => ⟨(hvs v hv).1, (hvs v hv).not_mem (by decide)⟩) h

theorem word_sortOrder (order : SortOrder) : Word order.sql := by
  cases order <;> decide

theorem sortOrder_inj {a b : SortOrder} (h : a.sql = b.sql) : a = b := by
  cases a <;> cases b
  · rfl
  · exact absurd h (by decide)
  · exact absurd h (by decide)
  · rfl

theorem indexColumn_inj {a b : Text × SortOrder} (ha : Word a.1) (hb : Word b.1)
    (h : indexColumn a = indexColumn b) : a = b := by
  unfold indexColumn at h
  rw [List.append_assoc, List.append_assoc] at h
  obtain ⟨hname, horder⟩ := ha.append_inj hb (by decide) h
  exact Prod.ext hname (sortOrder_inj horder)

/-- The characters of an index column are those of names and a blank. -/
theorem not_mem_indexColumn {c : Char} {entry : Text × SortOrder} (he : Word entry.1)
    (hc : inWord c = false) (hblank : c ≠ ' ') : c ∉ indexColumn entry := by
  have hname : c ∉ entry.1 := he.not_mem hc
  have horder : c ∉ entry.2.sql := (word_sortOrder entry.2).not_mem hc
  simp [indexColumn, hname, horder, hblank]

theorem join_indexColumn_inj {es fs : List (Text × SortOrder)} (hes : ∀ e ∈ es, Word e.1)
    (hfs : ∀ f ∈ fs, Word f.1)
    (h : join ", " (es.map indexColumn) = join ", " (fs.map indexColumn)) : es = fs := by
  have hpiece : ∀ e : Text × SortOrder, Word e.1 → indexColumn e ≠ [] ∧ ',' ∉ indexColumn e := by
    intro e he
    refine ⟨?_, not_mem_indexColumn he (by decide) (by decide)⟩
    simp [indexColumn]
  have hmap : es.map indexColumn = fs.map indexColumn := by
    refine join_inj ?_ ?_ h
    · intro p hp
      obtain ⟨e, he, rfl⟩ := List.mem_map.1 hp
      exact hpiece e (hes e he)
    · intro q hq
      obtain ⟨f, hf, rfl⟩ := List.mem_map.1 hq
      exact hpiece f (hfs f hf)
  clear h
  induction es generalizing fs with
  | nil => exact (List.map_eq_nil_iff.1 hmap.symm).symm
  | cons e es ih =>
      obtain ⟨f, fs', rfl, hf, hrest⟩ := List.map_eq_cons_iff.1 hmap.symm
      rw [indexColumn_inj (hfs f List.mem_cons_self) (hes e List.mem_cons_self) hf,
        ih (fun e he => hes e (List.mem_cons_of_mem _ he))
          (fun f hf => hfs f (List.mem_cons_of_mem _ hf)) hrest.symm]

/-- The keywords of a constraint end at the parenthesis. -/
theorem constraintKeywords_append_inj {k l : ConstraintKind} {r s : Text}
    (h : constraintKeywords k ++ ' ' :: '(' :: r = constraintKeywords l ++ ' ' :: '(' :: s) :
    k = l ∧ r = s := by
  have hstop : ∀ k, '(' ∉ constraintKeywords k ++ [' '] := by
    intro k
    cases k <;> decide
  have hcut : constraintKeywords k ++ [' '] ++ '(' :: r =
      constraintKeywords l ++ [' '] ++ '(' :: s := by simpa using h
  obtain ⟨hkeywords, hrest⟩ := append_stop_inj (hstop k) (hstop l) hcut
  refine ⟨?_, hrest⟩
  cases k <;> cases l
  · rfl
  · exact absurd hkeywords (by decide)
  · exact absurd hkeywords (by decide)
  · rfl

end Sql

/-! ## Statements -/

namespace Statement

open Sql

/-- A statement that creates a part of a table, all of whose texts are plain or fit. -/
def Plain : Statement → Prop
  | createTable name columns => Word name ∧ ∀ c ∈ columns, c.Plain
  | addConstraint table constraint => Word table ∧ constraint.Plain
  | createIndex table index => Word table ∧ index.Plain
  | createSequence _ => False
  | createFunction _ => False

/-- What the text of a statement says. -/
def written : Statement → Statement
  | createTable name columns => createTable name (columns.map Column.written)
  | statement => statement

theorem write_createTable (schema name : Text) (columns : List Column) (r : Text) :
    (createTable name columns).write schema ++ r =
      "CREATE TABLE IF NOT EXISTS" ++ ' ' :: (schema ++ '.' :: (name ++ '(' :: '\n' ::
        (Sql.columns columns ++ ')' :: ';' :: r))) := by
  show ("CREATE TABLE IF NOT EXISTS " : Text) ++ qualified schema name ++ "(\n" ++
    Sql.columns columns ++ ")" ++ ";" ++ r = _
  simp [qualified]

theorem write_addConstraint (schema table : Text) (key : Constraint) (r : Text) :
    (addConstraint table key).write schema ++ r =
      "ALTER TABLE ONLY" ++ ' ' :: (schema ++ '.' :: (table ++ '\n' :: '\t' :: ("ADD CONSTRAINT " ++
        (key.name ++ '\n' :: '\t' :: (constraintKeywords key.kind ++ ' ' :: '(' ::
          (join "," key.columns.elems ++ ')' :: ';' :: r)))))) := by
  show ("ALTER TABLE ONLY " : Text) ++ qualified schema table ++ "\n\tADD CONSTRAINT " ++
    key.name ++ "\n\t" ++ constraintKeywords key.kind ++ " (" ++ join "," key.columns.elems ++ ")" ++
    ";" ++ r = _
  simp [qualified]

theorem write_createIndex (schema table : Text) (index : Index) (r : Text) :
    (createIndex table index).write schema ++ r =
      "CREATE INDEX " ++ (index.name ++ '\n' :: '\t' :: ("ON" ++ ' ' :: (schema ++ '.' ::
        (table ++ ' ' :: ("USING " ++ (index.type ++ '\n' :: '\t' :: '(' ::
          (join ", " (index.columns.entries.map indexColumn) ++ ')' :: ';' :: r))))))) := by
  show ("CREATE INDEX " : Text) ++ index.name ++ "\n\tON " ++ qualified schema table ++ " USING " ++
    index.type ++ "\n\t(" ++ join ", " (index.columns.entries.map indexColumn) ++ ")" ++ ";" ++
    r = _
  simp [qualified]

/-! ### Statements of one kind -/

theorem createTable_inj {schema n m : Text} {cs ds : List Column} {r s : Text}
    (hs : (createTable n cs).Plain) (ht : (createTable m ds).Plain)
    (h : (createTable n cs).write schema ++ r = (createTable m ds).write schema ++ s) :
    (createTable n cs).written = (createTable m ds).written ∧ r = s := by
  rw [write_createTable, write_createTable] at h
  have hnamed := List.append_cancel_left (List.cons.inj (List.append_cancel_left h)).2
  obtain ⟨hname, hrest⟩ := hs.1.append_inj ht.1 (by decide) (List.cons.inj hnamed).2
  obtain ⟨hcolumns, hend⟩ := columns_append_inj hs.2 ht.2 (List.cons.inj hrest).2
  show createTable n (cs.map Column.written) = createTable m (ds.map Column.written) ∧ r = s
  rw [hname, hcolumns]
  exact ⟨rfl, (List.cons.inj hend).2⟩

theorem addConstraint_inj {schema n m : Text} {k l : Constraint} {r s : Text}
    (hs : (addConstraint n k).Plain) (ht : (addConstraint m l).Plain)
    (h : (addConstraint n k).write schema ++ r = (addConstraint m l).write schema ++ s) :
    addConstraint n k = addConstraint m l ∧ r = s := by
  have hjoin : ∀ k : Constraint, k.Plain → ')' ∉ join "," k.columns.elems := by
    intro k hk
    exact not_mem_join (by decide) fun c hc => (hk.2 c hc).not_mem (by decide)
  rw [write_addConstraint, write_addConstraint] at h
  have hnamed := List.append_cancel_left (List.cons.inj (List.append_cancel_left h)).2
  obtain ⟨htable, hrest⟩ := hs.1.append_inj ht.1 (by decide) (List.cons.inj hnamed).2
  obtain ⟨hname, hrest⟩ := hs.2.1.append_inj ht.2.1 (by decide)
    (List.append_cancel_left (List.cons.inj hrest).2)
  obtain ⟨hkind, hrest⟩ := constraintKeywords_append_inj (List.cons.inj hrest).2
  obtain ⟨hcolumns, hend⟩ := append_stop_inj (hjoin k hs.2) (hjoin l ht.2) hrest
  have hset : k.columns = l.columns :=
    OrderedSet.eq_of_elems (join_word_inj hs.2.2 ht.2.2 hcolumns)
  obtain ⟨kname, kkind, kcolumns⟩ := k
  obtain ⟨lname, lkind, lcolumns⟩ := l
  simp only at hname hkind hset
  rw [htable, hname, hkind, hset]
  exact ⟨rfl, (List.cons.inj hend).2⟩

theorem createIndex_inj {schema n m : Text} {i j : Index} {r s : Text}
    (hs : (createIndex n i).Plain) (ht : (createIndex m j).Plain)
    (h : (createIndex n i).write schema ++ r = (createIndex m j).write schema ++ s) :
    createIndex n i = createIndex m j ∧ r = s := by
  have hjoin : ∀ i : Index, i.Plain → ')' ∉ join ", " (i.columns.entries.map indexColumn) := by
    intro i hi
    refine not_mem_join (by decide) fun p hp => ?_
    obtain ⟨e, he, rfl⟩ := List.mem_map.1 hp
    exact not_mem_indexColumn (hi.2.2 e he) (by decide) (by decide)
  rw [write_createIndex, write_createIndex] at h
  obtain ⟨hname, hrest⟩ := hs.2.1.append_inj ht.2.1 (by decide) (List.append_cancel_left h)
  have hnamed := List.append_cancel_left
    (List.cons.inj (List.append_cancel_left (List.cons.inj hrest).2)).2
  obtain ⟨htable, hrest⟩ := hs.1.append_inj ht.1 (by decide) (List.cons.inj hnamed).2
  obtain ⟨htype, hrest⟩ := hs.2.2.1.append_inj ht.2.2.1 (by decide) (List.append_cancel_left hrest)
  obtain ⟨hcolumns, hend⟩ := append_stop_inj (hjoin i hs.2) (hjoin j ht.2)
    (List.cons.inj (List.cons.inj hrest).2).2
  have hmap : i.columns = j.columns :=
    OrderedMap.eq_of_entries (join_indexColumn_inj hs.2.2.2 ht.2.2.2 hcolumns)
  obtain ⟨iname, itype, icolumns⟩ := i
  obtain ⟨jname, jtype, jcolumns⟩ := j
  simp only at hname htype hmap
  rw [htable, hname, htype, hmap]
  exact ⟨rfl, (List.cons.inj hend).2⟩

/-! ### Statements of any kind -/

/-- The first letters of a statement, which tell what it creates. -/
def lead : Statement → Text
  | createTable _ _ => "CREATE T"
  | addConstraint _ _ => "ALTER TA"
  | createIndex _ _ => "CREATE I"
  | createSequence _ => []
  | createFunction _ => []

theorem take_write {statement : Statement} (h : statement.Plain) (schema rest : Text) :
    (statement.write schema ++ rest).take 8 = statement.lead := by
  cases statement with
  | createTable name columns => rw [write_createTable]; rfl
  | addConstraint table constraint => rw [write_addConstraint]; rfl
  | createIndex table index => rw [write_createIndex]; rfl
  | createSequence sequence => exact h.elim
  | createFunction function => exact h.elim

/-- A statement comes back from its text, and so does what follows it. -/
theorem write_append_inj {schema : Text} {s t : Statement} {r r' : Text} (hs : s.Plain)
    (ht : t.Plain) (h : s.write schema ++ r = t.write schema ++ r') :
    s.written = t.written ∧ r = r' := by
  have hlead : s.lead = t.lead := by
    rw [← take_write hs schema r, ← take_write ht schema r', h]
  cases s with
  | createTable n cs =>
      cases t with
      | createTable m ds => exact createTable_inj hs ht h
      | addConstraint m l =>
          exact absurd (show "CREATE T".toList = "ALTER TA".toList from hlead) (by decide)
      | createIndex m j =>
          exact absurd (show "CREATE T".toList = "CREATE I".toList from hlead) (by decide)
      | createSequence sequence => exact ht.elim
      | createFunction function => exact ht.elim
  | addConstraint n k =>
      cases t with
      | createTable m ds =>
          exact absurd (show "ALTER TA".toList = "CREATE T".toList from hlead) (by decide)
      | addConstraint m l => exact addConstraint_inj hs ht h
      | createIndex m j =>
          exact absurd (show "ALTER TA".toList = "CREATE I".toList from hlead) (by decide)
      | createSequence sequence => exact ht.elim
      | createFunction function => exact ht.elim
  | createIndex n i =>
      cases t with
      | createTable m ds =>
          exact absurd (show "CREATE I".toList = "CREATE T".toList from hlead) (by decide)
      | addConstraint m l =>
          exact absurd (show "CREATE I".toList = "ALTER TA".toList from hlead) (by decide)
      | createIndex m j => exact createIndex_inj hs ht h
      | createSequence sequence => exact ht.elim
      | createFunction function => exact ht.elim
  | createSequence sequence => exact hs.elim
  | createFunction function => exact hs.elim

end Statement

/-! ## The mark between statements -/

namespace Text

/-- No newline follows another. -/
def Tight (t : Text) : Prop := ¬['\n', '\n'] <:+: t

instance : DecidablePred Tight := fun _ => instDecidableNot

theorem Tight.append {u w : Text} (h : Tight w) (hu : '\n' ∉ u) : Tight (u ++ w) :=
  fun hoccurs => h (infix_of_infix_append hu hoccurs)

theorem Tight.newline {c : Char} {w : Text} (h : Tight (c :: w)) (hc : c ≠ '\n') :
    Tight ('\n' :: c :: w) := by
  intro hoccurs
  rcases List.infix_cons_iff.1 hoccurs with hbegins | hoccurs
  · have hnewline : '\n' = c :=
      (List.cons_prefix_cons.1 (List.cons_prefix_cons.1 hbegins).2).1
    exact hc hnewline.symm
  · exact h hoccurs

end Text

namespace Script

/-- What stands behind a statement in a script: its semicolon and an empty line. -/
def mark : Text := ";\n\n"

/-- A text of tight parts around a schema holds the mark only if the schema does. -/
theorem mark_absent_around {schema front back : Text} (hschema : ¬mark <:+: schema)
    (hfront : Tight front) (hback : Tight back) :
    ¬mark <:+: front ++ ' ' :: (schema ++ '.' :: back) := by
  have hmark : ['\n', '\n'] <:+: mark := ⟨[';'], [], rfl⟩
  intro h
  rcases infix_append_cons (by decide) h with h | h
  · exact hfront (hmark.trans h)
  · rcases infix_append_cons (by decide) h with h | h
    · exact hschema h
    · exact hback (hmark.trans h)

end Script

namespace Sql

/-- The lines of columns are not empty. -/
theorem tight_columns {cs : List Column} {rest : Text} (hcs : ∀ c ∈ cs, c.Plain)
    (h : Tight ('\n' :: rest)) : Tight ('\n' :: (columns cs ++ rest)) := by
  induction cs with
  | nil => exact h
  | cons c cs ih =>
      have hline := newline_not_mem_line (hcs c List.mem_cons_self) cs
      have hlater := ih fun d hd => hcs d (List.mem_cons_of_mem _ hd)
      rw [columns_cons, List.append_assoc]
      exact (Tight.append hlater hline).newline (by decide)

end Sql

namespace Statement

open Sql

/-- The mark does not come up before the end of a statement. -/
theorem mark_absent {schema : Text} {statement : Statement} (hs : statement.Plain)
    (hschema : ¬Script.mark <:+: schema) :
    ¬Script.mark <:+: statement.write schema ++ ['\n'] := by
  have hword : ∀ {w : Text}, Word w → '\n' ∉ w := fun hw => hw.not_mem (by decide)
  have hend : Tight [')', ';', '\n'] := by decide
  cases statement with
  | createTable name columns =>
      have hcolumns := tight_columns hs.2 (hend.newline (by decide))
      rw [write_createTable]
      refine Script.mark_absent_around hschema (by decide) ?_
      exact (hcolumns.append (u := ['(']) (by decide)).append (hword hs.1)
  | addConstraint table key =>
      have hkeywords : '\n' ∉ constraintKeywords key.kind := by
        cases key.kind <;> decide
      have hjoin : '\n' ∉ join [','] key.columns.elems :=
        not_mem_join (by decide) fun c hc => hword (hs.2.2 c hc)
      have hkey : Tight ('\t' :: (constraintKeywords key.kind ++ ' ' :: '(' ::
          (join "," key.columns.elems ++ [')', ';', '\n']))) := by
        have hline : '\n' ∉ '\t' :: (constraintKeywords key.kind ++ ' ' :: '(' ::
            join "," key.columns.elems) := by simp [hkeywords, hjoin]
        simpa using hend.append hline
      have hadd : Tight ('\t' :: ("ADD CONSTRAINT " ++ (key.name ++ '\n' :: '\t' ::
          (constraintKeywords key.kind ++ ' ' :: '(' ::
            (join "," key.columns.elems ++ [')', ';', '\n']))))) := by
        have hline : '\n' ∉ '\t' :: ("ADD CONSTRAINT " ++ key.name) := by simp [hword hs.2.1]
        simpa using (hkey.newline (by decide)).append hline
      rw [write_addConstraint]
      exact Script.mark_absent_around hschema (by decide)
        ((hadd.newline (by decide)).append (hword hs.1))
  | createIndex table index =>
      have hjoin : '\n' ∉ join [',', ' '] (index.columns.entries.map indexColumn) := by
        refine not_mem_join (by decide) fun p hp => ?_
        obtain ⟨e, he, rfl⟩ := List.mem_map.1 hp
        exact not_mem_indexColumn (hs.2.2.2 e he) (by decide) (by decide)
      have hcolumns : Tight ('\t' :: '(' :: (join ", " (index.columns.entries.map indexColumn) ++
          [')', ';', '\n'])) := by
        have hline : '\n' ∉ '\t' :: '(' :: join ", " (index.columns.entries.map indexColumn) := by
          simp [hjoin]
        exact hend.append hline
      have hback : Tight (table ++ ' ' :: ("USING " ++ (index.type ++ '\n' :: '\t' :: '(' ::
          (join ", " (index.columns.entries.map indexColumn) ++ [')', ';', '\n'])))) := by
        have hline : '\n' ∉ table ++ ' ' :: ("USING " ++ index.type) := by
          simp [hword hs.1, hword hs.2.2.1]
        simpa using (hcolumns.newline (by decide)).append hline
      have hfront : Tight ("CREATE INDEX " ++ (index.name ++ '\n' :: '\t' :: "ON")) := by
        have hline : '\n' ∉ "CREATE INDEX " ++ index.name := by simp [hword hs.2.1]
        have hon : Tight ('\n' :: '\t' :: "ON".toList) := by decide
        simpa using hon.append hline
      rw [write_createIndex]
      have haround := Script.mark_absent_around hschema hfront hback
      simpa using haround
  | createSequence sequence => exact hs.elim
  | createFunction function => exact hs.elim

end Statement

end SchemaCompiler
