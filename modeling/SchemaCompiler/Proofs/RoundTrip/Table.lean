import Mathlib.Data.List.Basic
import SchemaCompiler.Proofs.RoundTrip.Line

namespace SchemaCompiler

/-! # Table definitions are read back

A column, a constraint or an index comes back from its parts (`Column.ofLine_attributes`,
`Constraint.ofLine_columns`, `Index.ofLine_arguments`), so every line says what the entry it was
written for says (`TableEntry.parse_line`), and the entries make up the table
(`Table.ofEntries_entries`). -/

/-! ## Columns -/

namespace Column

/-- The keys are distinct, whichever of the attributes are set. -/
theorem nodup_attributes (c : Column) : (c.attributes.map Prod.fst).Nodup := by
  -- the keys that are written are some of four, in this order
  have hkeys : ["type".toList, "not_null", "default", "description"].Nodup := by decide
  have hflag : ((if c.notNull then [(("not_null" : Text), some ("true" : Text))] else []).map
      Prod.fst).Sublist ["not_null"] := by
    cases c.notNull <;> simp
  refine hkeys.sublist ?_
  rw [attributes, List.map_cons, List.map_append, List.map_append]
  exact ((hflag.append (NamedArgs.keys_setting _ _)).append (NamedArgs.keys_setting _ _)).cons_cons _

theorem value?_type (c : Column) :
    NamedArgs.value? (OrderedMap.ofList c.attributes) "type" = some c.type := by
  rw [NamedArgs.value?_ofList c.nodup_attributes]
  rfl

theorem value?_default (c : Column) :
    NamedArgs.value? (OrderedMap.ofList c.attributes) "default" = c.default := by
  rw [NamedArgs.value?_ofList c.nodup_attributes]
  obtain ⟨name, type, notNull, default, description⟩ := c
  cases notNull <;> cases default <;> cases description <;> rfl

theorem value?_description (c : Column) :
    NamedArgs.value? (OrderedMap.ofList c.attributes) "description" = c.description := by
  rw [NamedArgs.value?_ofList c.nodup_attributes]
  obtain ⟨name, type, notNull, default, description⟩ := c
  cases notNull <;> cases default <;> cases description <;> rfl

theorem flag_notNull (c : Column) :
    NamedArgs.flag (OrderedMap.ofList c.attributes) "not_null" = c.notNull := by
  rw [NamedArgs.flag, NamedArgs.flag?, OrderedMap.get?,
    OrderedMap.entries_ofList c.nodup_attributes]
  obtain ⟨name, type, notNull, default, description⟩ := c
  cases notNull <;> cases default <;> cases description <;> rfl

variable {c : Column}

theorem WellFormed.attributes (h : c.WellFormed) : NamedArgs.WellFormed ';' c.attributes := by
  have htype : NamedArgs.WellFormed ';' [(("type" : Text), some c.type)] :=
    NamedArgs.wellFormed_value (by decide) h.type
  have hflag : NamedArgs.WellFormed ';'
      (if c.notNull then [(("not_null" : Text), some ("true" : Text))] else []) := by
    split
    · exact NamedArgs.wellFormed_value (by decide) ⟨by decide, by decide⟩
    · intro entry hentry
      cases hentry
  have hdefault : NamedArgs.WellFormed ';' (setting "default" c.default) :=
    NamedArgs.wellFormed_setting (by decide) fun d hd => (h.default d hd).1
  have hdescription : NamedArgs.WellFormed ';' (setting "description" c.description) :=
    NamedArgs.wellFormed_setting (by decide) h.description
  exact htype.append ((hflag.append hdefault).append hdescription)

theorem WellFormed.expand_default (mapping : Mapping) (h : c.WellFormed) :
    c.default.map mapping.expand = c.default := by
  cases hd : c.default with
  | none => rfl
  | some d => rw [Option.map_some, mapping.expand_of_not_mem (h.default d hd).2]

/-- A column comes back from its name and its written attributes. -/
theorem ofLine_attributes (mapping : Mapping) (h : c.WellFormed) :
    ofLine mapping ⟨c.name, [], NamedArgs.parse ';' (NamedArgs.list ';' c.attributes)⟩ = c := by
  have hnone : NamedArgs.parse ';' [] = OrderedMap.empty := rfl
  simp only [ofLine, hnone, h.attributes.parse_list (by decide), OrderedMap.empty_extend,
    value?_type, value?_default, value?_description, flag_notNull, h.expand_default mapping,
    Option.getD_some]

end Column

/-! ## Constraints and indexes -/

theorem ConstraintKind.ofText?_text (kind : ConstraintKind) : ofText? kind.text = some kind := by
  cases kind <;> decide

theorem ConstraintKind.isValue_text (kind : ConstraintKind) : Text.IsValue kind.text := by
  cases kind <;> exact ⟨by decide, by decide⟩

theorem map_expand_eq_self (mapping : Mapping) {ts : List Text} (h : ∀ t ∈ ts, Text.IsName t) :
    ts.map mapping.expand = ts := by
  rw [List.map_congr_left fun t ht => mapping.expand_of_not_mem (h t ht).dollar_not_mem,
    List.map_id']

/-- A constraint comes back from its name, its written columns and its written kind. -/
theorem Constraint.ofLine_columns (mapping : Mapping) {c : Constraint} (h : c.WellFormed) :
    ofLine mapping ⟨c.name, Text.join [','] c.columns.elems,
      NamedArgs.parse ';' ("type=" ++ c.kind.text)⟩ = .ok c := by
  have hkind : DefinitionLine.property? ⟨c.name, Text.join [','] c.columns.elems,
      NamedArgs.parse ';' ("type=" ++ c.kind.text)⟩ "type" = some c.kind.text :=
    NamedArgs.value?_parse_property (by decide) c.kind.isValue_text
  have hargs : args ',' (Text.join [','] c.columns.elems) = c.columns.elems :=
    args_join (fun t ht => (h.column t ht).2) (fun t ht => (h.column t ht).1.trimmed)
      fun t ht => (h.column t ht).1.ne_nil
  have hexpand : c.columns.elems.map mapping.expand = c.columns.elems :=
    map_expand_eq_self mapping fun t ht => (h.column t ht).1
  simp only [ofLine, hkind, ConstraintKind.ofText?_text, hargs, hexpand, OrderedSet.ofList_elems,
    if_neg h.columns_ne_nil]
  rfl

theorem SortOrder.ofArg_sql (column : Text) (order : SortOrder) :
    ofArg column (some order.sql) = .ok order := by
  cases order <;> rfl

namespace Index

variable {i : Index}

theorem keys_arguments (i : Index) : i.arguments.map Prod.fst = i.columns.entries.map Prod.fst := by
  simp [arguments, Function.comp_def]

theorem WellFormed.arguments (h : i.WellFormed) : NamedArgs.WellFormed ',' i.arguments := by
  intro entry hentry
  obtain ⟨⟨column, order⟩, hmem, rfl⟩ := List.mem_map.1 hentry
  obtain ⟨hname, hcomma, hequals⟩ := h.column _ hmem
  have horder : Text.Trimmed order.sql ∧ ',' ∉ order.sql ∧ '\n' ∉ order.sql := by
    cases order <;> decide
  refine ⟨⟨hname.ne_nil, hname.trimmed, hcomma, hequals, ?_, ?_⟩, ?_⟩
  · rintro v ⟨rfl⟩
    exact horder.1
  · rintro v ⟨rfl⟩
    exact horder.2.1
  · simp [NamedArgs.piece, hname.newline_not_mem, horder.2.2]

theorem mapM_ofArg_arguments (mapping : Mapping) (h : i.WellFormed) :
    (i.arguments.mapM fun (column, order) => do
      let order ← SortOrder.ofArg column order
      pure (mapping.expand column, order)) = .ok i.columns.entries := by
  refine mapM_map_eq_ok fun (column, order) hmem => ?_
  have hexpand : mapping.expand column = column :=
    mapping.expand_of_not_mem (h.column _ hmem).1.dollar_not_mem
  simp only [SortOrder.ofArg_sql, hexpand]
  rfl

/-- An index comes back from its name, its written columns and its written type. -/
theorem ofLine_arguments (mapping : Mapping) (h : i.WellFormed) :
    ofLine mapping ⟨i.name, NamedArgs.list ',' i.arguments,
      NamedArgs.parse ';' ("type=" ++ i.type)⟩ = .ok i := by
  have htype : DefinitionLine.property? ⟨i.name, NamedArgs.list ',' i.arguments,
      NamedArgs.parse ';' ("type=" ++ i.type)⟩ "type" = some i.type :=
    NamedArgs.value?_parse_property (by decide) h.type
  -- the columns of an index are distinct, so none of them is lost in a map
  have hentries : (NamedArgs.parse ',' (NamedArgs.list ',' i.arguments)).entries = i.arguments := by
    rw [h.arguments.parse_list (by decide), OrderedMap.entries_ofList]
    rw [keys_arguments]
    exact i.columns.nodup_keys
  simp only [ofLine, htype, hentries, mapM_ofArg_arguments mapping h, Option.getD_some]
  rw [ok_bind, if_neg h.columns_ne_nil, OrderedMap.ofList_entries]
  rfl

end Index

/-! ## Lines -/

namespace TableEntry

/-- What a column line says behind its marker. -/
theorem inline_column {c : Column} (h : c.WellFormed) :
    Text.Inline (c.name ++ ";" ++ NamedArgs.list ';' c.attributes) :=
  (h.name.toInline.append (by decide)).append (h.attributes.inline (by decide))

/-- What a constraint line says behind its marker. -/
theorem inline_constraint {c : Constraint} (h : c.WellFormed) :
    Text.Inline (c.name ++ "(" ++ Text.join [','] c.columns.elems ++ ");type=" ++ c.kind.text) := by
  have hcolumns : Text.Inline (Text.join [','] c.columns.elems) :=
    Text.Inline.join (by decide) fun t ht => (h.column t ht).1.toInline
  exact (((h.name.toInline.append (by decide)).append hcolumns).append (by decide)).append
    c.kind.isValue_text.toInline

/-- What an index line says behind its marker. -/
theorem inline_index {i : Index} (h : i.WellFormed) :
    Text.Inline (i.name ++ "(" ++ NamedArgs.list ',' i.arguments ++ ");type=" ++ i.type) :=
  (((h.name.toInline.append (by decide)).append (h.arguments.inline (by decide))).append
    (by decide)).append h.type.toInline

/-- A line that an entry is written on reaches the reader as it is. -/
theorem isLine_line {e : TableEntry} (h : e.WellFormed) : Source.IsLine e.line := by
  cases e with
  | name n => exact Source.isLine_marker _ h.toInline
  | properties args => exact Source.isLine_marker _ (NamedArgs.WellFormed.inline (by decide) h)
  | column c => exact Source.isLine_marker _ (inline_column h)
  | constraint c => exact Source.isLine_marker _ (inline_constraint h)
  | index i => exact Source.isLine_marker _ (inline_index h)
  | ignored => exact h.elim

theorem readLine_column (mapping : Mapping) {c : Column} (h : c.WellFormed) :
    Definition.readLine mapping .column (c.name ++ ";" ++ NamedArgs.list ';' c.attributes) =
      .ok ⟨c.name, [], NamedArgs.parse ';' (NamedArgs.list ';' c.attributes)⟩ := by
  have hparts : c.name ++ ";".toList ++ NamedArgs.list ';' c.attributes =
      c.name ++ ';' :: NamedArgs.list ';' c.attributes := List.append_assoc _ _ _
  rw [hparts, Definition.readLine, DefinitionLine.parse?_name mapping h.name.ne_nil h.name.trimmed
    h.name.open_not_mem h.name.semicolon_not_mem, mapping.expand_of_not_mem h.name.dollar_not_mem]

/-- A line `name(args);type=…` comes apart, whichever marker it has. -/
theorem readLine_call (mapping : Mapping) (marker : Marker) {name args type : Text}
    (hname : Text.IsLineName name) (hargs : Enclosed args) :
    Definition.readLine mapping marker (name ++ "(" ++ args ++ ");type=" ++ type) =
      .ok ⟨name, args, NamedArgs.parse ';' ("type=" ++ type)⟩ := by
  -- the line is put together from other pieces than those it comes apart into
  have hparts : name ++ "(".toList ++ args ++ ");type=".toList ++ type =
      name ++ '(' :: (args ++ [')']) ++ ';' :: ("type=".toList ++ type) := by
    have hclose : ");type=".toList = [')', ';'] ++ "type=".toList := by decide
    have hopen : "(".toList = ['('] := by decide
    rw [hclose, hopen]
    simp only [List.append_assoc, List.cons_append, List.nil_append]
  rw [hparts, Definition.readLine, DefinitionLine.parse?_call mapping hname.trimmed
    hname.open_not_mem hname.semicolon_not_mem hargs,
    mapping.expand_of_not_mem hname.dollar_not_mem]

/-- A line says what the entry it was written for says. -/
theorem parse_line (mapping : Mapping) {e : TableEntry} (h : e.WellFormed) :
    parse mapping e.line = .ok e := by
  cases e with
  | name n =>
      have hname : Text.IsName n := h
      simp only [line, parse, Marker.split?_line, hname.trim_eq,
        Definition.readName_isName mapping hname]
      rfl
  | properties args =>
      have hlist := NamedArgs.WellFormed.inline (by decide) h
      simp only [line, parse, Marker.split?_line, hlist.trim_eq, Definition.readProperties_list h]
  | column c =>
      simp only [line, parse, Marker.split?_line, (inline_column h).trim_eq,
        readLine_column mapping h, Except.map, Column.ofLine_attributes mapping h]
  | constraint c =>
      have hc : c.WellFormed := h
      simp only [line, parse, Marker.split?_line, (inline_constraint h).trim_eq,
        readLine_call mapping .constraint hc.name hc.enclosed, ok_bind,
        Constraint.ofLine_columns mapping h, Except.map]
  | index i =>
      have hi : i.WellFormed := h
      simp only [line, parse, Marker.split?_line, (inline_index h).trim_eq,
        readLine_call mapping .index hi.name hi.enclosed, ok_bind,
        Index.ofLine_arguments mapping h, Except.map]
  | ignored => exact h.elim

end TableEntry

/-! ## Tables -/

namespace Table

/-- What a reading finds among the entries of a table, part by part. -/
theorem filterMap_entries {α : Type} (reading : TableEntry → Option α) (t : Table) :
    t.entries.filterMap reading =
      (reading (.name t.name)).toList ++ (reading (.properties t.properties)).toList ++
        t.columns.filterMap (fun c => reading (.column c)) ++
        t.primaryKey.toList.filterMap (fun k => reading (.constraint k)) ++
        t.uniqueKeys.filterMap (fun k => reading (.constraint k)) ++
        t.indexes.filterMap (fun i => reading (.index i)) := by
  simp only [entries, List.filterMap_append, filterMap_cons_toList, List.filterMap_map,
    Function.comp_def, List.append_assoc]

/-- Constraints of one kind are found under this kind. -/
theorem filterMap_constraint?_self {kind : ConstraintKind} {cs : List Constraint}
    (h : ∀ c ∈ cs, c.kind = kind) :
    cs.filterMap (fun c => TableEntry.constraint? kind (.constraint c)) = cs := by
  have hself : ∀ c ∈ cs, TableEntry.constraint? kind (.constraint c) = some c := by
    intro c hc
    exact if_pos (h c hc)
  rw [List.filterMap_congr hself, List.filterMap_some]

/-- Constraints of one kind are not found under another. -/
theorem filterMap_constraint?_ne {kind other : ConstraintKind} {cs : List Constraint}
    (h : ∀ c ∈ cs, c.kind = kind) (hne : kind ≠ other) :
    cs.filterMap (fun c => TableEntry.constraint? other (.constraint c)) = [] := by
  rw [List.filterMap_eq_nil_iff]
  intro c hc
  exact if_neg (h c hc ▸ hne)

/-- The entries of a table make it up again. -/
theorem ofEntries_entries {t : Table} (h : t.WellFormed) : ofEntries t.entries = .ok t := by
  -- keys are told apart by their kinds, so each list of keys is found whole and alone
  have hkey : ∀ k ∈ t.primaryKey.toList, k.kind = .primaryKey := by
    intro k hk
    exact h.primaryKey_kind k (Option.mem_toList.1 hk)
  have hprimary : (t.entries.filterMap (TableEntry.constraint? .primaryKey)).getLast? =
      t.primaryKey := by
    rw [filterMap_entries, filterMap_constraint?_self hkey,
      filterMap_constraint?_ne h.uniqueKey_kind (by decide)]
    cases hk : t.primaryKey <;> simp [TableEntry.constraint?]
  have hunique : t.entries.filterMap (TableEntry.constraint? .unique) = t.uniqueKeys := by
    rw [filterMap_entries, filterMap_constraint?_self h.uniqueKey_kind,
      filterMap_constraint?_ne hkey (by decide)]
    simp [TableEntry.constraint?]
  have hname : t.entries.filterMap TableEntry.name? = [t.name] := by
    simp [filterMap_entries, TableEntry.name?]
  have hproperties : t.entries.filterMap TableEntry.properties? = [t.properties] := by
    simp [filterMap_entries, TableEntry.properties?]
  have hcolumns : t.entries.filterMap TableEntry.column? = t.columns := by
    simp [filterMap_entries, TableEntry.column?]
  have hindexes : t.entries.filterMap TableEntry.index? = t.indexes := by
    simp [filterMap_entries, TableEntry.index?]
  rw [ofEntries, hprimary, hunique, hname, hproperties, hcolumns, hindexes,
    Definition.mergeProperties_singleton]
  rfl

theorem isLine_canonicalLines {t : Table} (h : t.WellFormed) :
    ∀ l ∈ t.canonicalLines, Source.IsLine l := by
  intro l hl
  rcases List.mem_cons.1 hl with rfl | hl
  · exact ⟨by decide, by decide⟩
  · obtain ⟨e, he, rfl⟩ := List.mem_map.1 hl
    exact TableEntry.isLine_line (h.entry e he)

/-- The lines of a table are read as the table. -/
theorem ofLines_canonicalLines (mapping : Mapping) {t : Table} (h : t.WellFormed) :
    ofLines mapping t.canonicalLines = .ok t := by
  have hlines := readingLines_eq_ok fun e he => TableEntry.parse_line mapping (h.entry e he)
  have hfirst : Definition.afterFirstLine .table t.canonicalLines =
      .ok (t.entries.map TableEntry.line) := Definition.afterFirstLine_discriminator .table _
  rw [ofLines, hfirst, ok_bind, hlines, ok_bind, ofEntries_entries h]

end Table

end SchemaCompiler
