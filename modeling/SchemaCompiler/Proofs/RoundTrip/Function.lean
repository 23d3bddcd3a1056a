import Mathlib.Data.List.Basic
import SchemaCompiler.Proofs.RoundTrip.Line

namespace SchemaCompiler

/-! # Function definitions are read back

A parameter and a return come back from what is written of them (`Parameter.parse_written`,
`Return.parse_text`), so every line outside the body says what the entry it was written for says
(`FunctionEntry.parse_line`). The lines of the body come back by themselves, blank lines and comments
included, because the reader keeps what stands between the markers
(`FunctionEntry.readLines_body`). -/

/-! ## Parameters -/

theorem Direction.ofArg_text (parameter : Text) (direction : Direction) :
    ofArg parameter (some direction.text) = .ok direction := by
  cases direction <;> rfl

namespace Parameter

/-- The keys are distinct, whichever of the attributes are set. -/
theorem nodup_attributes (p : Parameter) : (p.attributes.map Prod.fst).Nodup := by
  have hkeys : ["type".toList, "direction", "default", "description"].Nodup := by decide
  refine hkeys.sublist ?_
  rw [attributes, List.map_cons, List.map_cons, List.map_append]
  exact (((NamedArgs.keys_setting _ _).append (NamedArgs.keys_setting _ _)).cons_cons _).cons_cons _

theorem value?_type (p : Parameter) :
    NamedArgs.value? (OrderedMap.ofList p.attributes) "type" = some p.type := by
  rw [NamedArgs.value?_ofList p.nodup_attributes]
  rfl

theorem value?_direction (p : Parameter) :
    NamedArgs.value? (OrderedMap.ofList p.attributes) "direction" = some p.direction.text := by
  rw [NamedArgs.value?_ofList p.nodup_attributes]
  rfl

theorem value?_default (p : Parameter) :
    NamedArgs.value? (OrderedMap.ofList p.attributes) "default" = p.default := by
  rw [NamedArgs.value?_ofList p.nodup_attributes]
  obtain ⟨name, type, direction, default, description⟩ := p
  cases default <;> cases description <;> rfl

theorem value?_description (p : Parameter) :
    NamedArgs.value? (OrderedMap.ofList p.attributes) "description" = p.description := by
  rw [NamedArgs.value?_ofList p.nodup_attributes]
  obtain ⟨name, type, direction, default, description⟩ := p
  cases default <;> cases description <;> rfl

variable {p : Parameter}

theorem WellFormed.attributes (h : p.WellFormed) : NamedArgs.WellFormed ';' p.attributes := by
  have htype : NamedArgs.WellFormed ';' [(("type" : Text), some p.type)] :=
    NamedArgs.wellFormed_value (by decide) h.type
  have htext : Text.IsValue p.direction.text := by
    cases p.direction <;> exact ⟨by decide, by decide⟩
  have hdirection : NamedArgs.WellFormed ';' [(("direction" : Text), some p.direction.text)] :=
    NamedArgs.wellFormed_value (by decide) htext
  have hdefault : NamedArgs.WellFormed ';' (setting "default" p.default) :=
    NamedArgs.wellFormed_setting (by decide) h.default
  have hdescription : NamedArgs.WellFormed ';' (setting "description" p.description) :=
    NamedArgs.wellFormed_setting (by decide) h.description
  exact htype.append (hdirection.append (hdefault.append hdescription))

/-- A parameter comes back from what is written of it. -/
theorem parse_written (h : p.WellFormed) :
    parse (p.name ++ "(" ++ NamedArgs.list ';' p.attributes ++ ")") = .ok p := by
  have hspec : Spec.parse (p.name ++ "(".toList ++ NamedArgs.list ';' p.attributes ++ ")".toList) =
      ⟨p.name, NamedArgs.list ';' p.attributes⟩ := by
    have hparts : p.name ++ "(".toList ++ NamedArgs.list ';' p.attributes ++ ")".toList =
        p.name ++ '(' :: (NamedArgs.list ';' p.attributes ++ [')']) := by
      have hopen : "(".toList = ['('] := by decide
      have hclose : ")".toList = [')'] := by decide
      rw [hopen, hclose]
      simp only [List.append_assoc, List.cons_append, List.nil_append]
    rw [hparts, Spec.parse_call h.name.trimmed h.open_not_mem_name]
  simp only [parse, NamedSpec.parse, hspec, h.attributes.parse_list (by decide), value?_type,
    value?_direction, value?_default, value?_description, Direction.ofArg_text, if_neg h.name_ne_nil,
    Option.getD_some]
  rfl

theorem inline_written (h : p.WellFormed) :
    Text.Inline (p.name ++ "(" ++ NamedArgs.list ';' p.attributes ++ ")") :=
  ((h.name.append (by decide)).append (h.attributes.inline (by decide))).append (by decide)

end Parameter

/-! ## Returns -/

namespace Return

theorem keys_arguments (columns : OrderedMap Text Text) :
    (arguments columns).map Prod.fst = columns.entries.map Prod.fst := by
  simp [arguments, Function.comp_def]

theorem inline_text {r : Return} (h : r.WellFormed) : Text.Inline r.text := by
  cases r with
  | value type hne => exact h.1
  | table columns =>
      have hlist := NamedArgs.WellFormed.inline (by decide) h
      have hopen : Text.Inline "table(".toList := by decide
      exact (hopen.append hlist).append (by decide)

/-- A type that does not look like a table is a return as it stands. -/
theorem parse_of_name_ne {t : Text} (hname : (Spec.parse t).name ≠ [])
    (htable : (Spec.parse t).name ≠ tableReturnType) :
    parse t = .ok (ofType t OrderedMap.empty) := by
  rw [parse_eq, if_neg hname, if_pos htable]

/-- A table is read column by column. -/
theorem parse_of_name_eq {t : Text} (h : (Spec.parse t).name = tableReturnType)
    {columns : List (Text × Text)}
    (hcolumns : (NamedArgs.parse ';' (Spec.parse t).args).entries.mapM columnOfArg = .ok columns) :
    parse t = .ok (.table (OrderedMap.ofList columns)) := by
  have hne : (Spec.parse t).name ≠ [] := by
    rw [h]
    decide
  have htype : ofType (Spec.parse t).name (OrderedMap.ofList columns) =
      .table (OrderedMap.ofList columns) := dif_pos h
  rw [parse_eq, if_neg hne, if_neg (not_not_intro h), hcolumns, ok_bind, htype]

/-- A return comes back from what is written of it. -/
theorem parse_text {r : Return} (h : r.WellFormed) : parse r.text = .ok r := by
  cases r with
  | value type hne =>
      -- the type may have parentheses of its own, as long as no `table` stands ahead of them
      obtain ⟨-, hname, htable⟩ := h
      have htype : ofType type OrderedMap.empty = .value type hne := dif_neg hne
      exact (parse_of_name_ne hname htable).trans (congrArg Except.ok htype)
  | table columns =>
      -- the columns are distinct, so all of them come back, in their order
      have hparts : text (.table columns) =
          tableReturnType ++ '(' :: (NamedArgs.list ';' (arguments columns) ++ [')']) := rfl
      have hspec : Spec.parse (text (.table columns)) =
          ⟨tableReturnType, NamedArgs.list ';' (arguments columns)⟩ := by
        rw [hparts, Spec.parse_call (by decide) (by decide)]
      have hentries : (NamedArgs.parse ';' (NamedArgs.list ';' (arguments columns))).entries =
          arguments columns := by
        rw [NamedArgs.WellFormed.parse_list (by decide) h, OrderedMap.entries_ofList]
        rw [keys_arguments]
        exact columns.nodup_keys
      have hcolumns : (arguments columns).mapM columnOfArg = .ok columns.entries :=
        mapM_map_eq_ok fun _ _ => rfl
      have hname : (Spec.parse (text (.table columns))).name = tableReturnType :=
        congrArg Spec.name hspec
      have hargs : (Spec.parse (text (.table columns))).args =
          NamedArgs.list ';' (arguments columns) := congrArg Spec.args hspec
      have hread : (NamedArgs.parse ';' (Spec.parse (text (.table columns))).args).entries.mapM
          columnOfArg = .ok columns.entries := by
        rw [hargs, hentries, hcolumns]
      rw [parse_of_name_eq hname hread, OrderedMap.ofList_entries]

end Return

/-! ## Lines -/

namespace FunctionEntry

/-- A line that an entry is written on reaches the reader as it is, and opens no body. -/
theorem isLine_line {e : FunctionEntry} (h : e.WellFormed) :
    Source.IsLine e.line ∧ e.line ≠ bodyOpening := by
  have hmarked : ∀ (marker : Marker) (rest : Text), Text.Inline rest →
      Source.IsLine (marker.line rest) ∧ marker.line rest ≠ bodyOpening := by
    intro marker rest hrest
    exact ⟨Source.isLine_marker marker hrest, marker.line_ne_bodyOpening rest⟩
  cases e with
  | name n => exact hmarked _ _ h.toInline
  | properties args => exact hmarked _ _ (NamedArgs.WellFormed.inline (by decide) h)
  | parameter p => exact hmarked _ _ (Parameter.inline_written h)
  | returns r => exact hmarked _ _ (Return.inline_text h)
  | body l => exact h.elim
  | ignored => exact h.elim

/-- A line says what the entry it was written for says. -/
theorem parse_line (mapping : Mapping) {e : FunctionEntry} (h : e.WellFormed) :
    parse mapping e.line = .ok e := by
  cases e with
  | name n =>
      have hname : Text.IsName n := h
      simp only [line, parse, Marker.split?_line, hname.trim_eq,
        Definition.readName_isName mapping hname]
      rfl
  | properties args =>
      have hlist := NamedArgs.WellFormed.inline (by decide) h
      simp only [line, parse, Marker.split?_line, hlist.trim_eq, Definition.readProperties_list h]
  | parameter p =>
      simp only [line, parse, Marker.split?_line, (Parameter.inline_written h).trim_eq,
        Parameter.parse_written h, Except.map]
  | returns r =>
      simp only [line, parse, Marker.split?_line, (Return.inline_text h).trim_eq,
        Return.parse_text h, Except.map]
  | body l => exact h.elim
  | ignored => exact h.elim

/-- Outside the body, the lines of entries are read as these entries. -/
theorem readLines_append (mapping : Mapping) {es : List FunctionEntry}
    (h : ∀ e ∈ es, e.WellFormed) {rest : List Text} {tail : List FunctionEntry}
    (hrest : readLines mapping false rest = .ok tail) :
    readLines mapping false (es.map line ++ rest) = .ok (es ++ tail) := by
  induction es with
  | nil => exact hrest
  | cons e es ih =>
      have he : e.WellFormed := h e List.mem_cons_self
      have hes := ih fun e' he' => h e' (List.mem_cons_of_mem _ he')
      rw [List.map_cons, List.cons_append, readLines, if_neg (isLine_line he).2,
        parse_line mapping he, during_ok, ok_bind, hes]
      rfl

/-- Up to its closing line, the lines of a body are read as they are. -/
theorem readLines_body (mapping : Mapping) {ls : List Text} (h : ∀ l ∈ ls, l.trim ≠ bodyClosing) :
    readLines mapping true (ls ++ [bodyClosing]) = .ok (ls.map .body) := by
  induction ls with
  | nil => rfl
  | cons l ls ih =>
      have hl : l.trim ≠ bodyClosing := h l List.mem_cons_self
      have hls := ih fun l' hl' => h l' (List.mem_cons_of_mem _ hl')
      rw [List.cons_append, readLines, if_neg hl, hls]
      rfl

end FunctionEntry

/-! ## Functions -/

namespace Function

/-- What the lines of a function say, the body at the end. -/
def allEntries (f : Function) : List FunctionEntry := f.entries ++ f.bodyLines.map FunctionEntry.body

/-- What a reading finds among the entries of a function, part by part. -/
theorem filterMap_allEntries {α : Type} (reading : FunctionEntry → Option α) (f : Function) :
    f.allEntries.filterMap reading =
      (reading (.name f.name)).toList ++ (reading (.properties f.properties)).toList ++
        f.params.filterMap (fun p => reading (.parameter p)) ++
        (reading (.returns f.returns)).toList ++
        f.bodyLines.filterMap (fun l => reading (.body l)) := by
  simp only [allEntries, entries, List.filterMap_append, filterMap_cons_toList,
    List.filterMap_map, Function.comp_def, List.append_assoc, List.filterMap_nil, List.nil_append]

/-- The entries of a function make it up again. -/
theorem ofEntries_allEntries (f : Function) : ofEntries f.allEntries = .ok f := by
  have hname : f.allEntries.filterMap FunctionEntry.name? = [f.name] := by
    simp [filterMap_allEntries, FunctionEntry.name?]
  have hproperties : f.allEntries.filterMap FunctionEntry.properties? = [f.properties] := by
    simp [filterMap_allEntries, FunctionEntry.properties?]
  have hparams : f.allEntries.filterMap FunctionEntry.parameter? = f.params := by
    simp [filterMap_allEntries, FunctionEntry.parameter?]
  have hreturns : f.allEntries.filterMap FunctionEntry.returns? = [f.returns] := by
    simp [filterMap_allEntries, FunctionEntry.returns?]
  have hbody : f.allEntries.filterMap FunctionEntry.body? = f.bodyLines := by
    simp [filterMap_allEntries, FunctionEntry.body?]
  rw [ofEntries, hname, hproperties, hparams, hreturns, hbody, bodyLines, Text.join_splitOn,
    Definition.mergeProperties_singleton]
  rfl

variable {f : Function}

theorem isLine_entries (h : f.WellFormed) :
    ∀ l ∈ "FUNC".toList :: f.entries.map FunctionEntry.line,
      Source.IsLine l ∧ l ≠ bodyOpening := by
  intro l hl
  rcases List.mem_cons.1 hl with rfl | hl
  · exact ⟨⟨by decide, by decide⟩, by decide⟩
  · obtain ⟨e, he, rfl⟩ := List.mem_map.1 hl
    exact FunctionEntry.isLine_line (h.entry e he)

/-- All lines of a function reach the reader as they are. -/
theorem blockLines_canonicalLines (h : f.WellFormed) :
    Source.blockLines bodyBlock false f.canonicalLines = f.canonicalLines := by
  have hparts : f.canonicalLines = ("FUNC".toList :: f.entries.map FunctionEntry.line) ++
      bodyOpening :: (f.bodyLines ++ [bodyClosing]) := rfl
  have hopening : ∀ rest, Source.blockLines bodyBlock false (bodyOpening :: rest) =
      bodyOpening :: Source.blockLines bodyBlock true rest := fun _ => rfl
  have hclosing : Source.blockLines bodyBlock true [bodyClosing] = [bodyClosing] := rfl
  -- between the markers nothing is trimmed and nothing is dropped
  have hbody := Source.blockLines_inside bodyBlock h.body_not_closed [bodyClosing]
  rw [hparts, Source.blockLines_append bodyBlock (isLine_entries h), hopening, hbody,
    hclosing]

/-- The lines of a function are read as the function. -/
theorem ofLines_canonicalLines (mapping : Mapping) (h : f.WellFormed) :
    ofLines mapping f.canonicalLines = .ok f := by
  have hfirst : Definition.afterFirstLine .function f.canonicalLines =
      .ok (f.entries.map FunctionEntry.line ++ bodyOpening :: (f.bodyLines ++ [bodyClosing])) :=
    Definition.afterFirstLine_discriminator .function _
  have hopening : FunctionEntry.readLines mapping false
      (bodyOpening :: (f.bodyLines ++ [bodyClosing])) = .ok (f.bodyLines.map .body) := by
    rw [FunctionEntry.readLines, if_pos rfl, FunctionEntry.readLines_body mapping h.body_not_closed]
  have hlines := FunctionEntry.readLines_append mapping h.entry hopening
  rw [ofLines, hfirst, ok_bind, hlines, ok_bind]
  exact ofEntries_allEntries f

end Function

end SchemaCompiler
