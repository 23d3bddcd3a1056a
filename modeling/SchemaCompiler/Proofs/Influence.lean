import SchemaCompiler.Proofs.Expansion

namespace SchemaCompiler

/-! # What a mapping has an influence on

Reading a file under a mapping is reading it literally and expanding what was read
(`Object.parse_eq_expandResult`), so two mappings succeed and fail on the same files, give objects
that are expansions of one and the same literal object, and agree on everything but names and column
defaults (`Object.Agree`, `Object.parse_influence`). The proof follows the readers: each line, and
then each file, commutes with expansion.
-/

variable (m : Mapping)

/-! ## Lines of tables -/

theorem DefinitionLine.parse?_eq_expand (rest : Text) :
    parse? m rest = (parse? Mapping.literal rest).map (expand m) := by
  unfold parse?
  split
  rename_i object properties hsplit
  split
  · rfl
  · simp only [Option.map_some, expand, Mapping.literal_expand]

namespace Definition

theorem readName_eq_expandResult (rest : Text) :
    readName m rest = expandResult m m.expand (readName Mapping.literal rest) := by
  unfold readName
  split
  · rfl
  · rw [Mapping.literal_expand]
    rfl

theorem readLine_eq_expandResult (marker : Marker) (rest : Text) :
    readLine m marker rest =
      expandResult m (DefinitionLine.expand m) (readLine Mapping.literal marker rest) := by
  rw [readLine, readLine, DefinitionLine.parse?_eq_expand m]
  cases DefinitionLine.parse? Mapping.literal rest <;> rfl

end Definition

/-- The attributes of a column do not depend on its name, and of them only the default is expanded. -/
theorem Column.ofLine_expand (line : DefinitionLine) :
    ofLine m (line.expand m) = (ofLine Mapping.literal line).expand m := by
  have hdefault : ∀ d : Option Text, d.map m.expand =
      (d.map Mapping.literal.expand).map m.expand := by
    intro d
    cases d with
    | none => rfl
    | some d => rw [Option.map_some, Option.map_some, Option.map_some, Mapping.literal_expand]
  simp only [ofLine, expand, DefinitionLine.expand, ← hdefault]

/-- The kind of a constraint does not depend on the mapping, nor does whether it covers a column. -/
theorem Constraint.ofLine_expand (line : DefinitionLine) :
    ofLine m (line.expand m) = expandResult m (expand m) (ofLine Mapping.literal line) := by
  have hcolumns : OrderedSet.ofList ((args ',' line.args).map m.expand) =
      (OrderedSet.ofList (args ',' line.args)).map m.expand := (OrderedSet.map_ofList _ _).symm
  -- expansion may collapse columns, but never all of them away
  have hempty : ((OrderedSet.ofList (args ',' line.args)).map m.expand).elems = [] ↔
      (OrderedSet.ofList (args ',' line.args)).elems = [] := by
    rw [OrderedSet.map, OrderedSet.elems_ofList_eq_nil, List.map_eq_nil_iff]
  have hkind : (line.expand m).property? "type" = line.property? "type" := rfl
  have hargs : (line.expand m).args = line.args := rfl
  have hname : (line.expand m).name = m.expand line.name := rfl
  simp only [ofLine, hkind, hargs, hname, hcolumns, Mapping.map_literal_expand, hempty]
  cases line.property? "type" with
  | none => rfl
  | some type =>
      dsimp only
      cases ConstraintKind.ofText? type with
      | none => rfl
      | some kind =>
          by_cases h : (OrderedSet.ofList (args ',' line.args)).elems = []
          · simp only [h, if_true]
            rfl
          · simp only [h, if_false]
            rfl

/-- The order of an index column is read without a look at the mapping. -/
theorem SortOrder.expand_of_ofArg_eq_error {column : Text} {order : Option Text} {e : Error}
    (h : ofArg column order = .error e) : e.expand m = e := by
  unfold ofArg at h
  split at h
  · cases h
  · cases h
  · split at h
    · cases h
    · cases h
      rfl

namespace Index

/-- A column of an index as it is read from an argument. -/
def columnOfArg : Text × Option Text → Except Error (Text × SortOrder)
  | (column, order) => (SortOrder.ofArg column order).map fun order => (m.expand column, order)

theorem ofLine_eq (line : DefinitionLine) :
    ofLine m line = (NamedArgs.parse ',' line.args).entries.mapM (columnOfArg m) >>= fun columns =>
      if columns = [] then .error (.definition (.indexWithoutColumns line.name))
      else .ok ⟨line.name, (line.property? "type").getD defaultType, OrderedMap.ofList columns⟩ := by
  have hcolumn : columnOfArg m = (fun (column, order) => do
      let order ← SortOrder.ofArg column order
      pure (m.expand column, order)) := by
    funext (column, order)
    rw [columnOfArg]
    dsimp only
    cases SortOrder.ofArg column order <;> rfl
  rw [ofLine, hcolumn]
  rfl

theorem columnOfArg_eq_expandResult (arg : Text × Option Text) :
    columnOfArg m arg =
      expandResult m (Prod.map m.expand id) (columnOfArg Mapping.literal arg) := by
  obtain ⟨column, order⟩ := arg
  rw [columnOfArg, columnOfArg, Mapping.literal_expand]
  exact map_eq_expandResult (fun _ => rfl) fun e he => SortOrder.expand_of_ofArg_eq_error m he

/-- The sort orders of an index do not depend on the mapping, nor does whether it covers a column. -/
theorem ofLine_expand (line : DefinitionLine) :
    ofLine m (line.expand m) = expandResult m (expand m) (ofLine Mapping.literal line) := by
  have htype : (line.expand m).property? "type" = line.property? "type" := rfl
  have hargs : (line.expand m).args = line.args := rfl
  have hname : (line.expand m).name = m.expand line.name := rfl
  have hcolumns : (NamedArgs.parse ',' line.args).entries.mapM (columnOfArg m) =
      expandResult m (List.map (Prod.map m.expand id))
        ((NamedArgs.parse ',' line.args).entries.mapM (columnOfArg Mapping.literal)) :=
    expandResult_mapM fun entry _ => columnOfArg_eq_expandResult m entry
  simp only [ofLine_eq, htype, hargs, hname, hcolumns]
  cases hread : (NamedArgs.parse ',' line.args).entries.mapM (columnOfArg Mapping.literal) with
  | error e => rfl
  | ok columns =>
      -- names that are distinct as written need not be collapsed before they are expanded
      have hkeys : columns.map Prod.fst = (NamedArgs.parse ',' line.args).entries.map Prod.fst := by
        refine map_eq_of_mapM_eq_ok ?_ hread
        intro (column, order) y hy
        rw [columnOfArg, Mapping.literal_expand] at hy
        obtain ⟨order', -, rfl⟩ := exists_of_map_eq_ok hy
        rfl
      have hentries : (OrderedMap.ofList columns).entries = columns := by
        apply OrderedMap.entries_ofList
        rw [hkeys]
        exact (NamedArgs.parse ',' line.args).nodup_keys
      by_cases h : columns = []
      · subst h
        rfl
      · have hmap : columns.map (Prod.map m.expand id) ≠ [] := by
          rwa [Ne, List.map_eq_nil_iff]
        simp only [expandResult, ok_bind, if_neg h, if_neg hmap, expand, OrderedMap.mapKeys,
          hentries]

end Index

theorem TableEntry.parse_eq_expandResult (line : Text) :
    parse m line = expandResult m (expand m) (parse Mapping.literal line) := by
  unfold parse
  split
  · rw [Definition.readName_eq_expandResult m]
    refine expandResult_map ?_ _
    exact fun _ => rfl
  · rfl
  · rw [Definition.readLine_eq_expandResult m]
    refine expandResult_map ?_ _
    intro line
    rw [Column.ofLine_expand m]
    rfl
  · rw [Definition.readLine_eq_expandResult m]
    refine expandResult_bind (fun line => ?_) _
    rw [Constraint.ofLine_expand m]
    refine expandResult_map ?_ _
    exact fun _ => rfl
  · rw [Definition.readLine_eq_expandResult m]
    refine expandResult_bind (fun line => ?_) _
    rw [Index.ofLine_expand m]
    refine expandResult_map ?_ _
    exact fun _ => rfl
  · rfl

/-! ## Lines of sequences and functions -/

theorem SequenceEntry.parse_eq_expandResult (line : Text) :
    parse m line = expandResult m (expand m) (parse Mapping.literal line) := by
  unfold parse
  split
  · rw [Definition.readName_eq_expandResult m]
    refine expandResult_map ?_ _
    exact fun _ => rfl
  · rfl
  · rfl

/-- A parameter is read without a look at the mapping. -/
theorem Parameter.expand_of_parse_eq_error {t : Text} {e : Error} (h : parse t = .error e) :
    e.expand m = e := by
  unfold parse at h
  dsimp only at h
  split at h
  · cases h
    rfl
  · unfold Direction.ofArg at h
    split at h
    · cases h
    · split at h
      · cases h
      · cases h
        rfl

/-- A return is read without a look at the mapping. -/
theorem Return.expand_of_parse_eq_error {t : Text} {e : Error} (h : parse t = .error e) :
    e.expand m = e := by
  unfold parse at h
  dsimp only at h
  split at h
  · cases h
    rfl
  · split at h
    · cases h
    · rcases bind_eq_error_iff.1 h with hcolumns | ⟨columns, -, hpure⟩
      · obtain ⟨-, ⟨column, _ | type⟩, -, -, -, harg⟩ := mapM_eq_error_iff.1 hcolumns
        · cases harg
          rfl
        · cases harg
      · cases hpure

namespace FunctionEntry

theorem parse_eq_expandResult (line : Text) :
    parse m line = expandResult m (expand m) (parse Mapping.literal line) := by
  unfold parse
  split
  · rw [Definition.readName_eq_expandResult m]
    refine expandResult_map ?_ _
    exact fun _ => rfl
  · rfl
  · exact map_eq_expandResult (fun _ => rfl) fun e he => Parameter.expand_of_parse_eq_error m he
  · exact map_eq_expandResult (fun _ => rfl) fun e he => Return.expand_of_parse_eq_error m he
  · rfl

/-- The lines of a file are told apart without a look at the mapping. -/
theorem readLines_eq_expandResult (inBody : Bool) (lines : List Text) :
    readLines m inBody lines =
      expandResult m (List.map (expand m)) (readLines Mapping.literal inBody lines) := by
  induction lines generalizing inBody with
  | nil => cases inBody <;> rfl
  | cons line rest ih =>
      cases inBody with
      | true =>
          rw [readLines, readLines]
          split
          · exact ih false
          · rw [ih true]
            refine expandResult_map ?_ _
            exact fun _ => rfl
      | false =>
          rw [readLines, readLines]
          split
          · exact ih true
          · rw [parse_eq_expandResult m, expandResult_during]
            refine expandResult_bind ?_ _
            intro entry
            rw [ih false]
            refine expandResult_map ?_ _
            exact fun _ => rfl

end FunctionEntry

/-! ## Objects -/

theorem Definition.lastName_map_expand (kind : ObjectKind) (names : List Text) :
    lastName kind (names.map m.expand) = expandResult m m.expand (lastName kind names) := by
  rw [lastName, lastName, List.getLast?_map]
  cases names.getLast? <;> rfl

/-- The first line is checked without a look at the mapping. -/
theorem Definition.expand_of_afterFirstLine_eq_error {kind : ObjectKind} {lines : List Text}
    {e : Error} (h : afterFirstLine kind lines = .error e) : e.expand m = e := by
  unfold afterFirstLine at h
  split at h
  · cases h
    rfl
  · split at h
    · cases h
    · cases h
      rfl

namespace Table

/-- What is put together from expanded entries is expanded. -/
theorem ofEntries_expand (entries : List TableEntry) :
    ofEntries (entries.map (TableEntry.expand m)) =
      expandResult m (expand m) (ofEntries entries) := by
  have hnames : (entries.map (TableEntry.expand m)).filterMap TableEntry.name? =
      (entries.filterMap TableEntry.name?).map m.expand :=
    filterMap_map_comm (fun e => by cases e <;> rfl) entries
  have hproperties : (entries.map (TableEntry.expand m)).filterMap TableEntry.properties? =
      (entries.filterMap TableEntry.properties?).map id :=
    filterMap_map_comm (fun e => by cases e <;> rfl) entries
  have hcolumns : (entries.map (TableEntry.expand m)).filterMap TableEntry.column? =
      (entries.filterMap TableEntry.column?).map (Column.expand m) :=
    filterMap_map_comm (fun e => by cases e <;> rfl) entries
  have hindexes : (entries.map (TableEntry.expand m)).filterMap TableEntry.index? =
      (entries.filterMap TableEntry.index?).map (Index.expand m) :=
    filterMap_map_comm (fun e => by cases e <;> rfl) entries
  -- a key is found by its kind, which is not expanded
  have hconstraint : ∀ (kind : ConstraintKind) (e : TableEntry),
      (e.expand m).constraint? kind = (e.constraint? kind).map (Constraint.expand m) := by
    intro kind e
    cases e with
    | constraint c =>
        have hkind : (c.expand m).kind = c.kind := rfl
        simp only [TableEntry.expand, TableEntry.constraint?, hkind]
        split <;> rfl
    | _ => rfl
  have hconstraints : ∀ kind : ConstraintKind,
      (entries.map (TableEntry.expand m)).filterMap (TableEntry.constraint? kind) =
        (entries.filterMap (TableEntry.constraint? kind)).map (Constraint.expand m) :=
    fun kind => filterMap_map_comm (hconstraint kind) entries
  rw [ofEntries, hnames, hproperties, hcolumns, hindexes, hconstraints, hconstraints,
    Definition.lastName_map_expand, List.getLast?_map, List.map_id]
  refine expandResult_bind ?_ _
  exact fun _ => rfl

theorem ofLines_eq_expandResult (lines : List Text) :
    ofLines m lines = expandResult m (expand m) (ofLines Mapping.literal lines) := by
  refine bind_eq_expandResult ?_ fun e he => Definition.expand_of_afterFirstLine_eq_error m he
  intro rest
  rw [expandResult_readingLines (TableEntry.parse_eq_expandResult m)]
  exact expandResult_bind (ofEntries_expand m) _

end Table

namespace Sequence

/-- What is put together from expanded entries is expanded. -/
theorem ofEntries_expand (entries : List SequenceEntry) :
    ofEntries (entries.map (SequenceEntry.expand m)) =
      expandResult m (expand m) (ofEntries entries) := by
  have hnames : (entries.map (SequenceEntry.expand m)).filterMap SequenceEntry.name? =
      (entries.filterMap SequenceEntry.name?).map m.expand :=
    filterMap_map_comm (fun e => by cases e <;> rfl) entries
  have hproperties : (entries.map (SequenceEntry.expand m)).filterMap SequenceEntry.properties? =
      (entries.filterMap SequenceEntry.properties?).map id :=
    filterMap_map_comm (fun e => by cases e <;> rfl) entries
  rw [ofEntries, hnames, hproperties, Definition.lastName_map_expand, List.map_id]
  refine expandResult_bind ?_ _
  exact fun _ => rfl

theorem ofLines_eq_expandResult (lines : List Text) :
    ofLines m lines = expandResult m (expand m) (ofLines Mapping.literal lines) := by
  refine bind_eq_expandResult ?_ fun e he => Definition.expand_of_afterFirstLine_eq_error m he
  intro rest
  rw [expandResult_readingLines (SequenceEntry.parse_eq_expandResult m)]
  exact expandResult_bind (ofEntries_expand m) _

end Sequence

namespace Function

/-- What is put together from expanded entries is expanded. -/
theorem ofEntries_expand (entries : List FunctionEntry) :
    ofEntries (entries.map (FunctionEntry.expand m)) =
      expandResult m (expand m) (ofEntries entries) := by
  have hnames : (entries.map (FunctionEntry.expand m)).filterMap FunctionEntry.name? =
      (entries.filterMap FunctionEntry.name?).map m.expand :=
    filterMap_map_comm (fun e => by cases e <;> rfl) entries
  have hproperties : (entries.map (FunctionEntry.expand m)).filterMap FunctionEntry.properties? =
      (entries.filterMap FunctionEntry.properties?).map id :=
    filterMap_map_comm (fun e => by cases e <;> rfl) entries
  have hparameters : (entries.map (FunctionEntry.expand m)).filterMap FunctionEntry.parameter? =
      (entries.filterMap FunctionEntry.parameter?).map id :=
    filterMap_map_comm (fun e => by cases e <;> rfl) entries
  have hreturns : (entries.map (FunctionEntry.expand m)).filterMap FunctionEntry.returns? =
      (entries.filterMap FunctionEntry.returns?).map id :=
    filterMap_map_comm (fun e => by cases e <;> rfl) entries
  have hbody : (entries.map (FunctionEntry.expand m)).filterMap FunctionEntry.body? =
      (entries.filterMap FunctionEntry.body?).map id :=
    filterMap_map_comm (fun e => by cases e <;> rfl) entries
  rw [ofEntries, hnames, hproperties, hparameters, hreturns, hbody,
    Definition.lastName_map_expand]
  simp only [List.map_id]
  refine expandResult_bind ?_ _
  exact fun _ => rfl

theorem ofLines_eq_expandResult (lines : List Text) :
    ofLines m lines = expandResult m (expand m) (ofLines Mapping.literal lines) := by
  refine bind_eq_expandResult ?_ fun e he => Definition.expand_of_afterFirstLine_eq_error m he
  intro rest
  rw [FunctionEntry.readLines_eq_expandResult m]
  exact expandResult_bind (ofEntries_expand m) _

end Function

/-! ## Files -/

/-- The columns agree in all but their names and default texts. -/
structure Column.Agree (c d : Column) : Prop where
  type : c.type = d.type
  notNull : c.notNull = d.notNull
  default : c.default.isSome = d.default.isSome
  description : c.description = d.description

/-- The tables agree in all but names, default texts and the columns of keys and indexes. -/
structure Table.Agree (t u : Table) : Prop where
  properties : t.properties = u.properties
  columns : List.Forall₂ Column.Agree t.columns u.columns
  primaryKey : t.primaryKey.map Constraint.kind = u.primaryKey.map Constraint.kind
  uniqueKeys : t.uniqueKeys.map Constraint.kind = u.uniqueKeys.map Constraint.kind
  indexes : t.indexes.map Index.type = u.indexes.map Index.type

/-- The functions agree in all but their names. -/
structure Function.Agree (f g : Function) : Prop where
  properties : f.properties = g.properties
  params : f.params = g.params
  returns : f.returns = g.returns
  body : f.body = g.body

namespace Object

/-- The objects are of one kind and agree in all that no mapping has an influence on. -/
def Agree : Object → Object → Prop
  | table t, table u => t.Agree u
  | sequence s, sequence r => s.properties = r.properties
  | function f, function g => f.Agree g
  | _, _ => False

/-- The expansions of one object agree. -/
theorem agree_expand (raw : Object) (m₁ m₂ : Mapping) : (raw.expand m₁).Agree (raw.expand m₂) := by
  cases raw with
  | table t =>
      refine ⟨rfl, ?_, ?_, ?_, ?_⟩
      · simp only [Table.expand]
        rw [List.forall₂_map_left_iff, List.forall₂_map_right_iff, List.forall₂_same]
        exact fun c _ => ⟨rfl, rfl, by simp only [Column.expand, Option.isSome_map], rfl⟩
      · simp only [Table.expand, Option.map_map]
        rfl
      · simp only [Table.expand, List.map_map]
        rfl
      · simp only [Table.expand, List.map_map]
        rfl
  | sequence s => rfl
  | function f => exact ⟨rfl, rfl, rfl, rfl⟩

/-- Reading under a mapping is reading literally and expanding what was read. -/
theorem parse_eq_expandResult (kind : ObjectKind) (contents : Text) :
    parse m kind contents =
      expandResult m (expand m) (parse Mapping.literal kind contents) := by
  cases kind with
  | table =>
      rw [parse, parse, Table.ofLines_eq_expandResult m]
      refine expandResult_map ?_ _
      exact fun _ => rfl
  | sequence =>
      rw [parse, parse, Sequence.ofLines_eq_expandResult m]
      refine expandResult_map ?_ _
      exact fun _ => rfl
  | function =>
      rw [parse, parse, Function.ofLines_eq_expandResult m]
      refine expandResult_map ?_ _
      exact fun _ => rfl

/-- Two mappings read the same files. What they read is the expansion of one and the same literal
object and agrees in all but names and column defaults; where they fail, they fail with errors of the
same categories. -/
theorem parse_influence (kind : ObjectKind) (contents : Text) (m₁ m₂ : Mapping) :
    match parse m₁ kind contents, parse m₂ kind contents with
    | .ok o₁, .ok o₂ => (∃ raw : Object, o₁ = raw.expand m₁ ∧ o₂ = raw.expand m₂) ∧ o₁.Agree o₂
    | .error e₁, .error e₂ => ∀ category, e₁.is category = e₂.is category
    | _, _ => False := by
  rw [parse_eq_expandResult m₁, parse_eq_expandResult m₂]
  cases parse Mapping.literal kind contents with
  | ok raw => exact ⟨⟨raw, rfl, rfl⟩, agree_expand raw m₁ m₂⟩
  | error e =>
      intro category
      rw [Error.is_expand, Error.is_expand]

end Object

end SchemaCompiler
