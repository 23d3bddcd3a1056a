import SchemaCompiler.Proofs.StatementText

namespace SchemaCompiler

/-! # Scripts of tables

The script of a plain table can be cut into its statements, and it tells all of the table but
descriptions and properties. Main statements:

* `Script.ofStatements_inj`: a script determines its statements;
* `Script.cutAfter_ofStatements`: cut behind its marks it gives them back;
* `Script.ofTable_faithful`: both for a whole table, under any schema.
-/

open Text

namespace Script

/-- A statement as it stands in a script. -/
def block (schema : Text) (statement : Statement) : Text := statement.write schema ++ "\n\n"

theorem mark_suffix_block (schema : Text) (s : Statement) : mark <:+ block schema s := by
  refine ⟨s.body schema, ?_⟩
  unfold block Statement.write
  rw [List.append_assoc]
  rfl

/-- The last newline of a block apart, only its front is left. -/
theorem block_eq (schema : Text) (s : Statement) :
    block schema s = s.write schema ++ ['\n'] ++ ['\n'] := by
  rw [List.append_assoc]
  rfl

theorem ofStatements_cons (schema : Text) (s : Statement) (ss : List Statement) :
    ofStatements schema (s :: ss) = block schema s ++ ofStatements schema ss :=
  List.flatMap_cons

/-- A script of plain statements determines them. -/
theorem ofStatements_inj {schema : Text} {ss ts : List Statement} (hss : ∀ s ∈ ss, s.Plain)
    (hts : ∀ t ∈ ts, t.Plain) (h : ofStatements schema ss = ofStatements schema ts) :
    ss.map Statement.written = ts.map Statement.written := by
  have hne : ∀ (s : Statement) (ss : List Statement), ofStatements schema (s :: ss) ≠ [] := by
    intro s ss hnil
    rw [ofStatements_cons, block_eq] at hnil
    simp at hnil
  induction ss generalizing ts with
  | nil =>
      cases ts with
      | nil => rfl
      | cons t ts => exact absurd h.symm (hne t ts)
  | cons s ss ih =>
      cases ts with
      | nil => exact absurd h (hne s ss)
      | cons t ts =>
          rw [ofStatements_cons, ofStatements_cons, block, block, List.append_assoc,
            List.append_assoc] at h
          obtain ⟨hwritten, hrest⟩ := Statement.write_append_inj (hss s List.mem_cons_self)
            (hts t List.mem_cons_self) h
          rw [List.map_cons, List.map_cons, hwritten,
            ih (fun s hs => hss s (List.mem_cons_of_mem _ hs))
              (fun t ht => hts t (List.mem_cons_of_mem _ ht)) (List.append_cancel_left hrest)]

/-- Cut behind its marks, a script of plain statements gives them back. -/
theorem cutAfter_ofStatements {schema : Text} {ss : List Statement} (hschema : ¬mark <:+: schema)
    (hss : ∀ s ∈ ss, s.Plain) :
    cutAfter mark [] (ofStatements schema ss) = ss.map (block schema) := by
  induction ss with
  | nil => rfl
  | cons s ss ih =>
      have hmark : mark <:+ s.write schema ++ ['\n'] ++ ['\n'] :=
        block_eq schema s ▸ mark_suffix_block schema s
      have hfree := Statement.mark_absent (hss s List.mem_cons_self) hschema
      rw [ofStatements_cons, block_eq, cutAfter_append hmark hfree,
        ih fun t ht => hss t (List.mem_cons_of_mem _ ht), List.map_cons, block_eq]

end Script

/-! ## Tables -/

namespace Statement

/-- The constraint that a statement adds. -/
def constraint? : Statement → Option Constraint
  | addConstraint _ constraint => some constraint
  | _ => none

/-- The index that a statement creates. -/
def index? : Statement → Option Index
  | createIndex _ index => some index
  | _ => none

end Statement

/-- A table whose names are plain, whose types and defaults fit, and whose keys are of their
kinds. -/
structure Table.Plain (t : Table) : Prop where
  name : Word t.name
  columns : ∀ c ∈ t.columns, c.Plain
  primaryKey : ∀ k ∈ t.primaryKey, k.Plain ∧ k.kind = .primaryKey
  uniqueKeys : ∀ k ∈ t.uniqueKeys, k.Plain ∧ k.kind = .unique
  indexes : ∀ i ∈ t.indexes, i.Plain

namespace Table

/-- The parts of the script of a table: the new table, its primary key, its unique keys and its
indexes. -/
def blocks (schema : Text) (t : Table) : List Text :=
  Script.block schema (.createTable t.name t.columns) ::
    (t.primaryKey.toList.map (fun k => Script.block schema (.addConstraint t.name k)) ++
      t.uniqueKeys.map (fun k => Script.block schema (.addConstraint t.name k)) ++
      t.indexes.map fun i => Script.block schema (.createIndex t.name i))

theorem map_block_ofTable (schema : Text) (t : Table) :
    (Statement.ofTable t).map (Script.block schema) = t.blocks schema := by
  simp [Statement.ofTable, blocks, Function.comp_def]

theorem length_blocks (schema : Text) (t : Table) : (t.blocks schema).length =
    1 + (if t.primaryKey.isSome then 1 else 0) + t.uniqueKeys.length + t.indexes.length := by
  have hkey : t.primaryKey.toList.length = if t.primaryKey.isSome then 1 else 0 := by
    cases t.primaryKey <;> rfl
  simp only [blocks, List.length_cons, List.length_append, List.length_map, hkey]
  omega

theorem Plain.ofTable {t : Table} (h : t.Plain) : ∀ s ∈ Statement.ofTable t, s.Plain := by
  intro s hs
  unfold Statement.ofTable at hs
  simp only [List.cons_append, List.mem_cons, List.mem_append, List.mem_map,
    Option.mem_toList] at hs
  rcases hs with rfl | ⟨k, hk | hk, rfl⟩ | ⟨i, hi, rfl⟩
  · exact ⟨h.name, h.columns⟩
  · exact ⟨h.name, (h.primaryKey k hk).1⟩
  · exact ⟨h.name, (h.uniqueKeys k hk).1⟩
  · exact ⟨h.name, h.indexes i hi⟩

/-- What a script tells of a table. -/
structure WrittenAlike (t u : Table) : Prop where
  name : t.name = u.name
  columns : t.columns.map Column.written = u.columns.map Column.written
  primaryKey : t.primaryKey = u.primaryKey
  uniqueKeys : t.uniqueKeys = u.uniqueKeys
  indexes : t.indexes = u.indexes

/-- The primary key stands ahead of the unique keys, and is none of them. -/
theorem keys_inj {t u : Table} (ht : t.Plain) (hu : u.Plain)
    (h : t.primaryKey.toList ++ t.uniqueKeys = u.primaryKey.toList ++ u.uniqueKeys) :
    t.primaryKey = u.primaryKey ∧ t.uniqueKeys = u.uniqueKeys := by
  have hkinds : ∀ {v w : Table} {k : Constraint}, v.Plain → w.Plain → k ∈ v.primaryKey →
      k ∉ w.uniqueKeys := by
    intro v w k hv hw hk hmem
    have hprimary : k.kind = .primaryKey := (hv.primaryKey k hk).2
    rw [(hw.uniqueKeys k hmem).2] at hprimary
    contradiction
  cases hp : t.primaryKey with
  | none =>
      cases hq : u.primaryKey with
      | none =>
          rw [hp, hq] at h
          exact ⟨rfl, h⟩
      | some l =>
          have hcons : t.uniqueKeys = l :: u.uniqueKeys := by simpa [hp, hq] using h
          have hmem : l ∈ t.uniqueKeys := hcons ▸ List.mem_cons_self
          exact absurd hmem (hkinds hu ht hq)
  | some k =>
      cases hq : u.primaryKey with
      | none =>
          have hcons : k :: t.uniqueKeys = u.uniqueKeys := by simpa [hp, hq] using h
          have hmem : k ∈ u.uniqueKeys := hcons ▸ List.mem_cons_self
          exact absurd hmem (hkinds ht hu hp)
      | some l =>
          rw [hp, hq] at h
          obtain ⟨hkl, hkeys⟩ := List.cons.inj h
          exact ⟨congrArg some hkl, hkeys⟩

/-- Tables of the same written statements are written alike. -/
theorem writtenAlike_of_map {t u : Table} (ht : t.Plain) (hu : u.Plain)
    (h : (Statement.ofTable t).map Statement.written =
      (Statement.ofTable u).map Statement.written) :
    t.WrittenAlike u := by
  have hkeys : ∀ v : Table, ((Statement.ofTable v).map Statement.written).filterMap
      Statement.constraint? = v.primaryKey.toList ++ v.uniqueKeys := by
    intro v
    simp [Statement.ofTable, Statement.written, Statement.constraint?, List.filterMap_cons,
      List.filterMap_map, Function.comp_def]
  have hindexes : ∀ v : Table, ((Statement.ofTable v).map Statement.written).filterMap
      Statement.index? = v.indexes := by
    intro v
    simp [Statement.ofTable, Statement.written, Statement.index?, List.filterMap_cons,
      List.filterMap_map, Function.comp_def]
  have hhead := (List.cons.inj h).1
  injection hhead with hname hcolumns
  have hboth : t.primaryKey.toList ++ t.uniqueKeys = u.primaryKey.toList ++ u.uniqueKeys := by
    rw [← hkeys t, h, hkeys]
  obtain ⟨hprimary, hunique⟩ := keys_inj ht hu hboth
  refine ⟨hname, hcolumns, hprimary, hunique, ?_⟩
  rw [← hindexes t, h, hindexes]

end Table

namespace Script

/-- The script of a plain table can be cut behind its marks into the parts of the table, unless the
schema brings a mark of its own, and tables of one script are written alike under any schema. -/
theorem ofTable_faithful (schema : Text) {t u : Table} (ht : t.Plain) (hu : u.Plain) :
    (cutAfter mark [] (ofObject schema (.table t)) = t.blocks schema ↔ ¬mark <:+: schema) ∧
      (t.blocks schema).length =
        1 + (if t.primaryKey.isSome then 1 else 0) + t.uniqueKeys.length + t.indexes.length ∧
      (ofObject schema (.table t) = ofObject schema (.table u) → t.WrittenAlike u) := by
  refine ⟨⟨fun hcut hschema => ?_, fun hschema => ?_⟩, t.length_blocks schema, fun h => ?_⟩
  · -- the new table names its schema before its end
    have hmem : block schema (.createTable t.name t.columns) ∈
        cutAfter mark [] (ofObject schema (.table t)) := hcut ▸ List.mem_cons_self
    refine not_infix_dropLast_of_mem_cutAfter (by decide) hmem (hschema.trans ?_)
    rw [block_eq, List.dropLast_concat, Statement.write_createTable]
    exact (List.infix_cons (List.prefix_append _ _).isInfix).trans (List.suffix_append _ _).isInfix
  · have hcut : cutAfter mark [] (ofStatements schema (Statement.ofTable t)) =
        (Statement.ofTable t).map (block schema) := cutAfter_ofStatements hschema ht.ofTable
    exact hcut.trans (t.map_block_ofTable schema)
  · exact Table.writtenAlike_of_map ht hu (ofStatements_inj ht.ofTable hu.ofTable h)

/-- A table of every part, with punctuation in a type and in a default. -/
def invoices : Table where
  name := "invoices"
  properties := OrderedMap.empty
  columns := [⟨"id", "int", true, none, some "Number"⟩,
    ⟨"total", "numeric(10,2)", true, some "0", none⟩,
    ⟨"note", "text", false, some "'paid, or not; \"open\"'", some "Remarks"⟩,
    ⟨"extra", "text", false, some "", none⟩]
  primaryKey := some ⟨"invoices_pk", .primaryKey, OrderedSet.ofList ["id"]⟩
  uniqueKeys := [⟨"invoices_unq", .unique, OrderedSet.ofList ["note", "total"]⟩]
  indexes := [⟨"invoices_idx", "btree",
    OrderedMap.ofList [("total", .descending), ("note", .ascending)]⟩]

/-- The same table without its descriptions. -/
def bareInvoices : Table := { invoices with columns := invoices.columns.map Column.written }

theorem ofTable_faithful_invoices :
    invoices.Plain ∧ bareInvoices.Plain ∧
      cutAfter mark [] (ofObject "queue" (.table invoices)) = invoices.blocks "queue" ∧
      (invoices.blocks "queue").length = 4 ∧ invoices.WrittenAlike bareInvoices := by
  have hinvoices : invoices.Plain := ⟨by decide, by decide, by decide, by decide, by decide⟩
  have hbare : bareInvoices.Plain := ⟨by decide, by decide, by decide, by decide, by decide⟩
  obtain ⟨hcut, hlength, hwritten⟩ := ofTable_faithful "queue" hinvoices hbare
  exact ⟨hinvoices, hbare, hcut.2 (by decide), hlength, hwritten rfl⟩

/-- A schema with a mark in its name cuts the one statement of a table in two. -/
theorem cut_in_schema :
    ∃ (schema : Text) (t : Table), t.Plain ∧
      (cutAfter mark [] (ofObject schema (.table t))).length ≠
        1 + (if t.primaryKey.isSome then 1 else 0) + t.uniqueKeys.length + t.indexes.length := by
  refine ⟨"a;\n\nb", ⟨"jobs", OrderedMap.empty, [], none, [], []⟩, ?_, ?_⟩
  · exact ⟨by decide, by decide, by decide, by decide, by decide⟩
  · decide

end Script

end SchemaCompiler
