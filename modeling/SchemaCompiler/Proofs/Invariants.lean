import SchemaCompiler.Proofs.Declarations

namespace SchemaCompiler

/-! # Invariants of objects that were read

What holds of every object that a file was read as, under every mapping: its keys are of their kinds
and come from the lines that declare them, keys and indexes cover distinct columns and at least one,
property keys can be told apart from what surrounds them, and only a table return has columns. Main
statement: `Object.sound_of_parse`.

Columns are collapsed after they are expanded, so texts that differ may or may not become one
column; all statements are about the expanded names.
-/

/-! ## Keys of named arguments -/

namespace NamedArgs

/-- A key that is found again where it stands in a list. -/
structure CleanKey (sep : Char) (key : Text) : Prop where
  ne_nil : key ≠ []
  trimmed : Text.Trimmed key
  sep_not_mem : sep ∉ key
  equals_not_mem : '=' ∉ key

theorem cleanKey_of_ofPiece? {sep : Char} {piece : Text} {entry : Text × Option Text}
    (htrim : Text.Trimmed piece) (hsep : sep ∉ piece) (h : ofPiece? piece = some entry) :
    CleanKey sep entry.1 := by
  cases hcut : piece.splitOnce '=' with
  | none =>
      simp only [ofPiece?, hcut] at h
      split at h
      · cases h
      · rename_i hne
        cases h
        exact ⟨hne, htrim, hsep, Text.splitOnce_eq_none hcut⟩
  | some cut =>
      obtain ⟨key, value⟩ := cut
      obtain ⟨hpiece, hequals⟩ := Text.splitOnce_eq_some hcut
      have hkey : ∀ c ∈ key.trim, c ∈ key := fun c => Text.mem_of_mem_trim
      simp only [ofPiece?, hcut] at h
      split at h
      · cases h
      · rename_i hne
        cases h
        refine ⟨hne, Text.trimmed_trim key, fun hmem => ?_, fun hmem => hequals (hkey _ hmem)⟩
        rw [hpiece] at hsep
        exact hsep (List.mem_append_left _ (hkey _ hmem))

theorem cleanKey_of_mem_assignments {sep : Char} {t : Text} {entry : Text × Option Text}
    (h : entry ∈ assignments sep t) : CleanKey sep entry.1 := by
  unfold assignments at h
  obtain ⟨piece, hpiece, hentry⟩ := List.mem_filterMap.1 h
  unfold args at hpiece
  obtain ⟨raw, hraw, rfl⟩ := List.mem_map.1 (List.mem_of_mem_filter hpiece)
  have hsep : sep ∉ raw.trim := fun hmem =>
    Text.not_mem_of_mem_splitOn hraw (Text.mem_of_mem_trim hmem)
  exact cleanKey_of_ofPiece? (Text.trimmed_trim raw) hsep hentry

/-- Every key that is read from a list is clean. -/
theorem cleanKey_of_mem_parse {sep : Char} {t key : Text} (h : key ∈ (parse sep t).keys) :
    CleanKey sep key := by
  rw [parse, OrderedMap.keys_ofList, List.mem_eraseDups] at h
  obtain ⟨entry, hentry, rfl⟩ := List.mem_map.1 h
  exact cleanKey_of_mem_assignments hentry

end NamedArgs

/-- Properties of several lines have the keys of these lines. -/
theorem Definition.mem_keys_mergeProperties {lines : List NamedArgs} {key : Text} :
    key ∈ (mergeProperties lines).keys ↔ ∃ args ∈ lines, key ∈ args.keys := by
  have hstep : ∀ (lines : List NamedArgs) (map : Properties),
      key ∈ (lines.foldl OrderedMap.extend map).keys ↔
        key ∈ map.keys ∨ ∃ args ∈ lines, key ∈ args.keys := by
    intro lines
    induction lines with
    | nil => intro map; simp
    | cons args rest ih =>
        intro map
        have hextend : key ∈ (map.extend args).keys ↔ key ∈ map.keys ∨ key ∈ args.keys :=
          OrderedMap.mem_keys_insertAll
        rw [List.foldl_cons, ih, hextend]
        simp [or_assoc]
  rw [mergeProperties, hstep]
  simp [OrderedMap.empty, OrderedMap.keys]

/-! ## Objects -/

open DefinitionLine (argsOf)
open Grammar (ReturnOf rests keyRests)

/-- What holds of a table: it is what its lines declare, its keys are of their kinds, and keys and
indexes list distinct columns, one at least. -/
structure Table.Sound (m : Mapping) (contents : Text) (t : Table) : Prop
    extends t.DeclaredBy m contents where
  primaryKind : ∀ key ∈ t.primaryKey, key.kind = .primaryKey
  uniqueKinds : ∀ key ∈ t.uniqueKeys, key.kind = .unique
  keys_cover : ∀ key ∈ t.primaryKey.toList ++ t.uniqueKeys,
    key.columns.elems ≠ [] ∧ key.columns.elems.Nodup
  indexes_cover : ∀ index ∈ t.indexes, index.columns.keys ≠ [] ∧ index.columns.keys.Nodup
  inPrimaryKey_iff : ∀ name, t.inPrimaryKey name = true ↔
    ∃ rest ∈ (keyRests .primaryKey contents).getLast?, name ∈ (args ',' (argsOf rest)).map m.expand
  inUniqueKey_iff : ∀ name, t.inUniqueKey name = true ↔
    ∃ rest ∈ keyRests .unique contents, name ∈ (args ',' (argsOf rest)).map m.expand

/-- What holds of a function: it returns what the last of its lines declares, and rows of distinct
columns if any. -/
structure Function.Sound (contents : Text) (f : Function) : Prop where
  returns : ∃ declared, Option.Rel ReturnOf (rests .function .returns contents).getLast? declared ∧
    f.returns = declared.getD Return.default
  type_of_columns : f.returns.columns.keys ≠ [] → f.returns.type = tableReturnType
  columns_nodup : f.returns.columns.keys.Nodup

/-- What holds of an object. -/
structure Object.Sound (m : Mapping) (contents : Text) (object : Object) : Prop where
  keys_nodup : object.properties.keys.Nodup
  keys_clean : ∀ key ∈ object.properties.keys, NamedArgs.CleanKey ';' key
  table : ∀ t, object = .table t → t.Sound m contents
  function : ∀ f, object = .function f → f.Sound contents

section

variable {α β : Type} {R : α → β → Prop} {xs : List α} {ys : List β}

/-- What every related element has, every element of the second list has. -/
theorem forall_of_forall₂ {q : β → Prop} (h : List.Forall₂ R xs ys) (hq : ∀ x y, R x y → q y) :
    ∀ y ∈ ys, q y := by
  induction h with
  | nil => exact nofun
  | cons hhead _ ih => exact List.forall_mem_cons.2 ⟨hq _ _ hhead, ih⟩

theorem exists_iff_of_forall₂ {p : α → Prop} {q : β → Prop} (h : List.Forall₂ R xs ys)
    (hpq : ∀ x y, R x y → (p x ↔ q y)) : (∃ x ∈ xs, p x) ↔ ∃ y ∈ ys, q y := by
  induction h with
  | nil => simp
  | cons hhead _ ih => simp only [List.exists_mem_cons_iff, hpq _ _ hhead, ih]

theorem forall₂_toList {x : Option α} {y : Option β} (h : Option.Rel R x y) :
    List.Forall₂ R x.toList y.toList := by
  cases h with
  | none => exact .nil
  | some h => exact .cons h .nil

end

/-- A key covers the expanded names that its line lists. -/
theorem Grammar.KeyOf.contains_iff {m : Mapping} {kind : ConstraintKind} {rest name : Text}
    {key : Constraint} (h : Grammar.KeyOf m kind rest key) :
    key.columns.contains name = true ↔ name ∈ (args ',' (argsOf rest)).map m.expand := by
  rw [OrderedSet.contains_iff, h.columns, List.mem_eraseDups]

/-- A table that is what its lines declare is sound. -/
theorem Table.DeclaredBy.sound {m : Mapping} {contents : Text} {t : Table}
    (h : t.DeclaredBy m contents) : t.Sound m contents := by
  have hprimary := forall₂_toList h.primaryKey
  have hkind : ∀ key ∈ t.primaryKey.toList, key.kind = .primaryKey :=
    forall_of_forall₂ hprimary fun _ _ hkey => hkey.kind
  have hkeys : ∀ {kind : ConstraintKind} {lines : List Text} {keys : List Constraint},
      List.Forall₂ (Grammar.KeyOf m kind) lines keys →
        ∀ key ∈ keys, key.columns.elems ≠ [] ∧ key.columns.elems.Nodup := fun hkeys =>
    forall_of_forall₂ hkeys fun _ key hkey => ⟨hkey.columns_ne_nil, key.columns.nodup_elems⟩
  refine
    { h with
      primaryKind := fun key hkey => hkind key (Option.mem_toList.2 hkey)
      uniqueKinds := forall_of_forall₂ h.uniqueKeys fun _ _ hkey => hkey.kind
      keys_cover := ?_
      indexes_cover := ?_
      inPrimaryKey_iff := ?_
      inUniqueKey_iff := ?_ }
  · intro key hkey
    rcases List.mem_append.1 hkey with hkey | hkey
    · exact hkeys hprimary key hkey
    · exact hkeys h.uniqueKeys key hkey
  · exact forall_of_forall₂ h.indexes fun _ index hindex =>
      ⟨hindex.columns_ne_nil, index.columns.nodup_keys⟩
  · intro name
    -- one primary key at most is asked as a list of keys is
    have hany : t.inPrimaryKey name = true ↔
        ∃ key ∈ t.primaryKey.toList, key.columns.contains name = true := by
      unfold Table.inPrimaryKey
      cases t.primaryKey <;> simp
    rw [hany, ← exists_iff_of_forall₂ hprimary fun _ _ hkey => hkey.contains_iff.symm]
    simp only [Option.mem_toList, Option.mem_def]
  · intro name
    unfold Table.inUniqueKey
    rw [List.any_eq_true]
    exact (exists_iff_of_forall₂ h.uniqueKeys fun _ _ hkey => hkey.contains_iff.symm).symm

namespace Object

variable {m : Mapping} {contents : Text}

/-- Whatever kind of object a file is read as, the object is sound. -/
theorem sound_of_parse {kind : ObjectKind} {object : Object}
    (h : parse m kind contents = .ok object) : object.Sound m contents := by
  -- a file is read as an object of the kind asked for, so the lines looked at are those of the object
  have hkind : kind = object.kind := by
    unfold parse at h
    cases kind <;> (obtain ⟨_, -, rfl⟩ := exists_of_map_eq_ok h; rfl)
  refine
    { keys_nodup := object.properties.nodup_keys
      keys_clean := ?_
      table := ?_
      function := ?_ }
  · intro key hkey
    rw [properties_of_parse h, Definition.mem_keys_mergeProperties] at hkey
    obtain ⟨args, hargs, hkey⟩ := hkey
    obtain ⟨rest, -, rfl⟩ := List.mem_map.1 hargs
    exact NamedArgs.cleanKey_of_mem_parse hkey
  · rintro t rfl
    rw [hkind] at h
    exact (declaredBy_of_parse h).sound
  · rintro f rfl
    rw [hkind] at h
    refine ⟨returns_of_parse h, fun hcolumns => ?_, f.returns.columns.nodup_keys⟩
    cases hreturns : f.returns with
    | value type hne =>
        rw [hreturns] at hcolumns
        exact absurd rfl hcolumns
    | table columns => rfl

/-- A table with a column that is written in two ways. -/
def queueContents : Text :=
  "TBL\nNAME:q\nCONSTRAINT:k($metrics_table_name$,id);type=pk\nIDX:i($metrics_table_name$,id=desc)"

/-- The mapping under which the two ways mean one column. -/
def queueMapping : Mapping := Mapping.default.assign .metricsTable "id"

def queueTable : Table where
  name := "q"
  properties := OrderedMap.empty
  columns := []
  primaryKey := some ⟨"k", .primaryKey, OrderedSet.ofList ["id"]⟩
  uniqueKeys := []
  indexes := [⟨"i", "btree", OrderedMap.ofList [("id", .descending)]⟩]

theorem sound_of_parse_queue :
    parse queueMapping .table queueContents = .ok (.table queueTable) ∧
      (Object.table queueTable).Sound queueMapping queueContents := by
  have hparse : parse queueMapping .table queueContents = .ok (.table queueTable) := by
    decide +kernel
  exact ⟨hparse, sound_of_parse hparse⟩

end Object

end SchemaCompiler
