import SchemaCompiler.Proofs.Invariants

namespace SchemaCompiler

/-! # Names that are empty

A mapping without empty values leaves no name empty that was not empty as written
(`Mapping.expand_eq_nil_iff`). A table is never nameless and lists no nameless column in a key or an
index. A column, a constraint or an index is nameless exactly if its line goes straight on to its
parentheses behind the marker, since a line is only asked to hold something ahead of its properties
and the parentheses are enough for that. Main statement: `Object.emptyNames_of_parse`.
-/

/-! ## Expansion -/

/-- A text that holds something does so behind a replacement by something. -/
theorem Text.replaceAll_ne_nil {t replacement : Text} (pattern : Text) (ht : t ≠ [])
    (hreplacement : replacement ≠ []) : t.replaceAll pattern replacement ≠ [] := by
  unfold replaceAll
  split
  · exact ht
  · obtain ⟨c, cs, rfl⟩ := List.exists_cons_of_ne_nil ht
    unfold replaceFrom
    split
    · intro h
      exact hreplacement (List.append_eq_nil_iff.1 h).1
    · exact List.cons_ne_nil _ _

namespace Mapping

/-- No token has an empty value. -/
def Full (m : Mapping) : Prop := ∀ token, m.value token ≠ []

theorem expand_ne_nil {m : Mapping} (hm : m.Full) {t : Text} (ht : t ≠ []) : m.expand t ≠ [] := by
  -- one token after another leaves something
  have hfold : ∀ (tokens : List Token) (t : Text), t ≠ [] →
      tokens.foldl (fun acc token => Text.replaceAll acc token.placeholder (m.value token)) t ≠
        [] := by
    intro tokens
    induction tokens with
    | nil => exact fun _ ht => ht
    | cons token rest ih =>
        intro t ht
        exact ih _ (Text.replaceAll_ne_nil _ ht (hm token))
  exact hfold Token.all t ht

theorem expand_eq_nil_iff {m : Mapping} (hm : m.Full) {t : Text} : m.expand t = [] ↔ t = [] := by
  constructor
  · intro h
    by_contra ht
    exact expand_ne_nil hm ht h
  · rintro rfl
    exact expand_of_not_mem m List.not_mem_nil

end Mapping

/-! ## Lines without a name -/

namespace DefinitionLine

/-- The line goes straight on to its parentheses, which it closes. -/
def Nameless (rest : Text) : Prop :=
  ∃ inner back, objectOf rest = '(' :: (inner ++ ')' :: back)

/-- A line that holds something has no name exactly if it begins with its parentheses. -/
theorem nameOf_eq_nil_iff {rest : Text} (hobject : objectOf rest ≠ []) :
    nameOf rest = [] ↔ Nameless rest := by
  unfold nameOf Nameless
  have htrimmed : Text.Trimmed (objectOf rest) := Text.trimmed_trim _
  generalize objectOf rest = t at hobject htrimmed ⊢
  have htrim : t.trim = t := Text.trim_eq_self htrimmed
  -- without a parenthesis that is opened and closed, the whole line is the name
  cases hopen : t.splitOnce '(' with
  | none =>
      have hname : (Spec.parse t).name = t := by simp [Spec.parse, htrim, hopen]
      rw [hname]
      refine iff_of_false hobject ?_
      rintro ⟨inner, back, rfl⟩
      exact Text.splitOnce_eq_none hopen List.mem_cons_self
  | some cut =>
      obtain ⟨front, tail⟩ := cut
      obtain ⟨ht, hfront⟩ := Text.splitOnce_eq_some hopen
      -- the first parenthesis comes first only behind an empty front
      have hbegins : ∀ {u : Text}, t = '(' :: u → front = [] ∧ tail = u := by
        intro u hu
        rw [ht] at hu
        cases front with
        | nil => exact ⟨rfl, (List.cons.inj hu).2⟩
        | cons c cs =>
            rw [(List.cons.inj hu).1] at hfront
            exact absurd List.mem_cons_self hfront
      cases hclose : tail.splitLast ')' with
      | none =>
          have hname : (Spec.parse t).name = t := by simp [Spec.parse, htrim, hopen, hclose]
          rw [hname]
          refine iff_of_false hobject ?_
          rintro ⟨inner, back, hu⟩
          have hmem : ')' ∈ tail := by simp [(hbegins hu).2]
          exact Text.splitLast_eq_none_iff.1 hclose hmem
      | some inner =>
          have hname : (Spec.parse t).name = front.trim := by
            simp [Spec.parse, htrim, hopen, hclose]
          rw [hname]
          constructor
          · intro hnil
            -- the line begins with no blank, so a front that trims to nothing is empty
            have hnone : front = [] := by
              cases front with
              | nil => rfl
              | cons c cs =>
                  have hc : isBlank c = false := htrimmed.1 c (by rw [ht]; rfl)
                  exact absurd hnil (Text.trim_ne_nil hc)
            have hmem : ')' ∈ tail := by
              by_contra hnot
              rw [Text.splitLast_eq_none_iff.2 hnot] at hclose
              cases hclose
            obtain ⟨a, b, htail⟩ := List.append_of_mem hmem
            exact ⟨a, b, by rw [ht, hnone, htail]; rfl⟩
          · rintro ⟨inner, back, hu⟩
            rw [(hbegins hu).1]
            rfl

end DefinitionLine

/-! ## Tables -/

open DefinitionLine (nameOf objectOf Nameless)
open Grammar (KeyOf IndexOf ColumnOf rests keyRests)

/-- Which names of a table are empty: neither its own nor those that its keys and indexes list, and
of its columns, keys and indexes those whose lines are nameless. -/
structure Table.EmptyNames (contents : Text) (t : Table) : Prop where
  name : t.name ≠ []
  keyColumns : ∀ key ∈ t.primaryKey.toList ++ t.uniqueKeys, [] ∉ key.columns.elems
  indexColumns : ∀ index ∈ t.indexes, [] ∉ index.columns.keys
  columns : List.Forall₂ (fun rest column => column.name = [] ↔ Nameless rest)
    (rests .table .column contents) t.columns
  primaryKey : Option.Rel (fun rest key => key.name = [] ↔ Nameless rest)
    (keyRests .primaryKey contents).getLast? t.primaryKey
  uniqueKeys : List.Forall₂ (fun rest key => key.name = [] ↔ Nameless rest)
    (keyRests .unique contents) t.uniqueKeys
  indexes : List.Forall₂ (fun rest index => index.name = [] ↔ Nameless rest)
    (rests .table .index contents) t.indexes

section

variable {m : Mapping} {rest : Text}

/-- A name that is read of a line is empty exactly if the line is nameless. -/
theorem expand_nameOf_eq_nil_iff (hm : m.Full) (hobject : objectOf rest ≠ []) :
    m.expand (nameOf rest) = [] ↔ Nameless rest := by
  rw [Mapping.expand_eq_nil_iff hm, DefinitionLine.nameOf_eq_nil_iff hobject]

theorem Grammar.ColumnOf.name {column : Column} (h : ColumnOf m rest column) :
    column.name = m.expand (nameOf rest) := by
  rw [h.column, Column.ofLine, Grammar.lineOf]

/-- The columns of a key are pieces of a list, which are not empty. -/
theorem Grammar.KeyOf.nil_not_mem {kind : ConstraintKind} {key : Constraint} (hm : m.Full)
    (h : KeyOf m kind rest key) : [] ∉ key.columns.elems := by
  rw [h.columns, List.mem_eraseDups, List.mem_map]
  rintro ⟨piece, hpiece, hnil⟩
  have hne : piece ≠ [] := by
    simpa using (List.mem_filter.1 hpiece).2
  exact Mapping.expand_ne_nil hm hne hnil

/-- The columns of an index are keys of named arguments, which are not empty. -/
theorem Grammar.IndexOf.nil_not_mem {index : Index} (hm : m.Full) (h : IndexOf m rest index) :
    [] ∉ index.columns.keys := by
  rw [h.columns, List.mem_eraseDups, List.mem_map]
  rintro ⟨column, hcolumn, hnil⟩
  have hclean := NamedArgs.cleanKey_of_mem_parse (List.mem_map_of_mem hcolumn)
  exact Mapping.expand_ne_nil hm hclean.ne_nil hnil

end

namespace Object

/-- Under a mapping without empty values, only columns, keys and indexes of nameless lines have
empty names. -/
theorem emptyNames_of_parse {m : Mapping} {contents : Text} {t : Table} (hm : m.Full)
    (h : parse m .table contents = .ok (.table t)) : t.EmptyNames contents := by
  have hdeclared : t.DeclaredBy m contents := declaredBy_of_parse h
  have hkey : ∀ {kind : ConstraintKind} (rest : Text) (key : Constraint), KeyOf m kind rest key →
      (key.name = [] ↔ Nameless rest) := by
    intro kind rest key hof
    rw [hof.name, expand_nameOf_eq_nil_iff hm hof.object]
  refine
    { name := ?_
      keyColumns := ?_
      indexColumns := forall_of_forall₂ hdeclared.indexes fun _ _ hof => hof.nil_not_mem hm
      columns := hdeclared.columns.imp fun rest column hof => ?_
      primaryKey := ?_
      uniqueKeys := hdeclared.uniqueKeys.imp hkey
      indexes := hdeclared.indexes.imp fun rest index hof => ?_ }
  · have hname := hdeclared.name
    generalize (rests .table .name contents).getLast? = last at hname
    cases hname with
    | some hof =>
        rw [hof.name]
        exact Mapping.expand_ne_nil hm hof.rest_ne_nil
  · intro key hmem
    rcases List.mem_append.1 hmem with hmem | hmem
    · exact forall_of_forall₂ (forall₂_toList hdeclared.primaryKey)
        (fun _ _ hof => hof.nil_not_mem hm) key hmem
    · exact forall_of_forall₂ hdeclared.uniqueKeys (fun _ _ hof => hof.nil_not_mem hm) key hmem
  · rw [hof.name]
    exact expand_nameOf_eq_nil_iff hm hof.object
  · have hprimary := hdeclared.primaryKey
    generalize (keyRests .primaryKey contents).getLast? = last at hprimary ⊢
    generalize t.primaryKey = declared at hprimary ⊢
    cases hprimary with
    | none => exact .none
    | some hof => exact .some (hkey _ _ hof)
  · rw [hof.name]
    exact expand_nameOf_eq_nil_iff hm hof.object

/-- No token is empty by default. -/
theorem full_default : Mapping.default.Full := by
  intro token
  cases token <;> decide

/-- A file with a named and a nameless column, and with a nameless index. -/
def namelessContents : Text := "TBL\nNAME:t\nCOL:id\nCOL:(type=int)\nIDX:(id)"

def namelessTable : Table where
  name := "t"
  properties := OrderedMap.empty
  columns := [⟨"id", Column.defaultType, false, none, none⟩, ⟨[], "int", false, none, none⟩]
  primaryKey := none
  uniqueKeys := []
  indexes := [⟨[], Index.defaultType, OrderedMap.ofList [("id", .ascending)]⟩]

theorem emptyNames_of_parse_nameless :
    Mapping.default.Full ∧
      parse Mapping.default .table namelessContents = .ok (.table namelessTable) ∧
      namelessTable.EmptyNames namelessContents := by
  have hparse : parse Mapping.default .table namelessContents = .ok (.table namelessTable) := by
    decide +kernel
  exact ⟨full_default, hparse, emptyNames_of_parse full_default hparse⟩

/-- A column without a name is read, although its line names nothing. -/
theorem nameless_column :
    Mapping.default.Full ∧ ∃ t,
      parse Mapping.default .table "TBL\nNAME:t\nCOL:(type=int)\n" = .ok (.table t) ∧
        ∃ column ∈ t.columns, column.name = [] := by
  refine ⟨full_default, ⟨"t", OrderedMap.empty, [⟨[], "int", false, none, none⟩], none, [], []⟩,
    rfl, _, List.mem_cons_self, rfl⟩

end Object

end SchemaCompiler
