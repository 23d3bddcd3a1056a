import Mathlib.Data.List.Forall2
import SchemaCompiler.Proofs.Grammar.File

namespace SchemaCompiler

/-! # What a file declares

Every line of a file declares one thing, and what is read of a file are the declarations of its
lines in their order. Which lines these are, and what they declare, is said in terms of the texts
behind the markers (`Grammar.rests`). Main statements:

* `TableEntry.declares_of_parse`, `FunctionEntry.declares_of_parse`: what a line that is read
  declares;
* `Piece.forall₂_readAll`: what is read of a file follows its lines one by one;
* `Object.declaredBy_of_parse`: a table is what its lines declare.
-/

/-! ## The texts behind markers -/

namespace Marker

/-- What follows the marker in a line, if the line has it. -/
def restOf? (marker : Marker) (line : Text) : Option Text :=
  (split? line).bind fun found => if found.1 = marker then some found.2 else none

theorem restOf?_of_split {marker found : Marker} {line rest : Text}
    (h : split? line = some (found, rest)) :
    marker.restOf? line = if found = marker then some rest else none := by
  rw [restOf?, h]
  rfl

theorem restOf?_eq_none {marker : Marker} {line : Text}
    (h : ∀ rest, split? line ≠ some (marker, rest)) : marker.restOf? line = none := by
  cases hline : split? line with
  | none => rw [restOf?, hline]; rfl
  | some found =>
      obtain ⟨found, rest⟩ := found
      rw [restOf?_of_split hline, if_neg]
      rintro rfl
      exact h rest hline

end Marker

namespace Grammar

open DefinitionLine (objectOf nameOf argsOf propertiesOf)

/-- What follows a marker in the lines of a file, in their order. -/
def rests (kind : ObjectKind) (marker : Marker) (contents : Text) : List Text :=
  (lines kind contents).filterMap marker.restOf?

/-- A constraint line declares a key of this kind. -/
def isKey (kind : ConstraintKind) (rest : Text) : Bool :=
  decide ((propertiesOf rest).value? "type" = some kind.text)

/-- What follows the marker in the lines that declare keys of a kind, in their order. -/
def keyRests (kind : ConstraintKind) (contents : Text) : List Text :=
  (rests .table .constraint contents).filter (isKey kind)

/-! ## Declarations -/

/-- The sort order that an argument asks for: descending if it says so, in any case. -/
def orderOf (order : Option Text) : SortOrder :=
  if order.map Text.lowerAscii = some "desc".toList then .descending else .ascending

/-- The key that a constraint line declares. Its columns are expanded, and of equal names the first
one is kept. -/
structure KeyOf (m : Mapping) (kind : ConstraintKind) (rest : Text) (key : Constraint) : Prop where
  object : objectOf rest ≠ []
  name : key.name = m.expand (nameOf rest)
  kind : key.kind = kind
  columns : key.columns.elems = ((args ',' (argsOf rest)).map m.expand).eraseDups
  columns_ne_nil : key.columns.elems ≠ []

/-- The index that a line declares. Each column text counts once, with its last order; the texts are
expanded, and of different ones with one name the first fixes the place and the last the order. -/
structure IndexOf (m : Mapping) (rest : Text) (index : Index) : Prop where
  object : objectOf rest ≠ []
  name : index.name = m.expand (nameOf rest)
  type : index.type = ((propertiesOf rest).value? "type").getD Index.defaultType
  columns : index.columns.keys = ((indexColumns rest).map fun c => m.expand c.1).eraseDups
  order : ∀ name, index.columns.get? name =
    (((indexColumns rest).filter fun c => m.expand c.1 = name).getLast?).map fun c => orderOf c.2
  columns_ne_nil : index.columns.keys ≠ []

/-- The column that a line declares. -/
structure ColumnOf (m : Mapping) (rest : Text) (column : Column) : Prop where
  object : objectOf rest ≠ []
  column : column = Column.ofLine m (lineOf m rest)

/-- The name that a line gives. -/
structure NameOf (m : Mapping) (rest name : Text) : Prop where
  rest_ne_nil : rest ≠ []
  name : name = m.expand rest

/-- The return that a line declares: rows of columns if it is written `table(…)`, and else a value
of the type that stands there. -/
structure ReturnOf (rest : Text) (r : Return) : Prop where
  table : (Spec.parse rest).name = tableReturnType → r.type = tableReturnType ∧
    r.columns.entries.map (fun c => (c.1, some c.2)) = (specArgs rest).entries
  value : (Spec.parse rest).name ≠ tableReturnType → r.type = rest ∧ r.columns.entries = []

theorem type_eq_some_iff {type : Text} {kind : ConstraintKind} :
    ConstraintKind.ofText? type = some kind ↔ type = kind.text := by
  constructor
  · intro h
    unfold ConstraintKind.ofText? at h
    split at h
    · cases h
      assumption
    · split at h
      · cases h
        assumption
      · cases h
  · rintro rfl
    cases kind <;> rfl

/-- A constraint that is read is the key that its line declares. -/
theorem keyOf_of_ofLine {m : Mapping} {rest : Text} {key : Constraint}
    (hobject : objectOf rest ≠ []) (h : Constraint.ofLine m (lineOf m rest) = .ok key) :
    (∀ kind, isKey kind rest = decide (key.kind = kind)) ∧ KeyOf m key.kind rest key := by
  rw [constraint_eq] at h
  -- a line without a type, with an unknown one or without columns is not read
  split at h
  · cases h
  · rename_i type htype
    split at h
    · cases h
    · rename_i kind hkind
      split at h
      · cases h
      · rename_i hargs
        obtain rfl := Except.ok.inj h
        have hkey : ∀ other, isKey other rest = decide (kind = other) := by
          intro other
          rw [isKey, htype, decide_eq_decide, Option.some.injEq, ← type_eq_some_iff, hkind,
            Option.some.injEq]
        refine ⟨hkey, ?_⟩
        exact
          { object := hobject
            name := by dsimp only
            kind := rfl
            columns := OrderedSet.elems_ofList _
            columns_ne_nil := by
              rw [ne_eq, OrderedSet.elems_ofList_eq_nil, List.map_eq_nil_iff]
              exact hargs }

theorem orderOf_eq {column : Text} {order : Option Text} {read : SortOrder}
    (h : SortOrder.ofArg column order = .ok read) : read = orderOf order := by
  rcases order with _ | _ | ⟨c, cs⟩
  · cases h
    rfl
  · cases h
    rfl
  · rw [SortOrder.ofArg] at h
    · split at h
      · rename_i found hfound
        cases h
        unfold SortOrder.ofText? at hfound
        split at hfound
        · rename_i hword
          cases hfound
          rw [orderOf, Option.map_some, (eqIgnoreCase_iff rfl).1 hword, if_neg (by decide)]
        · split at hfound
          · rename_i hword
            cases hfound
            rw [orderOf, Option.map_some, (eqIgnoreCase_iff rfl).1 hword, if_pos rfl]
          · cases hfound
      · cases h
    · exact List.cons_ne_nil c cs

/-- A name that is read is the one that its line gives. -/
theorem nameOf_of_readName {m : Mapping} {rest name : Text}
    (h : Definition.readName m rest = .ok name) : NameOf m rest name := by
  unfold Definition.readName at h
  split at h
  · cases h
  · rename_i hne
    exact ⟨hne, (Except.ok.inj h).symm⟩

/-- An index that is read is the one that its line declares. -/
theorem indexOf_of_ofLine {m : Mapping} {rest : Text} {index : Index}
    (hobject : objectOf rest ≠ []) (h : Index.ofLine m (lineOf m rest) = .ok index) :
    IndexOf m rest index := by
  rw [Index.ofLine_eq] at h
  obtain ⟨columns, hread, h⟩ := exists_of_bind_eq_ok h
  have hcolumns : columns = (indexColumns rest).map fun c => (m.expand c.1, orderOf c.2) := by
    have hmap := map_eq_of_mapM_eq_ok (g := id)
      (k := fun c : Text × Option Text => (m.expand c.1, orderOf c.2)) ?_ hread
    · rw [List.map_id] at hmap
      exact hmap
    · intro (column, order) y hy
      obtain ⟨read, horder, rfl⟩ := exists_of_map_eq_ok hy
      rw [orderOf_eq horder]
      rfl
  split at h
  · cases h
  · rename_i hne
    obtain rfl := Except.ok.inj h
    exact
      { object := hobject
        name := by rw [lineOf]
        type := rfl
        columns := by
          rw [OrderedMap.keys_ofList, hcolumns, List.map_map]
          rfl
        order := by
          intro name
          rw [OrderedMap.get?_ofList, hcolumns, List.filter_map, List.getLast?_map,
            Option.map_map]
          rfl
        columns_ne_nil := by
          obtain ⟨c, cs, rfl⟩ := List.exists_cons_of_ne_nil hne
          rw [OrderedMap.keys_ofList, List.map_cons, List.eraseDups_cons]
          exact List.cons_ne_nil _ _ }

end Grammar

/-! ## Lines of tables -/

namespace TableEntry

open DefinitionLine (objectOf propertiesOf)
open Grammar (NameOf ColumnOf KeyOf IndexOf isKey lineOf)

/-- What a line of a table definition declares behind its marker. -/
inductive Declares (m : Mapping) (line : Text) : TableEntry → Prop
  | name {rest name : Text} (h : Marker.split? line = some (.name, rest))
      (hname : NameOf m rest name) : Declares m line (.name name)
  | properties {rest : Text} (h : Marker.split? line = some (.properties, rest)) :
      Declares m line (.properties (Definition.readProperties rest))
  | column {rest : Text} {column : Column} (h : Marker.split? line = some (.column, rest))
      (hcolumn : ColumnOf m rest column) : Declares m line (.column column)
  | constraint {rest : Text} {key : Constraint} (h : Marker.split? line = some (.constraint, rest))
      (htype : ∀ kind, isKey kind rest = decide (key.kind = kind))
      (hkey : KeyOf m key.kind rest key) : Declares m line (.constraint key)
  | index {rest : Text} {index : Index} (h : Marker.split? line = some (.index, rest))
      (hindex : IndexOf m rest index) : Declares m line (.index index)
  | ignored (h : ∀ marker ∈ [Marker.name, .properties, .column, .constraint, .index], ∀ rest,
      Marker.split? line ≠ some (marker, rest)) : Declares m line .ignored

variable {m : Mapping} {line : Text} {e : TableEntry}

/-- A line that is read declares what it is read as. -/
theorem declares_of_parse (h : parse m line = .ok e) : Declares m line e := by
  have hread : ∀ {marker : Marker} {rest : Text} {l : DefinitionLine},
      Definition.readLine m marker rest = .ok l → objectOf rest ≠ [] ∧ l = lineOf m rest := by
    intro marker rest l hl
    rw [Grammar.readLine_eq] at hl
    split at hl
    · cases hl
    · rename_i hobject
      exact ⟨hobject, (Except.ok.inj hl).symm⟩
  unfold parse at h
  split at h
  · rename_i rest hline
    obtain ⟨n, hname, rfl⟩ := exists_of_map_eq_ok h
    exact .name hline (Grammar.nameOf_of_readName hname)
  · rename_i rest hline
    cases h
    exact .properties hline
  · rename_i rest hline
    obtain ⟨l, hl, rfl⟩ := exists_of_map_eq_ok h
    obtain ⟨hobject, rfl⟩ := hread hl
    exact .column hline ⟨hobject, rfl⟩
  · rename_i rest hline
    obtain ⟨l, hl, h⟩ := exists_of_bind_eq_ok h
    obtain ⟨hobject, rfl⟩ := hread hl
    obtain ⟨key, hkey, rfl⟩ := exists_of_map_eq_ok h
    obtain ⟨htype, hof⟩ := Grammar.keyOf_of_ofLine hobject hkey
    exact .constraint hline htype hof
  · rename_i rest hline
    obtain ⟨l, hl, h⟩ := exists_of_bind_eq_ok h
    obtain ⟨hobject, rfl⟩ := hread hl
    obtain ⟨index, hindex, rfl⟩ := exists_of_map_eq_ok h
    exact .index hline (Grammar.indexOf_of_ofLine hobject hindex)
  · rename_i hname hproperties hcolumn hconstraint hindex
    cases h
    refine .ignored fun marker hmarker rest hline => ?_
    simp only [List.mem_cons, List.not_mem_nil, or_false] at hmarker
    rcases hmarker with rfl | rfl | rfl | rfl | rfl
    · exact hname rest hline
    · exact hproperties rest hline
    · exact hcolumn rest hline
    · exact hconstraint rest hline
    · exact hindex rest hline

theorem Declares.name? (h : Declares m line e) :
    Option.Rel (NameOf m) (Marker.name.restOf? line) e.name? := by
  cases h with
  | name h hname => rw [Marker.restOf?_of_split h]; exact .some hname
  | ignored h => rw [Marker.restOf?_eq_none (h .name (by decide))]; exact .none
  | properties h | column h _ | constraint h _ _ | index h _ =>
      rw [Marker.restOf?_of_split h]; exact .none

theorem Declares.properties? (h : Declares m line e) :
    Option.Rel (fun rest args => Definition.readProperties rest = args)
      (Marker.properties.restOf? line) e.properties? := by
  cases h with
  | properties h => rw [Marker.restOf?_of_split h]; exact .some rfl
  | ignored h => rw [Marker.restOf?_eq_none (h .properties (by decide))]; exact .none
  | name h _ | column h _ | constraint h _ _ | index h _ =>
      rw [Marker.restOf?_of_split h]; exact .none

theorem Declares.column? (h : Declares m line e) :
    Option.Rel (ColumnOf m) (Marker.column.restOf? line) e.column? := by
  cases h with
  | column h hcolumn => rw [Marker.restOf?_of_split h]; exact .some hcolumn
  | ignored h => rw [Marker.restOf?_eq_none (h .column (by decide))]; exact .none
  | name h _ | properties h | constraint h _ _ | index h _ =>
      rw [Marker.restOf?_of_split h]; exact .none

theorem Declares.index? (h : Declares m line e) :
    Option.Rel (IndexOf m) (Marker.index.restOf? line) e.index? := by
  cases h with
  | index h hindex => rw [Marker.restOf?_of_split h]; exact .some hindex
  | ignored h => rw [Marker.restOf?_eq_none (h .index (by decide))]; exact .none
  | name h _ | properties h | column h _ | constraint h _ _ =>
      rw [Marker.restOf?_of_split h]; exact .none

/-- A constraint line declares a key of its own kind and none of the other. -/
theorem Declares.constraint? (h : Declares m line e) (kind : ConstraintKind) :
    Option.Rel (KeyOf m kind) ((Marker.constraint.restOf? line).filter (isKey kind))
      (e.constraint? kind) := by
  cases h with
  | @constraint rest key h htype hkey =>
      rw [Marker.restOf?_of_split h, if_pos rfl, Option.filter, htype]
      by_cases hkind : key.kind = kind
      · rw [TableEntry.constraint?, if_pos hkind, if_pos (decide_eq_true hkind)]
        exact .some (hkind ▸ hkey)
      · rw [TableEntry.constraint?, if_neg hkind, if_neg (by simpa using hkind)]
        exact .none
  | ignored h => rw [Marker.restOf?_eq_none (h .constraint (by decide))]; exact .none
  | name h _ | properties h | column h _ | index h _ =>
      rw [Marker.restOf?_of_split h]; exact .none

end TableEntry

/-! ## Lines of functions -/

open Grammar (ReturnOf specArgs) in
/-- A return that is read is the one that its line declares. -/
theorem Return.returnOf_of_parse {rest : Text} {r : Return} (h : Return.parse rest = .ok r) :
    ReturnOf rest r := by
  rw [Return.parse_eq] at h
  split at h
  · cases h
  · split at h
    · rename_i hvalue
      obtain rfl := Except.ok.inj h
      refine ⟨fun htable => absurd htable hvalue, fun _ => ?_⟩
      unfold Return.ofType
      split
      · rename_i htype
        exact ⟨htype.symm, rfl⟩
      · exact ⟨rfl, rfl⟩
    · rename_i htable
      obtain ⟨columns, hread, h⟩ := exists_of_bind_eq_ok h
      obtain rfl := Except.ok.inj h
      rw [not_not] at htable
      refine ⟨fun _ => ?_, fun hvalue => absurd htable hvalue⟩
      have hcolumns : columns.map (fun c => (c.1, some c.2)) = (specArgs rest).entries := by
        have hmap := map_eq_of_mapM_eq_ok (g := fun c : Text × Text => (c.1, some c.2)) (k := id)
          ?_ hread
        · rw [List.map_id] at hmap
          exact hmap
        · rintro ⟨column, _ | type⟩ c hc
          · cases hc
          · cases hc
            rfl
      -- the columns have the distinct keys of the arguments, so none of them is collapsed
      have hnodup : (columns.map Prod.fst).Nodup := by
        have hkeys := (specArgs rest).nodup_keys
        rw [← hcolumns, List.map_map] at hkeys
        exact hkeys
      rw [Return.ofType, dif_pos htable]
      exact ⟨rfl, by rw [Return.columns, OrderedMap.entries_ofList hnodup, hcolumns]⟩

namespace FunctionEntry

open Grammar (NameOf ReturnOf)

/-- What a line of a function definition declares behind its marker. -/
inductive Declares (m : Mapping) (line : Text) : FunctionEntry → Prop
  | name {rest name : Text} (h : Marker.split? line = some (.name, rest))
      (hname : NameOf m rest name) : Declares m line (.name name)
  | properties {rest : Text} (h : Marker.split? line = some (.properties, rest)) :
      Declares m line (.properties (Definition.readProperties rest))
  | parameter {rest : Text} {parameter : Parameter}
      (h : Marker.split? line = some (.parameter, rest))
      (hparameter : Parameter.parse rest = .ok parameter) : Declares m line (.parameter parameter)
  | returns {rest : Text} {r : Return} (h : Marker.split? line = some (.returns, rest))
      (hreturns : ReturnOf rest r) : Declares m line (.returns r)
  | ignored (h : ∀ marker ∈ [Marker.name, .properties, .parameter, .returns], ∀ rest,
      Marker.split? line ≠ some (marker, rest)) : Declares m line .ignored

variable {m : Mapping} {line : Text} {e : FunctionEntry}

/-- A line that is read declares what it is read as. -/
theorem declares_of_parse (h : parse m line = .ok e) : Declares m line e := by
  unfold parse at h
  split at h
  · rename_i hline
    obtain ⟨n, hname, rfl⟩ := exists_of_map_eq_ok h
    exact .name hline (Grammar.nameOf_of_readName hname)
  · rename_i hline
    cases h
    exact .properties hline
  · rename_i hline
    obtain ⟨p, hparameter, rfl⟩ := exists_of_map_eq_ok h
    exact .parameter hline hparameter
  · rename_i hline
    obtain ⟨r, hreturns, rfl⟩ := exists_of_map_eq_ok h
    exact .returns hline (Return.returnOf_of_parse hreturns)
  · rename_i hname hproperties hparameter hreturns
    cases h
    refine .ignored fun marker hmarker rest hline => ?_
    simp only [List.mem_cons, List.not_mem_nil, or_false] at hmarker
    rcases hmarker with rfl | rfl | rfl | rfl
    · exact hname rest hline
    · exact hproperties rest hline
    · exact hparameter rest hline
    · exact hreturns rest hline

theorem Declares.properties? (h : Declares m line e) :
    Option.Rel (fun rest args => Definition.readProperties rest = args)
      (Marker.properties.restOf? line) e.properties? := by
  cases h with
  | properties h => rw [Marker.restOf?_of_split h]; exact .some rfl
  | ignored h => rw [Marker.restOf?_eq_none (h .properties (by decide))]; exact .none
  | name h _ | parameter h _ | returns h _ => rw [Marker.restOf?_of_split h]; exact .none

theorem Declares.returns? (h : Declares m line e) :
    Option.Rel ReturnOf (Marker.returns.restOf? line) e.returns? := by
  cases h with
  | returns h hreturns => rw [Marker.restOf?_of_split h]; exact .some hreturns
  | ignored h => rw [Marker.restOf?_eq_none (h .returns (by decide))]; exact .none
  | name h _ | properties h | parameter h _ => rw [Marker.restOf?_of_split h]; exact .none

end FunctionEntry

/-! ## Lines of any kind -/

namespace Entry

/-- The properties that an entry gives. -/
def properties? : (kind : ObjectKind) → Entry kind → Option NamedArgs
  | .table => TableEntry.properties?
  | .sequence => SequenceEntry.properties?
  | .function => FunctionEntry.properties?

/-- The properties of an object are those of its properties lines, whatever its kind. -/
theorem properties?_of_parse {m : Mapping} {kind : ObjectKind} {line : Text} {e : Entry kind}
    (h : parse m kind line = .ok e) :
    Option.Rel (fun rest args => Definition.readProperties rest = args)
      (Marker.properties.restOf? line) (properties? kind e) := by
  cases kind with
  | table =>
      have hdeclares : TableEntry.Declares m line e := TableEntry.declares_of_parse h
      exact hdeclares.properties?
  | sequence =>
      have h : SequenceEntry.parse m line = .ok e := h
      unfold SequenceEntry.parse at h
      split at h
      · rename_i hline
        obtain ⟨n, -, rfl⟩ := exists_of_map_eq_ok h
        rw [Marker.restOf?_of_split hline]
        exact .none
      · rename_i hline
        cases h
        rw [Marker.restOf?_of_split hline]
        exact .some rfl
      · rename_i hproperties
        cases h
        rw [Marker.restOf?_eq_none hproperties]
        exact .none
  | function =>
      have hdeclares : FunctionEntry.Declares m line e := FunctionEntry.declares_of_parse h
      exact hdeclares.properties?

end Entry

/-! ## Files -/

theorem filterMap_cons_rel {α β γ : Type} {R : β → γ → Prop} {found : α → Option β} {x : α}
    {xs : List α} {reading : Option γ} {ys : List γ} (hhead : Option.Rel R (found x) reading)
    (htail : List.Forall₂ R (xs.filterMap found) ys) :
    List.Forall₂ R ((x :: xs).filterMap found) (reading.toList ++ ys) := by
  rw [filterMap_cons_toList]
  generalize found x = first at hhead ⊢
  cases hhead with
  | none => exact htail
  | some h => exact .cons h htail

/-- Readings of two lists that agree element by element agree on the last one. -/
theorem rel_getLast? {α β : Type} {R : α → β → Prop} {xs : List α} {ys : List β}
    (h : List.Forall₂ R xs ys) : Option.Rel R xs.getLast? ys.getLast? := by
  induction h with
  | nil => exact .none
  | cons hhead htail ih =>
      cases htail with
      | nil => exact .some hhead
      | cons _ _ => simpa using ih

/-- What is read of a file follows its lines one by one, whatever is read of the single line. Blocks
declare nothing. -/
theorem Piece.forall₂_readAll {m : Mapping} {kind : ObjectKind} {closed : Bool}
    {pieces : List Piece} {entries : List (Entry kind)} {β : Type} {R : Text → β → Prop}
    {found : Text → Option Text} {reading : Entry kind → Option β}
    (hline : ∀ l e, Entry.parse m kind l = .ok e → Option.Rel R (found l) (reading e))
    (hbody : ∀ l, reading (Entry.body kind l) = none)
    (h : readAll m kind closed pieces = .ok entries) :
    List.Forall₂ R ((Grammar.linesOf pieces).filterMap found) (entries.filterMap reading) := by
  induction pieces generalizing entries with
  | nil =>
      have hnil : entries = [] := by
        cases closed <;> cases h
        rfl
      rw [hnil]
      exact .nil
  | cons piece rest ih =>
      cases piece with
      | line l =>
          -- a skipped line is neither read nor among the lines of the file
          cases hskipped : OnePass.isSkipped l with
          | true =>
              have hlines : Grammar.linesOf (line l :: rest) = Grammar.linesOf rest :=
                Source.effectiveLines_skipped hskipped
              rw [readAll_skipped m hskipped] at h
              rw [hlines]
              exact ih h
          | false =>
              have hlines : Grammar.linesOf (line l :: rest) = l.trim :: Grammar.linesOf rest :=
                Source.effectiveLines_line hskipped
              rw [readAll_line m hskipped] at h
              obtain ⟨e, hparse, h⟩ := exists_of_bind_eq_ok h
              obtain ⟨es, hrest, rfl⟩ := exists_of_map_eq_ok h
              rw [hlines, filterMap_cons_toList reading]
              exact filterMap_cons_rel (hline _ _ (eq_ok_of_during_eq_ok hparse)) (ih hrest)
      | block body =>
          have hlines : Grammar.linesOf (block body :: rest) = Grammar.linesOf rest := rfl
          rw [readAll_cons] at h
          obtain ⟨es, hread, h⟩ := exists_of_bind_eq_ok h
          obtain ⟨es', hrest, rfl⟩ := exists_of_map_eq_ok h
          have hnone : es.filterMap reading = [] := by
            cases hread
            rw [List.filterMap_eq_nil_iff]
            intro e he
            obtain ⟨l, -, rfl⟩ := List.mem_map.1 he
            exact hbody l
          rw [hlines, List.filterMap_append, hnone, List.nil_append]
          exact ih hrest

namespace Object

/-- An object is put together from entries, and these follow the lines of its file one by one. -/
theorem exists_entries {m : Mapping} {kind : ObjectKind} {contents : Text} {object : Object}
    (h : parse m kind contents = .ok object) :
    ∃ entries, Entry.assemble kind entries = .ok object ∧
      ∀ {β : Type} {R : Text → β → Prop} {found : Text → Option Text}
        {reading : Entry kind → Option β},
        (∀ l e, Entry.parse m kind l = .ok e → Option.Rel R (found l) (reading e)) →
        (∀ l, reading (Entry.body kind l) = none) →
        List.Forall₂ R ((Grammar.lines kind contents).filterMap found)
          (entries.filterMap reading) := by
  rw [parse_eq_pieces] at h
  split at h
  · cases h
  · split at h
    · obtain ⟨entries, hread, hassemble⟩ := exists_of_bind_eq_ok h
      exact ⟨entries, hassemble, fun hline hbody => Piece.forall₂_readAll hline hbody hread⟩
    · cases h

end Object

section

open Grammar (NameOf ColumnOf KeyOf IndexOf ReturnOf rests keyRests)

/-- A table is what the lines of a file declare: the last name and the last primary key count, and
everything else is there line by line. -/
structure Table.DeclaredBy (m : Mapping) (contents : Text) (t : Table) : Prop where
  name : Option.Rel (NameOf m) (rests .table .name contents).getLast? (some t.name)
  columns : List.Forall₂ (ColumnOf m) (rests .table .column contents) t.columns
  primaryKey :
    Option.Rel (KeyOf m .primaryKey) (keyRests .primaryKey contents).getLast? t.primaryKey
  uniqueKeys : List.Forall₂ (KeyOf m .unique) (keyRests .unique contents) t.uniqueKeys
  indexes : List.Forall₂ (IndexOf m) (rests .table .index contents) t.indexes

namespace Object

variable {m : Mapping} {contents : Text}

/-- A table that is read is what its lines declare. -/
theorem declaredBy_of_parse {t : Table} (h : parse m .table contents = .ok (.table t)) :
    t.DeclaredBy m contents := by
  obtain ⟨entries, hassemble, hentries⟩ := exists_entries h
  obtain ⟨read, hread, hobject⟩ := exists_of_map_eq_ok hassemble
  cases hobject
  obtain ⟨name, hname, htable⟩ := exists_of_bind_eq_ok hread
  cases htable
  -- all constraint lines are read alike; which keys they give depends on the kind asked for
  have hkeys : ∀ kind, List.Forall₂ (KeyOf m kind) (keyRests kind contents)
      (entries.filterMap (TableEntry.constraint? kind)) := by
    intro kind
    unfold keyRests rests
    rw [List.filter_filterMap]
    exact hentries (fun l e he => (TableEntry.declares_of_parse he).constraint? kind) fun _ => rfl
  have hnames : List.Forall₂ (NameOf m) (rests .table .name contents)
      (entries.filterMap TableEntry.name?) :=
    hentries (fun l e he => (TableEntry.declares_of_parse he).name?) fun _ => rfl
  have hlast : (entries.filterMap TableEntry.name?).getLast? = some name := by
    unfold Definition.lastName at hname
    split at hname
    · rename_i heq
      cases hname
      exact heq
    · cases hname
  exact
    { name := hlast ▸ rel_getLast? hnames
      columns := hentries (fun l e he => (TableEntry.declares_of_parse he).column?) fun _ => rfl
      primaryKey := rel_getLast? (hkeys .primaryKey)
      uniqueKeys := hkeys .unique
      indexes := hentries (fun l e he => (TableEntry.declares_of_parse he).index?) fun _ => rfl }

/-- The return of a function that is read is that of the last line that declares one. -/
theorem returns_of_parse {f : Function} (h : parse m .function contents = .ok (.function f)) :
    ∃ declared, Option.Rel ReturnOf (rests .function .returns contents).getLast? declared ∧
      f.returns = declared.getD Return.default := by
  obtain ⟨entries, hassemble, hentries⟩ := exists_entries h
  obtain ⟨read, hread, hobject⟩ := exists_of_map_eq_ok hassemble
  cases hobject
  obtain ⟨name, -, hfunction⟩ := exists_of_bind_eq_ok hread
  cases hfunction
  have hreturns : List.Forall₂ ReturnOf (rests .function .returns contents)
      (entries.filterMap FunctionEntry.returns?) :=
    hentries (fun l e he => (FunctionEntry.declares_of_parse he).returns?) fun _ => rfl
  exact ⟨_, rel_getLast? hreturns, rfl⟩

/-- The properties of an object are those of its properties lines, whatever its kind. -/
theorem properties_of_parse {kind : ObjectKind} {object : Object}
    (h : parse m kind contents = .ok object) : object.properties =
      Definition.mergeProperties
        ((rests kind .properties contents).map Definition.readProperties) := by
  obtain ⟨entries, hassemble, hentries⟩ := exists_entries h
  have hlines : entries.filterMap (Entry.properties? kind) =
      (rests kind .properties contents).map Definition.readProperties := by
    have hbody : ∀ l, Entry.properties? kind (Entry.body kind l) = none := by
      cases kind <;> intro l <;> rfl
    have hall := hentries (fun l e he => Entry.properties?_of_parse he) hbody
    have heq := List.forall₂_map_left_iff.2 hall
    rw [List.forall₂_eq_eq_eq] at heq
    exact heq.symm
  rw [← hlines]
  cases kind with
  | table =>
      obtain ⟨read, hread, rfl⟩ := exists_of_map_eq_ok hassemble
      obtain ⟨name, -, hread⟩ := exists_of_bind_eq_ok hread
      cases hread
      rfl
  | sequence =>
      obtain ⟨read, hread, rfl⟩ := exists_of_map_eq_ok hassemble
      obtain ⟨name, -, hread⟩ := exists_of_bind_eq_ok hread
      cases hread
      rfl
  | function =>
      obtain ⟨read, hread, rfl⟩ := exists_of_map_eq_ok hassemble
      obtain ⟨name, -, hread⟩ := exists_of_bind_eq_ok hread
      cases hread
      rfl

end Object

end

end SchemaCompiler
