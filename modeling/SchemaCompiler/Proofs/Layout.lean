import Mathlib.Data.List.Flatten
import SchemaCompiler.Proofs.DefinitionLine
import SchemaCompiler.Proofs.Pieces

namespace SchemaCompiler

/-! # The layout of definition files

Behind the first line of a definition, pieces of different roles may change places, and pieces
without a role may come and go (`Rearranged`): neither changes whether the file can be read, nor the
object that it describes (`Object.parse_rearranged`). The reason is that an entry has the role of the
piece that gives it, that a piece without a role never fails, and that an object is put together from
the entries of each role apart.
-/

/-! ## Roles -/

/-- What a piece of a definition is there for. Constraints are told apart by their type. -/
inductive Role where
  | line (marker : Marker)
  | constraint (type : Option ConstraintKind)
  | block
  deriving DecidableEq, Repr

/-- The markers that a definition of some kind has a use for, constraints apart. -/
def ObjectKind.uses : ObjectKind → Marker → Bool
  | _, .name | _, .properties => true
  | .table, .column | .table, .index => true
  | .function, .parameter | .function, .returns => true
  | _, _ => false

/-- The type that a constraint has among its properties, if it is a known one. -/
def Constraint.type? (rest : Text) : Option ConstraintKind :=
  ((DefinitionLine.propertiesOf rest).value? "type").bind ConstraintKind.ofText?

namespace Role

/-- The role of a trimmed line. Blank lines, comments and lines whose marker the kind has no use for
have none. -/
def ofLine? (kind : ObjectKind) (line : Text) : Option Role :=
  match Marker.split? line with
  | some (.constraint, rest) =>
    if kind = .table then some (.constraint (Constraint.type? rest)) else none
  | some (marker, _) => if kind.uses marker then some (.line marker) else none
  | none => none

end Role

/-- The role of a piece. -/
def Piece.role? (kind : ObjectKind) : Piece → Option Role
  | line l => Role.ofLine? kind l.trim
  | block _ => some .block

/-- The two rows of pieces hold the same ones as far as they have a role, and those of each role in
the same order; only constraints without a known type may change their order. -/
structure Rearranged (kind : ObjectKind) (xs ys : List Piece) : Prop where
  perm : (xs.filter fun p => (p.role? kind).isSome).Perm (ys.filter fun p => (p.role? kind).isSome)
  order : ∀ role, role ≠ .constraint none →
    (xs.filter fun p => p.role? kind = some role) = ys.filter fun p => p.role? kind = some role

/-! ## Roles of entries -/

def TableEntry.role? : TableEntry → Option Role
  | name _ => some (.line .name)
  | properties _ => some (.line .properties)
  | column _ => some (.line .column)
  | constraint c => some (.constraint (some c.kind))
  | index _ => some (.line .index)
  | ignored => none

def SequenceEntry.role? : SequenceEntry → Option Role
  | name _ => some (.line .name)
  | properties _ => some (.line .properties)
  | ignored => none

def FunctionEntry.role? : FunctionEntry → Option Role
  | name _ => some (.line .name)
  | properties _ => some (.line .properties)
  | parameter _ => some (.line .parameter)
  | returns _ => some (.line .returns)
  | body _ => some .block
  | ignored => none

/-- The role of an entry. -/
def Entry.role? : (kind : ObjectKind) → Entry kind → Option Role
  | .table => TableEntry.role?
  | .sequence => SequenceEntry.role?
  | .function => FunctionEntry.role?

/-- A constraint that can be read is of the type among its properties. -/
theorem Constraint.type?_of_ofLine {m : Mapping} {rest : Text} {line : DefinitionLine}
    {c : Constraint} (hline : Definition.readLine m .constraint rest = .ok line)
    (h : Constraint.ofLine m line = .ok c) : Constraint.type? rest = some c.kind := by
  have hproperties : line.properties = DefinitionLine.propertiesOf rest := by
    rw [Definition.readLine, DefinitionLine.parse?_eq] at hline
    split at hline
    · rename_i hparse
      split at hparse
      · cases hparse
      · rw [← Except.ok.inj hline, ← Option.some.inj hparse]
    · cases hline
  rw [Constraint.ofLine, DefinitionLine.property?, hproperties] at h
  rw [Constraint.type?]
  cases htype : (DefinitionLine.propertiesOf rest).value? "type" with
  | none =>
      rw [htype] at h
      cases h
  | some type =>
      rw [htype] at h
      cases hkind : ConstraintKind.ofText? type with
      | none =>
          simp only [hkind] at h
          cases h
      | some kind =>
          simp only [hkind] at h
          split at h
          · cases h
          · cases h
            exact hkind

/-- A table entry has the role of the line that gives it. -/
theorem TableEntry.role?_of_parse {m : Mapping} {line : Text} {e : TableEntry} {role : Role}
    (h : TableEntry.parse m line = .ok e) (hrole : e.role? = some role) :
    Role.ofLine? .table line = some role := by
  unfold TableEntry.parse at h
  rw [Role.ofLine?]
  split at h
  · rename_i hline
    obtain ⟨n, -, rfl⟩ := exists_of_map_eq_ok h
    rw [hline]
    exact hrole
  · rename_i hline
    cases h
    rw [hline]
    exact hrole
  · rename_i hline
    obtain ⟨l, -, rfl⟩ := exists_of_map_eq_ok h
    rw [hline]
    exact hrole
  · rename_i hline
    obtain ⟨l, hread, h⟩ := exists_of_bind_eq_ok h
    obtain ⟨c, hc, rfl⟩ := exists_of_map_eq_ok h
    rw [hline]
    dsimp only
    rw [if_pos rfl, Constraint.type?_of_ofLine hread hc]
    exact hrole
  · rename_i hline
    obtain ⟨l, -, h⟩ := exists_of_bind_eq_ok h
    obtain ⟨i, -, rfl⟩ := exists_of_map_eq_ok h
    rw [hline]
    exact hrole
  · cases h
    cases hrole

theorem SequenceEntry.role?_of_parse {m : Mapping} {line : Text} {e : SequenceEntry} {role : Role}
    (h : SequenceEntry.parse m line = .ok e) (hrole : e.role? = some role) :
    Role.ofLine? .sequence line = some role := by
  unfold SequenceEntry.parse at h
  rw [Role.ofLine?]
  split at h
  · rename_i hline
    obtain ⟨n, -, rfl⟩ := exists_of_map_eq_ok h
    rw [hline]
    exact hrole
  · rename_i hline
    cases h
    rw [hline]
    exact hrole
  · cases h
    cases hrole

theorem FunctionEntry.role?_of_parse {m : Mapping} {line : Text} {e : FunctionEntry} {role : Role}
    (h : FunctionEntry.parse m line = .ok e) (hrole : e.role? = some role) :
    Role.ofLine? .function line = some role := by
  unfold FunctionEntry.parse at h
  rw [Role.ofLine?]
  split at h
  · rename_i hline
    obtain ⟨n, -, rfl⟩ := exists_of_map_eq_ok h
    rw [hline]
    exact hrole
  · rename_i hline
    cases h
    rw [hline]
    exact hrole
  · rename_i hline
    obtain ⟨p, -, rfl⟩ := exists_of_map_eq_ok h
    rw [hline]
    exact hrole
  · rename_i hline
    obtain ⟨r, -, rfl⟩ := exists_of_map_eq_ok h
    rw [hline]
    exact hrole
  · cases h
    cases hrole

/-- An entry has the role of the line that gives it. -/
theorem Entry.role?_of_parse {m : Mapping} {kind : ObjectKind} {line : Text} {e : Entry kind}
    {role : Role} (h : Entry.parse m kind line = .ok e) (hrole : Entry.role? kind e = some role) :
    Role.ofLine? kind line = some role := by
  cases kind with
  | table => exact TableEntry.role?_of_parse h hrole
  | sequence => exact SequenceEntry.role?_of_parse h hrole
  | function => exact FunctionEntry.role?_of_parse h hrole

/-- A line that cannot be read has a role. -/
theorem Role.isSome_ofLine?_of_parse_eq_error {m : Mapping} {kind : ObjectKind} {line : Text}
    {e : Error} (h : Entry.parse m kind line = .error e) : (ofLine? kind line).isSome := by
  rw [ofLine?]
  cases hsplit : Marker.split? line with
  | none =>
      -- a line without a marker is ignored, whatever the kind
      cases kind <;> simp only [Entry.parse, TableEntry.parse, SequenceEntry.parse,
        FunctionEntry.parse, hsplit] at h <;> cases h
  | some split =>
      obtain ⟨marker, rest⟩ := split
      cases kind <;> cases marker <;> first
        | rfl
        | (simp only [Entry.parse, TableEntry.parse, SequenceEntry.parse, FunctionEntry.parse,
            hsplit] at h; cases h)

/-! ## Objects from the entries of each role -/

/-- What is found only in elements of some sort is found in those elements alone. -/
theorem filterMap_eq_of_filter_eq {α β : Type} {f : α → Option β} {p : α → Bool}
    (h : ∀ x b, f x = some b → p x = true) {xs ys : List α} (hfilter : xs.filter p = ys.filter p) :
    xs.filterMap f = ys.filterMap f := by
  have hfound : ∀ zs : List α, (zs.filter p).filterMap f = zs.filterMap f := by
    intro zs
    rw [List.filterMap_filter]
    refine List.filterMap_congr fun x _ => ?_
    split
    · rfl
    · rename_i hx
      cases hf : f x with
      | none => rfl
      | some b => exact absurd (h x b hf) hx
  rw [← hfound xs, hfilter, hfound ys]

/-- The entries of each role are the same and in the same order. -/
def Entry.SameByRole (kind : ObjectKind) (es es' : List (Entry kind)) : Prop :=
  ∀ role, role ≠ .constraint none →
    (es.filter fun e => Entry.role? kind e = some role) =
      es'.filter fun e => Entry.role? kind e = some role

theorem Table.ofEntries_congr {es es' : List TableEntry} (h : Entry.SameByRole .table es es') :
    ofEntries es = ofEntries es' := by
  have hname : es.filterMap TableEntry.name? = es'.filterMap TableEntry.name? :=
    filterMap_eq_of_filter_eq (fun e _ he => by cases e <;> cases he; rfl)
      (h (.line .name) (by decide))
  have hproperties : es.filterMap TableEntry.properties? = es'.filterMap TableEntry.properties? :=
    filterMap_eq_of_filter_eq (fun e _ he => by cases e <;> cases he; rfl)
      (h (.line .properties) (by decide))
  have hcolumns : es.filterMap TableEntry.column? = es'.filterMap TableEntry.column? :=
    filterMap_eq_of_filter_eq (fun e _ he => by cases e <;> cases he; rfl)
      (h (.line .column) (by decide))
  have hindexes : es.filterMap TableEntry.index? = es'.filterMap TableEntry.index? :=
    filterMap_eq_of_filter_eq (fun e _ he => by cases e <;> cases he; rfl)
      (h (.line .index) (by decide))
  have hconstraints : ∀ kind, es.filterMap (TableEntry.constraint? kind) =
      es'.filterMap (TableEntry.constraint? kind) := by
    intro kind
    refine filterMap_eq_of_filter_eq (fun e c he => ?_) (h (.constraint (some kind)) (by simp))
    cases e with
    | constraint c =>
        rw [TableEntry.constraint?] at he
        split at he
        · rename_i hkind
          simp [Entry.role?, TableEntry.role?, hkind]
        · cases he
    | _ => cases he
  rw [ofEntries, ofEntries, hname, hproperties, hcolumns, hindexes, hconstraints, hconstraints]

theorem Sequence.ofEntries_congr {es es' : List SequenceEntry}
    (h : Entry.SameByRole .sequence es es') : ofEntries es = ofEntries es' := by
  have hname : es.filterMap SequenceEntry.name? = es'.filterMap SequenceEntry.name? :=
    filterMap_eq_of_filter_eq (fun e _ he => by cases e <;> cases he; rfl)
      (h (.line .name) (by decide))
  have hproperties : es.filterMap SequenceEntry.properties? =
      es'.filterMap SequenceEntry.properties? :=
    filterMap_eq_of_filter_eq (fun e _ he => by cases e <;> cases he; rfl)
      (h (.line .properties) (by decide))
  rw [ofEntries, ofEntries, hname, hproperties]

theorem Function.ofEntries_congr {es es' : List FunctionEntry}
    (h : Entry.SameByRole .function es es') : ofEntries es = ofEntries es' := by
  have hname : es.filterMap FunctionEntry.name? = es'.filterMap FunctionEntry.name? :=
    filterMap_eq_of_filter_eq (fun e _ he => by cases e <;> cases he; rfl)
      (h (.line .name) (by decide))
  have hproperties : es.filterMap FunctionEntry.properties? =
      es'.filterMap FunctionEntry.properties? :=
    filterMap_eq_of_filter_eq (fun e _ he => by cases e <;> cases he; rfl)
      (h (.line .properties) (by decide))
  have hparameters : es.filterMap FunctionEntry.parameter? =
      es'.filterMap FunctionEntry.parameter? :=
    filterMap_eq_of_filter_eq (fun e _ he => by cases e <;> cases he; rfl)
      (h (.line .parameter) (by decide))
  have hreturns : es.filterMap FunctionEntry.returns? = es'.filterMap FunctionEntry.returns? :=
    filterMap_eq_of_filter_eq (fun e _ he => by cases e <;> cases he; rfl)
      (h (.line .returns) (by decide))
  have hbody : es.filterMap FunctionEntry.body? = es'.filterMap FunctionEntry.body? :=
    filterMap_eq_of_filter_eq (fun e _ he => by cases e <;> cases he; rfl) (h .block (by decide))
  rw [ofEntries, ofEntries, hname, hproperties, hparameters, hreturns, hbody]

/-- An object is put together from the entries of each role apart. -/
theorem Entry.assemble_congr {kind : ObjectKind} {es es' : List (Entry kind)}
    (h : SameByRole kind es es') : assemble kind es = assemble kind es' := by
  cases kind with
  | table => exact congrArg (Except.map Object.table) (Table.ofEntries_congr h)
  | sequence => exact congrArg (Except.map Object.sequence) (Sequence.ofEntries_congr h)
  | function => exact congrArg (Except.map Object.function) (Function.ofEntries_congr h)

/-! ## Pieces that change places -/

namespace Piece

variable {m : Mapping} {kind : ObjectKind}

/-- The entries that a piece gives, none if it cannot be read. -/
def entries (m : Mapping) (kind : ObjectKind) (p : Piece) : List (Entry kind) :=
  (p.read m kind).toOption.getD []

/-- Every entry with a role has it from its piece. -/
theorem role?_of_mem_entries {p : Piece} {e : Entry kind} {role : Role} (he : e ∈ p.entries m kind)
    (hrole : Entry.role? kind e = some role) : p.role? kind = some role := by
  cases p with
  | line l =>
      cases hskipped : OnePass.isSkipped l with
      | true =>
          rw [entries, read_skipped m hskipped] at he
          cases he
      | false =>
          rw [entries, read_line m hskipped] at he
          cases hparse : Entry.parse m kind l.trim with
          | error _ =>
              rw [hparse] at he
              cases he
          | ok e' =>
              rw [hparse] at he
              cases List.mem_singleton.1 he
              exact Entry.role?_of_parse hparse hrole
  | block body =>
      -- every entry of a block is a body line, and outside functions such a line is ignored
      obtain ⟨l, -, rfl⟩ := List.mem_map.1 (show e ∈ body.map (Entry.body kind) from he)
      cases kind <;> cases hrole
      rfl

/-- A piece that cannot be read has a role. -/
theorem isSome_role?_of_read_eq_error {p : Piece} {e : Error} (h : p.read m kind = .error e) :
    (p.role? kind).isSome := by
  cases p with
  | line l =>
      cases hskipped : OnePass.isSkipped l with
      | true =>
          rw [read_skipped m hskipped] at h
          cases h
      | false =>
          rw [read_line m hskipped, map_eq_error_iff] at h
          cases hparse : Entry.parse m kind l.trim with
          | error e' => exact Role.isSome_ofLine?_of_parse_eq_error hparse
          | ok e' =>
              rw [hparse] at h
              cases h
  | block body => cases h

/-- The entries of a role are those that the pieces of this role give. -/
theorem filter_flatMap_entries (role : Role) (ps : List Piece) :
    ((ps.flatMap (entries m kind)).filter fun e => Entry.role? kind e = some role) =
      (ps.filter fun p => p.role? kind = some role).flatMap fun p =>
        (p.entries m kind).filter fun e => Entry.role? kind e = some role := by
  induction ps with
  | nil => rfl
  | cons p rest ih =>
      rw [List.flatMap_cons, List.filter_append, ih]
      by_cases hp : p.role? kind = some role
      · rw [List.filter_cons_of_pos (by simpa using hp), List.flatMap_cons]
      · have hnone : (p.entries m kind).filter (fun e => Entry.role? kind e = some role) = [] := by
          rw [List.filter_eq_nil_iff]
          intro e he hrole
          exact hp (role?_of_mem_entries he (by simpa using hrole))
        rw [List.filter_cons_of_neg (by simpa using hp), hnone, List.nil_append]

/-- Pieces that can be read give their entries. -/
theorem readAll_of_readable {ps : List Piece} (h : ∀ p ∈ ps, ∀ e, p.read m kind ≠ .error e) :
    readAll m kind true ps = .ok (ps.flatMap (entries m kind)) := by
  induction ps with
  | nil => rfl
  | cons p rest ih =>
      rw [readAll_cons, ih fun q hq => h q (List.mem_cons_of_mem _ hq), List.flatMap_cons, entries]
      cases hp : p.read m kind with
      | error e => exact absurd hp (h p List.mem_cons_self e)
      | ok es => rfl

/-- One piece that cannot be read is enough for none to be. -/
theorem readAll_of_unreadable {ps : List Piece} {p : Piece} {e : Error} (hp : p ∈ ps)
    (h : p.read m kind = .error e) (closed : Bool) :
    ∃ e', readAll m kind closed ps = .error e' := by
  induction ps with
  | nil => cases hp
  | cons q rest ih =>
      rw [readAll_cons]
      cases hq : q.read m kind with
      | error e' => exact ⟨e', rfl⟩
      | ok es =>
          rcases List.mem_cons.1 hp with rfl | hp
          · rw [h] at hq
            cases hq
          · obtain ⟨e', he'⟩ := ih hp
            rw [he']
            exact ⟨e', rfl⟩

end Piece

namespace Rearranged

variable {m : Mapping} {kind : ObjectKind} {xs ys : List Piece}

theorem symm (h : Rearranged kind xs ys) : Rearranged kind ys xs where
  perm := h.perm.symm
  order role hrole := (h.order role hrole).symm

/-- A piece that cannot be read stays in the row, since it has a role. -/
theorem mem_of_read_eq_error (h : Rearranged kind xs ys) {p : Piece} {e : Error} (hp : p ∈ xs)
    (hread : p.read m kind = .error e) : p ∈ ys := by
  have hmem : p ∈ xs.filter fun p => (p.role? kind).isSome :=
    List.mem_filter.2 ⟨hp, Piece.isSome_role?_of_read_eq_error hread⟩
  exact (List.mem_filter.1 (h.perm.mem_iff.1 hmem)).1

/-- The entries of each role stay the same. -/
theorem sameByRole (h : Rearranged kind xs ys) :
    Entry.SameByRole kind (xs.flatMap (Piece.entries m kind)) (ys.flatMap (Piece.entries m kind)) := by
  intro role hrole
  rw [Piece.filter_flatMap_entries, Piece.filter_flatMap_entries, h.order role hrole]

/-- Rearranged pieces give the same object or both none. -/
theorem toOption_readAll (h : Rearranged kind xs ys) :
    (Piece.readAll m kind true xs >>= Entry.assemble kind).toOption =
      (Piece.readAll m kind true ys >>= Entry.assemble kind).toOption := by
  by_cases hread : ∀ p ∈ xs, ∀ e, p.read m kind ≠ .error e
  · have hread' : ∀ p ∈ ys, ∀ e, p.read m kind ≠ .error e := fun p hp e he =>
      hread p (h.symm.mem_of_read_eq_error hp he) e he
    rw [Piece.readAll_of_readable hread, Piece.readAll_of_readable hread', ok_bind, ok_bind,
      Entry.assemble_congr h.sameByRole]
  · push Not at hread
    obtain ⟨p, hp, e, he⟩ := hread
    obtain ⟨ex, hx⟩ := Piece.readAll_of_unreadable hp he true
    obtain ⟨ey, hy⟩ := Piece.readAll_of_unreadable (h.mem_of_read_eq_error hp he) he true
    rw [hx, hy]
    rfl

end Rearranged

/-! ## Files -/

namespace Object

open Source (firstLine? behindFirst)

/-- Files with the same first line and rearranged pieces behind it describe the same object, or
neither describes one. -/
theorem parse_rearranged (m : Mapping) (kind : ObjectKind) {contents contents' : Text}
    (hfirst : firstLine? contents = firstLine? contents')
    (hclosed : Piece.allClosed kind (behindFirst contents) = true)
    (hclosed' : Piece.allClosed kind (behindFirst contents') = true)
    (h : Rearranged kind (Piece.ofLines kind (behindFirst contents))
      (Piece.ofLines kind (behindFirst contents'))) :
    (parse m kind contents).toOption = (parse m kind contents').toOption := by
  rw [parse_eq_pieces, parse_eq_pieces, ← hfirst, hclosed, hclosed']
  cases firstLine? contents with
  | none => rfl
  | some first =>
      dsimp only
      split
      · exact h.toOption_readAll
      · rfl

/-- A definition with its name and its return ahead of its blocks. -/
def blocksLast : Text :=
  "FUNC\nNAME:f\nRET:int\n# outside\nBODY:\nbegin\nBODY;\nPARAM:a\nBODY:\n# inside\nBODY;"

/-- The same definition with its blocks ahead. -/
def blocksFirst : Text :=
  "FUNC\nBODY:\nbegin\nBODY;\nCOL:x\n\nBODY:\n# inside\nBODY;\nPARAM:a\nRET:int\nNAME:f"

/-- Lines change places with blocks, while a comment, a blank line and a line of another kind come
and go. -/
theorem rearranged_blocks : Rearranged .function
    [.line "NAME:f", .line "RET:int", .line "# outside", .block ["begin"], .line "PARAM:a",
      .block ["# inside"]]
    [.block ["begin"], .line "COL:x", .line "", .block ["# inside"], .line "PARAM:a",
      .line "RET:int", .line "NAME:f"] where
  perm := by decide +kernel
  order := by
    intro role _
    rcases role with (_ | _ | _ | _ | _ | _ | _) | (_ | _ | _) | _ <;> decide +kernel

theorem parse_rearranged_blocks :
    firstLine? blocksLast = firstLine? blocksFirst ∧
      Piece.allClosed .function (behindFirst blocksLast) = true ∧
      Piece.allClosed .function (behindFirst blocksFirst) = true ∧
      Rearranged .function (Piece.ofLines .function (behindFirst blocksLast))
        (Piece.ofLines .function (behindFirst blocksFirst)) ∧
      (parse Mapping.default .function blocksLast).toOption =
        (parse Mapping.default .function blocksFirst).toOption := by
  have hfirst : firstLine? blocksLast = firstLine? blocksFirst := by decide +kernel
  have hclosed : Piece.allClosed .function (behindFirst blocksLast) = true := rfl
  have hclosed' : Piece.allClosed .function (behindFirst blocksFirst) = true := rfl
  have hrearranged : Rearranged .function (Piece.ofLines .function (behindFirst blocksLast))
      (Piece.ofLines .function (behindFirst blocksFirst)) := rearranged_blocks
  exact ⟨hfirst, hclosed, hclosed', hrearranged,
    parse_rearranged Mapping.default .function hfirst hclosed hclosed' hrearranged⟩

example : parse Mapping.default .function blocksFirst =
    .ok (.function ⟨"f", OrderedMap.empty, [⟨"a", Parameter.defaultType, .inward, none, none⟩],
      Return.ofType "int" OrderedMap.empty, "begin\n# inside"⟩) := rfl

end Object

end SchemaCompiler
