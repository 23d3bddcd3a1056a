import SchemaCompiler.Proofs.DefinitionLine
import SchemaCompiler.Proofs.Influence
import SchemaCompiler.Proofs.Pieces

namespace SchemaCompiler

/-! # The grammar of definition lines

What the rest of a line has to be like behind its marker, for each kind of object
(`Grammar.Admissible`), and what is wrong with it otherwise (`Grammar.Offence`). Main statements:

* `Grammar.lineAdmissible_iff`: a line is admissible exactly if it commits no offence;
* `Entry.parse_eq_error_iff`: a line is refused exactly for the offence that it commits.

The parts of a rest are the ones that `DefinitionLine` names: what stands ahead of the first
semicolon outside parentheses, the text between its parentheses, and the properties behind.
-/

namespace DefinitionLine

/-- The name ahead of the parentheses, as written. -/
def nameOf (rest : Text) : Text := (Spec.parse (objectOf rest)).name

/-- The text between the parentheses. -/
def argsOf (rest : Text) : Text := (Spec.parse (objectOf rest)).args

end DefinitionLine

namespace Grammar

open DefinitionLine (objectOf nameOf argsOf propertiesOf)

/-! ## Grammar -/

/-- The columns of an index with their sort orders, as written; of equal names the last order
counts. -/
def indexColumns (rest : Text) : List (Text × Option Text) :=
  (NamedArgs.parse ',' (argsOf rest)).entries

/-- The arguments of a parameter or of a return. -/
def specArgs (rest : Text) : NamedArgs := NamedArgs.parse ';' (Spec.parse rest).args

/-- A constraint is a primary key or a unique key. -/
def KnownType (type : Text) : Prop := type = "pk".toList ∨ type = "unq".toList

/-- A sort order is absent, empty, or one of two words in any case. -/
def KnownOrder (order : Option Text) : Prop :=
  ∀ word ∈ order, word = [] ∨ word.lowerAscii = "asc".toList ∨ word.lowerAscii = "desc".toList

/-- A direction is one of two words in any case. -/
def KnownDirection (direction : Text) : Prop :=
  direction.lowerAscii = "in".toList ∨ direction.lowerAscii = "out".toList

/-- The rest of a line is as it has to be behind a marker. -/
def Admissible : ObjectKind → Marker → Text → Prop
  | _, .name, rest => rest ≠ []
  | .table, .column, rest => objectOf rest ≠ []
  | .table, .constraint, rest =>
    objectOf rest ≠ [] ∧ (∃ type, (propertiesOf rest).value? "type" = some type ∧ KnownType type) ∧
      ∃ piece ∈ (argsOf rest).splitOn ',', piece.trim ≠ []
  | .table, .index, rest =>
    objectOf rest ≠ [] ∧ indexColumns rest ≠ [] ∧ ∀ column ∈ indexColumns rest, KnownOrder column.2
  | .function, .parameter, rest =>
    (Spec.parse rest).name ≠ [] ∧
      ∀ direction, (specArgs rest).value? "direction" = some direction → KnownDirection direction
  | .function, .returns, rest =>
    (Spec.parse rest).name ≠ [] ∧
      ((Spec.parse rest).name = tableReturnType →
        ∀ column ∈ (specArgs rest).entries, column.2 ≠ none)
  | _, _, _ => True

/-- What is wrong with the rest of a line behind a marker. Of several offences the one counts that
is looked for first, and of several columns the first one that commits it. -/
inductive Offence (m : Mapping) : ObjectKind → Marker → Text → Error → Prop
  | blankName {kind : ObjectKind} : Offence m kind .name [] (.definition .blankName)
  | blankObject {marker : Marker} {rest : Text} (hmarker : marker ∈ [.column, .constraint, .index])
      (h : objectOf rest = []) : Offence m .table marker rest (.definition (.emptyLine marker))
  | untypedConstraint {rest : Text} (hobject : objectOf rest ≠ [])
      (h : (propertiesOf rest).value? "type" = none) :
      Offence m .table .constraint rest (.ofFault (.constraintType none))
  | unknownConstraintType {rest type : Text} (hobject : objectOf rest ≠ [])
      (htype : (propertiesOf rest).value? "type" = some type) (h : ¬KnownType type) :
      Offence m .table .constraint rest (.ofFault (.constraintType (some type)))
  | constraintWithoutColumns {rest type : Text} (hobject : objectOf rest ≠ [])
      (htype : (propertiesOf rest).value? "type" = some type) (hknown : KnownType type)
      (h : ∀ piece ∈ (argsOf rest).splitOn ',', piece.trim = []) :
      Offence m .table .constraint rest
        (.definition (.constraintWithoutColumns (m.expand (nameOf rest))))
  | unknownSortOrder {rest column order : Text} {before after : List (Text × Option Text)}
      (hobject : objectOf rest ≠ [])
      (hcolumns : indexColumns rest = before ++ (column, some order) :: after)
      (hbefore : ∀ column ∈ before, KnownOrder column.2) (h : ¬KnownOrder (some order)) :
      Offence m .table .index rest (.definition (.unknownSortOrder column order))
  | indexWithoutColumns {rest : Text} (hobject : objectOf rest ≠ []) (h : indexColumns rest = []) :
      Offence m .table .index rest (.definition (.indexWithoutColumns (m.expand (nameOf rest))))
  | namelessParameter {rest : Text} (h : (Spec.parse rest).name = []) :
      Offence m .function .parameter rest (.definition .namelessParameter)
  | unknownDirection {rest direction : Text} (hname : (Spec.parse rest).name ≠ [])
      (hdirection : (specArgs rest).value? "direction" = some direction)
      (h : ¬KnownDirection direction) :
      Offence m .function .parameter rest
        (.definition (.unknownDirection (Spec.parse rest).name direction))
  | untypedReturn {rest : Text} (h : (Spec.parse rest).name = []) :
      Offence m .function .returns rest (.definition .untypedReturn)
  | untypedReturnColumn {rest column : Text} {before after : List (Text × Option Text)}
      (hname : (Spec.parse rest).name = tableReturnType)
      (hcolumns : (specArgs rest).entries = before ++ (column, none) :: after)
      (hbefore : ∀ column ∈ before, column.2 ≠ none) :
      Offence m .function .returns rest (.definition (.untypedReturnColumn column))

/-- A line that has a marker goes on in an admissible way. -/
def LineAdmissible (kind : ObjectKind) (line : Text) : Prop :=
  ∀ marker rest, Marker.split? line = some (marker, rest) → Admissible kind marker rest

/-- What is wrong with a line behind its marker. -/
def LineOffence (m : Mapping) (kind : ObjectKind) (line : Text) (e : Error) : Prop :=
  ∃ marker rest, Marker.split? line = some (marker, rest) ∧ Offence m kind marker rest e

/-! ## Words -/

/-- A choice between two words fails if the text is neither. -/
theorem choice_eq_none_iff {α : Type} {p q : Prop} [Decidable p] [Decidable q] {x y : α} :
    (if p then some x else if q then some y else none) = none ↔ ¬(p ∨ q) := by
  by_cases hp : p
  · simp [hp]
  · by_cases hq : q <;> simp [hp, hq]

theorem eqIgnoreCase_iff {word known : Text} (hlower : known.lowerAscii = known) :
    word.eqIgnoreCase known = true ↔ word.lowerAscii = known := by
  rw [Text.eqIgnoreCase, beq_iff_eq, hlower]

theorem type_eq_none_iff {type : Text} :
    ConstraintKind.ofText? type = none ↔ ¬KnownType type := choice_eq_none_iff

theorem order_eq_none_iff {word : Text} : SortOrder.ofText? word = none ↔
    ¬(word.lowerAscii = "asc".toList ∨ word.lowerAscii = "desc".toList) := by
  rw [SortOrder.ofText?, choice_eq_none_iff, eqIgnoreCase_iff rfl, eqIgnoreCase_iff rfl]

theorem direction_eq_none_iff {word : Text} :
    Direction.ofText? word = none ↔ ¬KnownDirection word := by
  rw [Direction.ofText?, choice_eq_none_iff, eqIgnoreCase_iff rfl, eqIgnoreCase_iff rfl,
    KnownDirection]

theorem knownOrder_some {word : Text} : KnownOrder (some word) ↔
    word = [] ∨ word.lowerAscii = "asc".toList ∨ word.lowerAscii = "desc".toList := by
  rw [KnownOrder]
  constructor
  · intro h
    exact h word rfl
  · rintro h _ ⟨rfl⟩
    exact h

/-- A sort order is refused exactly if it is unknown. -/
theorem sortOrder_eq_error_iff {column : Text} {order : Option Text} {e : Error} :
    SortOrder.ofArg column order = .error e ↔
      ∃ word, order = some word ∧ ¬KnownOrder (some word) ∧
        e = .definition (.unknownSortOrder column word) := by
  rcases order with _ | _ | ⟨c, cs⟩
  · exact iff_of_false nofun nofun
  · refine iff_of_false nofun ?_
    rintro ⟨_, ⟨rfl⟩, hunknown, -⟩
    exact hunknown (knownOrder_some.2 (.inl rfl))
  · have hunknown : ¬KnownOrder (some (c :: cs)) ↔ SortOrder.ofText? (c :: cs) = none := by
      rw [order_eq_none_iff, knownOrder_some, or_iff_right (List.cons_ne_nil c cs)]
    rw [SortOrder.ofArg]
    cases hword : SortOrder.ofText? (c :: cs) with
    | some order =>
        refine iff_of_false nofun ?_
        rintro ⟨_, ⟨rfl⟩, h, -⟩
        rw [hunknown, hword] at h
        cases h
    | none =>
        constructor
        · rintro ⟨rfl⟩
          exact ⟨_, rfl, hunknown.2 hword, rfl⟩
        · rintro ⟨_, ⟨rfl⟩, -, rfl⟩
          rfl
    · exact List.cons_ne_nil c cs

/-- A list without arguments has blank pieces only. -/
theorem args_eq_nil_iff {sep : Char} {t : Text} :
    args sep t = [] ↔ ∀ piece ∈ t.splitOn sep, piece.trim = [] := by
  rw [args, List.filter_eq_nil_iff]
  simp

/-! ## Admissible rests commit no offence -/

/-- The first element of a list without some property. -/
theorem exists_first_not {α : Type} {p : α → Prop} {xs : List α} (h : ¬∀ x ∈ xs, p x) :
    ∃ before x after, xs = before ++ x :: after ∧ (∀ y ∈ before, p y) ∧ ¬p x := by
  induction xs with
  | nil => exact absurd nofun h
  | cons x xs ih =>
      by_cases hx : p x
      · obtain ⟨before, y, after, rfl, hbefore, hy⟩ :=
          ih fun hxs => h (List.forall_mem_cons.2 ⟨hx, hxs⟩)
        exact ⟨x :: before, y, after, rfl, List.forall_mem_cons.2 ⟨hx, hbefore⟩, hy⟩
      · exact ⟨[], x, xs, rfl, nofun, hx⟩

/-- What is admissible commits no offence. -/
theorem Offence.not_admissible {m : Mapping} {kind : ObjectKind} {marker : Marker} {rest : Text}
    {e : Error} (h : Offence m kind marker rest e) : ¬Admissible kind marker rest := by
  intro hadmissible
  cases h with
  | blankName => cases kind <;> exact hadmissible rfl
  | blankObject hmarker h =>
      simp only [List.mem_cons, List.not_mem_nil, or_false] at hmarker
      rcases hmarker with rfl | rfl | rfl
      · exact hadmissible h
      · exact hadmissible.1 h
      · exact hadmissible.1 h
  | untypedConstraint _ h =>
      obtain ⟨-, ⟨type, htype, -⟩, -⟩ := hadmissible
      rw [h] at htype
      cases htype
  | unknownConstraintType _ htype h =>
      obtain ⟨-, ⟨_, htype', hknown⟩, -⟩ := hadmissible
      rw [htype] at htype'
      cases htype'
      exact h hknown
  | constraintWithoutColumns _ _ _ h =>
      obtain ⟨-, -, piece, hmem, hne⟩ := hadmissible
      exact hne (h piece hmem)
  | @unknownSortOrder _ column order before after _ hcolumns _ h =>
      have hmem : (column, some order) ∈ indexColumns rest := by
        rw [hcolumns]
        exact List.mem_append_right _ List.mem_cons_self
      exact h (hadmissible.2.2 _ hmem)
  | indexWithoutColumns _ h => exact hadmissible.2.1 h
  | namelessParameter h => exact hadmissible.1 h
  | unknownDirection _ hdirection h => exact h (hadmissible.2 _ hdirection)
  | untypedReturn h => exact hadmissible.1 h
  | @untypedReturnColumn _ column before after hname hcolumns _ =>
      have hmem : (column, none) ∈ (specArgs rest).entries := by
        rw [hcolumns]
        exact List.mem_append_right _ List.mem_cons_self
      exact hadmissible.2 hname _ hmem rfl

/-- What is not admissible commits an offence. -/
theorem exists_offence {kind : ObjectKind} {marker : Marker} {rest : Text} (m : Mapping)
    (h : ¬Admissible kind marker rest) : ∃ e, Offence m kind marker rest e := by
  have hname : marker = .name → ∃ e, Offence m kind marker rest e := by
    rintro rfl
    have hblank : rest = [] := by cases kind <;> exact not_not.1 h
    exact hblank ▸ ⟨_, .blankName⟩
  cases kind with
  | sequence => cases marker <;> first | exact hname rfl | exact absurd trivial h
  | table =>
      cases marker with
      | column => exact ⟨_, .blankObject (by simp) (not_not.1 h)⟩
      | constraint =>
          by_cases hobject : objectOf rest = []
          · exact ⟨_, .blankObject (by simp) hobject⟩
          · cases htype : (propertiesOf rest).value? "type" with
            | none => exact ⟨_, .untypedConstraint hobject htype⟩
            | some type =>
                by_cases hknown : KnownType type
                · refine ⟨_, .constraintWithoutColumns hobject htype hknown fun piece hmem => ?_⟩
                  by_contra hne
                  exact h ⟨hobject, ⟨type, htype, hknown⟩, piece, hmem, hne⟩
                · exact ⟨_, .unknownConstraintType hobject htype hknown⟩
      | index =>
          by_cases hobject : objectOf rest = []
          · exact ⟨_, .blankObject (by simp) hobject⟩
          · by_cases hcolumns : indexColumns rest = []
            · exact ⟨_, .indexWithoutColumns hobject hcolumns⟩
            · obtain ⟨before, ⟨column, order⟩, after, heq, hbefore, hunknown⟩ :=
                exists_first_not fun horders => h ⟨hobject, hcolumns, horders⟩
              cases order with
              | none => exact absurd nofun hunknown
              | some order => exact ⟨_, .unknownSortOrder hobject heq hbefore hunknown⟩
      | name => exact hname rfl
      | _ => exact absurd trivial h
  | function =>
      cases marker with
      | parameter =>
          by_cases hnamed : (Spec.parse rest).name = []
          · exact ⟨_, .namelessParameter hnamed⟩
          · have hdirection : ¬∀ direction, (specArgs rest).value? "direction" = some direction →
                KnownDirection direction := fun hdirection => h ⟨hnamed, hdirection⟩
            push Not at hdirection
            obtain ⟨direction, hvalue, hunknown⟩ := hdirection
            exact ⟨_, .unknownDirection hnamed hvalue hunknown⟩
      | returns =>
          by_cases hnamed : (Spec.parse rest).name = []
          · exact ⟨_, .untypedReturn hnamed⟩
          · have hcolumns : ¬((Spec.parse rest).name = tableReturnType →
                ∀ column ∈ (specArgs rest).entries, column.2 ≠ none) :=
              fun hcolumns => h ⟨hnamed, hcolumns⟩
            rw [Classical.not_imp] at hcolumns
            obtain ⟨before, ⟨column, type⟩, after, heq, hbefore, huntyped⟩ :=
              exists_first_not hcolumns.2
            cases not_not.1 huntyped
            exact ⟨_, .untypedReturnColumn hcolumns.1 heq hbefore⟩
      | name => exact hname rfl
      | _ => exact absurd trivial h

theorem lineAdmissible_iff (m : Mapping) {kind : ObjectKind} {line : Text} :
    LineAdmissible kind line ↔ ∀ e, ¬LineOffence m kind line e := by
  constructor
  · rintro h e ⟨marker, rest, hsplit, he⟩
    exact he.not_admissible (h marker rest hsplit)
  · intro h marker rest hsplit
    by_contra hnot
    obtain ⟨e, he⟩ := exists_offence m hnot
    exact h e ⟨marker, rest, hsplit, he⟩

/-! ## Reading refuses offences -/

/-- A definition line as it is read. -/
def lineOf (m : Mapping) (rest : Text) : DefinitionLine :=
  ⟨m.expand (nameOf rest), argsOf rest, propertiesOf rest⟩

theorem readName_eq_error_iff {m : Mapping} {kind : ObjectKind} {rest : Text} {e : Error} :
    Definition.readName m rest = .error e ↔ Offence m kind .name rest e := by
  rw [Definition.readName]
  constructor
  · intro h
    split at h
    · rename_i hblank
      cases h
      exact hblank ▸ .blankName
    · cases h
  · intro h
    cases h with
    | blankName => rfl
    | blankObject hmarker _ => exact absurd hmarker (by decide)

/-- A definition line is read unless its object is blank. -/
theorem readLine_eq (m : Mapping) (marker : Marker) (rest : Text) :
    Definition.readLine m marker rest =
      if objectOf rest = [] then .error (.definition (.emptyLine marker))
      else .ok (lineOf m rest) := by
  rw [Definition.readLine, DefinitionLine.parse?_eq]
  by_cases hobject : objectOf rest = []
  · rw [if_pos hobject, if_pos hobject]
  · rw [if_neg hobject, if_neg hobject]
    rfl

/-- A constraint is read unless its type is unknown or all its columns are blank. -/
theorem constraint_eq (m : Mapping) (rest : Text) :
    Constraint.ofLine m (lineOf m rest) = match (propertiesOf rest).value? "type" with
      | none => .error (.ofFault (.constraintType none))
      | some type => match ConstraintKind.ofText? type with
        | none => .error (.ofFault (.constraintType (some type)))
        | some kind =>
          if args ',' (argsOf rest) = [] then
            .error (.definition (.constraintWithoutColumns (m.expand (nameOf rest))))
          else .ok ⟨m.expand (nameOf rest), kind,
            OrderedSet.ofList ((args ',' (argsOf rest)).map m.expand)⟩ := by
  have hempty : (OrderedSet.ofList ((args ',' (argsOf rest)).map m.expand)).elems = [] ↔
      args ',' (argsOf rest) = [] := by
    rw [OrderedSet.elems_ofList_eq_nil, List.map_eq_nil_iff]
  simp only [Constraint.ofLine, DefinitionLine.property?, lineOf, hempty]
  cases (propertiesOf rest).value? "type" with
  | none => rfl
  | some type =>
      dsimp only
      cases ConstraintKind.ofText? type with
      | none => rfl
      | some kind =>
          by_cases hargs : args ',' (argsOf rest) = []
          · simp only [hargs, if_true]
            rfl
          · simp only [hargs, if_false]
            rfl

theorem constraint_eq_error_iff {m : Mapping} {rest : Text} {e : Error}
    (hobject : objectOf rest ≠ []) :
    Constraint.ofLine m (lineOf m rest) = .error e ↔ Offence m .table .constraint rest e := by
  rw [constraint_eq]
  constructor
  · intro h
    cases htype : (propertiesOf rest).value? "type" with
    | none =>
        rw [htype] at h
        cases h
        exact .untypedConstraint hobject htype
    | some type =>
        simp only [htype] at h
        cases hkind : ConstraintKind.ofText? type with
        | none =>
            simp only [hkind] at h
            cases h
            exact .unknownConstraintType hobject htype (type_eq_none_iff.1 hkind)
        | some kind =>
            have hknown : KnownType type := by
              by_contra hunknown
              rw [type_eq_none_iff.2 hunknown] at hkind
              cases hkind
            simp only [hkind] at h
            split at h
            · rename_i hcolumns
              cases h
              exact .constraintWithoutColumns hobject htype hknown (args_eq_nil_iff.1 hcolumns)
            · cases h
  · intro h
    cases h with
    | blankObject _ h => exact absurd h hobject
    | untypedConstraint _ htype => rw [htype]
    | unknownConstraintType _ htype hunknown =>
        simp only [htype, type_eq_none_iff.2 hunknown]
    | constraintWithoutColumns _ htype hknown hcolumns =>
        rw [htype]
        dsimp only
        split
        · rename_i hkind
          exact absurd hknown (type_eq_none_iff.1 hkind)
        · rw [if_pos (args_eq_nil_iff.2 hcolumns)]

theorem index_eq_error_iff {m : Mapping} {rest : Text} {e : Error} (hobject : objectOf rest ≠ []) :
    Index.ofLine m (lineOf m rest) = .error e ↔ Offence m .table .index rest e := by
  have hcolumn : ∀ column e', Index.columnOfArg m column = .error e' ↔
      ∃ word, column.2 = some word ∧ ¬KnownOrder (some word) ∧
        e' = .definition (.unknownSortOrder column.1 word) := by
    rintro ⟨column, order⟩ e'
    rw [Index.columnOfArg, map_eq_error_iff, sortOrder_eq_error_iff]
  have hread : ∀ column, (∀ e', Index.columnOfArg m column ≠ .error e') ↔ KnownOrder column.2 := by
    rintro ⟨column, order⟩
    simp only [ne_eq, hcolumn]
    cases order with
    | none =>
        refine iff_of_true ?_ ?_
        · rintro _ ⟨_, ⟨⟩, -⟩
        · rintro _ ⟨⟩
    | some word =>
        constructor
        · intro h
          by_contra hunknown
          exact h _ ⟨word, rfl, hunknown, rfl⟩
        · rintro hknown _ ⟨_, ⟨rfl⟩, hunknown, -⟩
          exact hunknown hknown
  have hargs : (NamedArgs.parse ',' (lineOf m rest).args).entries = indexColumns rest := rfl
  have hname : (lineOf m rest).name = m.expand (nameOf rest) := by rw [lineOf]
  rw [Index.ofLine_eq, hargs, hname, bind_eq_error_iff]
  constructor
  · rintro (h | ⟨columns, hcolumns, h⟩)
    · obtain ⟨before, ⟨column, order⟩, after, heq, hbefore, h⟩ := mapM_eq_error_iff.1 h
      obtain ⟨word, rfl, hunknown, rfl⟩ := (hcolumn _ _).1 h
      exact .unknownSortOrder hobject heq (fun c hc => (hread c).1 (hbefore c hc)) hunknown
    · split at h
      · rename_i hnil
        obtain rfl := Except.error.inj h
        exact .indexWithoutColumns hobject ((eq_nil_iff_of_mapM_eq_ok hcolumns).1 hnil)
      · cases h
  · intro h
    cases h with
    | blankObject _ h => exact absurd h hobject
    | unknownSortOrder _ heq hbefore hunknown =>
        refine .inl (mapM_eq_error_iff.2 ⟨_, _, _, heq, ?_, ?_⟩)
        · exact fun c hc => (hread c).2 (hbefore c hc)
        · exact (hcolumn _ _).2 ⟨_, rfl, hunknown, rfl⟩
    | indexWithoutColumns _ hnil =>
        rw [hnil]
        exact .inr ⟨[], rfl, rfl⟩

theorem parameter_eq_error_iff {m : Mapping} {rest : Text} {e : Error} :
    Parameter.parse rest = .error e ↔ Offence m .function .parameter rest e := by
  have hdirection : ∀ direction e', Direction.ofArg (Spec.parse rest).name direction = .error e' ↔
      ∃ word, direction = some word ∧ ¬KnownDirection word ∧
        e' = .definition (.unknownDirection (Spec.parse rest).name word) := by
    intro direction e'
    cases direction with
    | none => exact iff_of_false nofun nofun
    | some word =>
        rw [Direction.ofArg]
        cases hword : Direction.ofText? word with
        | some direction =>
            refine iff_of_false nofun ?_
            rintro ⟨_, ⟨rfl⟩, hunknown, -⟩
            rw [direction_eq_none_iff.2 hunknown] at hword
            cases hword
        | none =>
            constructor
            · rintro ⟨rfl⟩
              exact ⟨word, rfl, direction_eq_none_iff.1 hword, rfl⟩
            · rintro ⟨_, ⟨rfl⟩, -, rfl⟩
              rfl
  have hparse : Parameter.parse rest =
      if (Spec.parse rest).name = [] then .error (.definition .namelessParameter)
      else (Direction.ofArg (Spec.parse rest).name ((specArgs rest).value? "direction")).map
        fun direction => ⟨(Spec.parse rest).name,
          ((specArgs rest).value? "type").getD Parameter.defaultType, direction,
          (specArgs rest).value? "default", (specArgs rest).value? "description"⟩ := by
    unfold Parameter.parse specArgs
    dsimp only [NamedSpec.parse]
    split
    · rfl
    · cases Direction.ofArg (Spec.parse rest).name ((specArgs rest).value? "direction") <;> rfl
  rw [hparse]
  constructor
  · intro h
    split at h
    · rename_i hname
      cases h
      exact .namelessParameter hname
    · rename_i hname
      obtain ⟨word, hword, hunknown, rfl⟩ := (hdirection _ _).1 (map_eq_error_iff.1 h)
      exact .unknownDirection hname hword hunknown
  · intro h
    cases h with
    | namelessParameter hname => rw [if_pos hname]
    | unknownDirection hname hword hunknown =>
        rw [if_neg hname, map_eq_error_iff, hdirection]
        exact ⟨_, hword, hunknown, rfl⟩

theorem returns_eq_error_iff {m : Mapping} {rest : Text} {e : Error} :
    Return.parse rest = .error e ↔ Offence m .function .returns rest e := by
  have hcolumn : ∀ column e', Return.columnOfArg column = .error e' ↔
      column.2 = none ∧ e' = .definition (.untypedReturnColumn column.1) := by
    rintro ⟨column, _ | type⟩ e'
    · constructor
      · rintro ⟨rfl⟩
        exact ⟨rfl, rfl⟩
      · rintro ⟨-, rfl⟩
        rfl
    · exact iff_of_false nofun nofun
  have hread : ∀ column, (∀ e', Return.columnOfArg column ≠ .error e') ↔ column.2 ≠ none := by
    rintro ⟨column, _ | type⟩
    · exact iff_of_false (fun h => h _ rfl) (fun h => h rfl)
    · exact iff_of_true nofun nofun
  rw [Return.parse_eq]
  constructor
  · intro h
    split at h
    · rename_i hname
      obtain rfl := Except.error.inj h
      exact .untypedReturn hname
    · split at h
      · cases h
      · rename_i htable
        rcases bind_eq_error_iff.1 h with h | ⟨_, -, h⟩
        · obtain ⟨before, ⟨column, type⟩, after, heq, hbefore, h⟩ := mapM_eq_error_iff.1 h
          obtain ⟨rfl, rfl⟩ := (hcolumn _ _).1 h
          exact .untypedReturnColumn (not_not.1 htable) heq fun c hc => (hread c).1 (hbefore c hc)
        · cases h
  · intro h
    cases h with
    | untypedReturn hname => rw [if_pos hname]
    | untypedReturnColumn hname heq hbefore =>
        have hne : (Spec.parse rest).name ≠ [] := by
          rw [hname]
          decide
        rw [if_neg hne, if_neg (not_not.2 hname), bind_eq_error_iff]
        refine .inl (mapM_eq_error_iff.2 ⟨_, _, _, heq, ?_, ?_⟩)
        · exact fun c hc => (hread c).2 (hbefore c hc)
        · exact (hcolumn _ _).2 ⟨rfl, rfl⟩

/-- A rest with a blank object commits one offence only. -/
theorem offence_of_blank {m : Mapping} {marker : Marker} {rest : Text} {e : Error}
    (hmarker : marker ∈ [.column, .constraint, .index]) (hobject : objectOf rest = []) :
    Offence m .table marker rest e ↔ e = .definition (.emptyLine marker) := by
  constructor
  · intro h
    cases h with
    | blankObject _ _ => rfl
    | blankName => exact absurd hmarker (by decide)
    | untypedConstraint h => exact absurd hobject h
    | unknownConstraintType h => exact absurd hobject h
    | constraintWithoutColumns h => exact absurd hobject h
    | unknownSortOrder h => exact absurd hobject h
    | indexWithoutColumns h => exact absurd hobject h
  · rintro rfl
    exact .blankObject hmarker hobject

/-- What is read from a definition line is refused if its object is blank, and else for the offences
that are looked for in its parts. -/
theorem bind_readLine_eq_error_iff {α : Type} {m : Mapping} {marker : Marker} {rest : Text}
    {e : Error} {f : DefinitionLine → Except Error α}
    (hmarker : marker ∈ [.column, .constraint, .index])
    (h : objectOf rest ≠ [] → (f (lineOf m rest) = .error e ↔ Offence m .table marker rest e)) :
    Definition.readLine m marker rest >>= f = .error e ↔ Offence m .table marker rest e := by
  rw [readLine_eq]
  by_cases hobject : objectOf rest = []
  · rw [if_pos hobject, offence_of_blank hmarker hobject, error_bind]
    constructor
    · rintro ⟨rfl⟩
      rfl
    · rintro rfl
      rfl
  · rw [if_neg hobject, ok_bind]
    exact h hobject

theorem table_eq_error_iff {m : Mapping} {line rest : Text} {marker : Marker} {e : Error}
    (hsplit : Marker.split? line = some (marker, rest)) :
    TableEntry.parse m line = .error e ↔ Offence m .table marker rest e := by
  unfold TableEntry.parse
  rw [hsplit]
  cases marker with
  | name =>
      dsimp only
      rw [map_eq_error_iff, readName_eq_error_iff]
  | properties =>
      refine iff_of_false nofun fun h => ?_
      cases h with
      | blankObject hmarker _ => exact absurd hmarker (by decide)
  | column =>
      dsimp only
      rw [map_eq_error_iff, ← bind_ok (Definition.readLine _ _ _)]
      refine bind_readLine_eq_error_iff (by decide) fun hobject => iff_of_false nofun fun h => ?_
      cases h with
      | blankObject _ hblank => exact hobject hblank
  | constraint =>
      refine bind_readLine_eq_error_iff (by decide) fun hobject => ?_
      rw [map_eq_error_iff, constraint_eq_error_iff hobject]
  | index =>
      refine bind_readLine_eq_error_iff (by decide) fun hobject => ?_
      rw [map_eq_error_iff, index_eq_error_iff hobject]
  | _ =>
      refine iff_of_false nofun fun h => ?_
      cases h with
      | blankObject hmarker _ => exact absurd hmarker (by decide)

theorem sequence_eq_error_iff {m : Mapping} {line rest : Text} {marker : Marker} {e : Error}
    (hsplit : Marker.split? line = some (marker, rest)) :
    SequenceEntry.parse m line = .error e ↔ Offence m .sequence marker rest e := by
  unfold SequenceEntry.parse
  rw [hsplit]
  cases marker with
  | name =>
      dsimp only
      rw [map_eq_error_iff, readName_eq_error_iff]
  | _ =>
      exact iff_of_false nofun nofun

theorem function_eq_error_iff {m : Mapping} {line rest : Text} {marker : Marker} {e : Error}
    (hsplit : Marker.split? line = some (marker, rest)) :
    FunctionEntry.parse m line = .error e ↔ Offence m .function marker rest e := by
  unfold FunctionEntry.parse
  rw [hsplit]
  cases marker with
  | name =>
      dsimp only
      rw [map_eq_error_iff, readName_eq_error_iff]
  | parameter =>
      dsimp only
      rw [map_eq_error_iff, parameter_eq_error_iff]
  | returns =>
      dsimp only
      rw [map_eq_error_iff, returns_eq_error_iff]
  | _ =>
      exact iff_of_false nofun nofun

end Grammar

open Grammar (Offence LineOffence)

/-- A line is refused for what is wrong with it, and for no other reason. -/
theorem Entry.parse_eq_error_iff {m : Mapping} {kind : ObjectKind} {line : Text} {e : Error} :
    parse m kind line = .error e ↔ LineOffence m kind line e := by
  rw [LineOffence]
  cases hsplit : Marker.split? line with
  | none =>
      -- a line without a marker is ignored, whatever the kind
      have hignored : ∃ entry, parse m kind line = .ok entry := by
        cases kind
        · refine ⟨.ignored, ?_⟩
          rw [parse, TableEntry.parse, hsplit]
          rfl
        · refine ⟨.ignored, ?_⟩
          rw [parse, SequenceEntry.parse, hsplit]
          rfl
        · refine ⟨.ignored, ?_⟩
          rw [parse, FunctionEntry.parse, hsplit]
          rfl
      obtain ⟨entry, hentry⟩ := hignored
      rw [hentry]
      exact iff_of_false nofun nofun
  | some split =>
      obtain ⟨marker, rest⟩ := split
      have hline : parse m kind line = .error e ↔ Offence m kind marker rest e := by
        cases kind with
        | table => exact Grammar.table_eq_error_iff hsplit
        | sequence => exact Grammar.sequence_eq_error_iff hsplit
        | function => exact Grammar.function_eq_error_iff hsplit
      rw [hline]
      constructor
      · exact fun h => ⟨marker, rest, rfl, h⟩
      · rintro ⟨_, _, ⟨rfl⟩, h⟩
        exact h

end SchemaCompiler
