import SchemaCompiler.Proofs.LineParts
import SchemaCompiler.Proofs.RoundTrip.Line

namespace SchemaCompiler

/-! # Spellings of a column

The attributes of a column may stand between the parentheses behind its name, behind the parentheses,
or partly here and partly there. One column line is cut by the depth of its parentheses and its two
lists are read apart and merged, another one is read as a single list; what counts in all of them is
the last assignment of each attribute (`Column.ofLine_eq_ofAssignments`). Main statement:
`Column.parse_spellings`.
-/

/-! ## Columns of assignments -/

/-- What the last assignment of a key says: nothing inside if it is a bare key. -/
def NamedArgs.lastAssigned (assigned : List (Text × Option Text)) (key : Text) :
    Option (Option Text) :=
  ((assigned.filter fun entry => entry.1 = key).getLast?).map Prod.snd

namespace Column

open NamedArgs (lastAssigned)

/-- The column of a name whose attributes are assigned one after another. -/
def ofAssignments (mapping : Mapping) (n : Text) (assigned : List (Text × Option Text)) : Column where
  name := mapping.expand n
  type := (lastAssigned assigned "type").join.getD defaultType
  notNull := match lastAssigned assigned "not_null" with
    | some (some word) => readsTrue word
    | some none => true
    | none => false
  default := (lastAssigned assigned "default").join.map mapping.expand
  description := (lastAssigned assigned "description").join

/-- A line that assigns something, in its parentheses and behind them, makes the column of that. -/
theorem ofLine_eq_ofAssignments (mapping : Mapping) (n : Text) {args : Text}
    {properties : NamedArgs} {assigned : List (Text × Option Text)}
    (h : (NamedArgs.parse ';' args).extend properties = OrderedMap.ofList assigned) :
    ofLine mapping ⟨mapping.expand n, args, properties⟩ = ofAssignments mapping n assigned := by
  have hget : ∀ key, (OrderedMap.ofList assigned).get? key = lastAssigned assigned key :=
    OrderedMap.get?_ofList assigned
  simp only [ofLine, h, NamedArgs.value?, NamedArgs.flag, NamedArgs.flag?, hget, ofAssignments]
  rcases lastAssigned assigned "not_null" with _ | _ | word <;> rfl

end Column

/-! ## Column lines -/

/-- A line is trimmed behind its marker only. -/
theorem Marker.trim_columnLine (rest : Text) :
    Text.trim (Marker.column.line rest) = Marker.column.line (Text.trimEnd rest) := by
  have hline : ∀ u : Text, Marker.column.line u = "COL".toList ++ ':' :: u := fun _ => rfl
  rw [hline, hline, Text.trim_append_cons (by decide)]
  rfl

theorem Text.trim_of_trimmed {front : Text} (h : Trimmed front) {c : Char} (hc : isBlank c = false)
    (back : Text) : trim (front ++ c :: back) = front ++ c :: trimEnd back := by
  have hstart : trimStart front = front := dropWhile_eq_self h.1
  rw [trim_append_cons hc, hstart]

namespace TableEntry

/-- A column line is read by the parts of what it says. -/
theorem parse_columnLine {mapping : Mapping} {rest : Text} {line : DefinitionLine}
    (h : DefinitionLine.parse? mapping (Text.trim rest) = some line) :
    parse mapping (Text.trim (Marker.column.line rest)) = .ok (.column (.ofLine mapping line)) := by
  have hsplit : Marker.split? (Text.trim (Marker.column.line rest)) =
      some (.column, Text.trim rest) := by
    rw [Marker.trim_columnLine, Marker.split?_line, Text.trim_trimEnd]
  simp only [parse, hsplit, Definition.readLine, h]
  rfl

end TableEntry

namespace Column

open NamedArgs (assignments)

/-- What a column line may say to put attributes between the parentheses behind a name, behind the
parentheses, or in both places. -/
def spellings (n a b : Text) : List Text :=
  [n ++ '(' :: (a ++ [')']) ++ ';' :: b, n ++ ';' :: (a ++ ';' :: b),
    n ++ '(' :: ((a ++ ';' :: b) ++ [')'])]

/-- On its trimmed line, each spelling is read as the column of the same assignments in the same
order. -/
theorem parse_spellings (mapping : Mapping) {n a b : Text} (hn : Spec.IsName n) (ha : Balanced a)
    (hb : Balanced b) : ∀ spelling ∈ spellings n a b,
      TableEntry.parse mapping (Text.trim (Marker.column.line spelling)) =
        .ok (.column (ofAssignments mapping n (assignments ';' a ++ assignments ';' b))) := by
  have hlist : NamedArgs.parse ';' (a ++ ';' :: b) =
      OrderedMap.ofList (assignments ';' a ++ assignments ';' b) := by
    rw [NamedArgs.parse, NamedArgs.assignments_append]
  have hblank : isBlank ';' = false := by decide
  intro spelling hspelling
  simp only [spellings, List.mem_cons, List.not_mem_nil, or_false] at hspelling
  rcases hspelling with rfl | rfl | rfl
  · -- the two lists are read apart, and the second one extends the first
    have hparts : DefinitionLine.parse? mapping (Text.trim (n ++ '(' :: (a ++ [')']) ++ ';' :: b)) =
        some ⟨mapping.expand n, a, NamedArgs.parse ';' b⟩ := by
      rw [Text.trim_of_trimmed (Spec.trimmed_call hn.trimmed a) hblank,
        DefinitionLine.parse?_call mapping hn.trimmed hn.opening_not_mem hn.semicolon_not_mem
          ha.enclosed, NamedArgs.parse_trimEnd hblank]
    rw [TableEntry.parse_columnLine hparts, ofLine_eq_ofAssignments mapping n]
    rw [← NamedArgs.parse_append, hlist]
  · -- nothing stands in parentheses, and the list behind the name is read as one
    have hparts : DefinitionLine.parse? mapping (Text.trim (n ++ ';' :: (a ++ ';' :: b))) =
        some ⟨mapping.expand n, [], NamedArgs.parse ';' (a ++ ';' :: b)⟩ := by
      rw [Text.trim_of_trimmed hn.trimmed hblank,
        DefinitionLine.parse?_name mapping hn.ne_nil hn.trimmed hn.opening_not_mem
          hn.semicolon_not_mem, NamedArgs.parse_trimEnd hblank]
    rw [TableEntry.parse_columnLine hparts, ofLine_eq_ofAssignments mapping n]
    exact (OrderedMap.empty_extend _).trans hlist
  · -- all stands in parentheses, which shelter the semicolons of either list and the one between
    have hparts : DefinitionLine.parse? mapping
        (Text.trim (n ++ '(' :: ((a ++ ';' :: b) ++ [')']))) =
          some ⟨mapping.expand n, a ++ ';' :: b, OrderedMap.empty⟩ := by
      rw [Text.trim_eq_self (Spec.trimmed_call hn.trimmed (a ++ ';' :: b)),
        DefinitionLine.parse?_bare mapping hn.trimmed hn.opening_not_mem hn.semicolon_not_mem
          (ha.enclosed_append hb)]
    rw [TableEntry.parse_columnLine hparts, ofLine_eq_ofAssignments mapping n]
    exact hlist

/-- Attributes with parentheses of their own, one with a semicolon in them. -/
def firstAttributes : Text := "type=numeric(10,2);default=round(1;(2))"

/-- Attributes that assign one of those a second time. -/
def secondAttributes : Text := "not_null; type = varchar(40) ;description=a (b;c)"

/-- The second type counts, and a value ends at its first semicolon wherever that stands. -/
theorem parse_spellings_twice :
    Spec.IsName "title" ∧ Balanced firstAttributes ∧ Balanced secondAttributes ∧
      ∀ spelling ∈ spellings "title" firstAttributes secondAttributes,
        TableEntry.parse Mapping.default (Text.trim (Marker.column.line spelling)) =
          .ok (.column ⟨"title", "varchar(40)", true, some "round(1", some "a (b"⟩) := by
  have hname : Spec.IsName "title" := by decide
  have hfirst : Balanced firstAttributes := by decide
  have hsecond : Balanced secondAttributes := by decide
  have hcolumn : ofAssignments Mapping.default "title"
      (assignments ';' firstAttributes ++ assignments ';' secondAttributes) =
        ⟨"title", "varchar(40)", true, some "round(1", some "a (b"⟩ := by
    decide +kernel
  refine ⟨hname, hfirst, hsecond, ?_⟩
  rw [← hcolumn]
  exact parse_spellings Mapping.default hname hfirst hsecond

end Column

end SchemaCompiler
