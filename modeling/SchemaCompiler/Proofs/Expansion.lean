import SchemaCompiler.Object.Definition
import SchemaCompiler.Proofs.OrderedMap
import SchemaCompiler.Proofs.Results

namespace SchemaCompiler

/-! # Expanding what was read

`Mapping.literal` gives every token its own placeholder, so a file read under it keeps its names and
defaults as they are written. What another mapping does to such an object is written down here:
`Object.expand` expands the name, and of a table also the names and defaults of the columns, the
names of the constraints and the indexes and the columns they list. Columns that expand to one name
are collapsed, the first one fixing the place and the last one the sort order.

An error keeps all its links, and so its categories (`Error.is_expand`); only the names of keys and
indexes without columns are expanded in it.
-/

/-! ## The literal mapping -/

/-- A pattern replaced by itself changes nothing. -/
theorem Text.replaceFrom_self {pattern : Text} (h : pattern ≠ []) (skip : Nat) (t : Text) :
    replaceFrom pattern pattern skip t = t.drop skip := by
  induction t generalizing skip with
  | nil => cases skip <;> simp [replaceFrom]
  | cons c cs ih =>
      cases skip with
      | succ skip => rw [replaceFrom, ih, List.drop_succ_cons]
      | zero =>
          rw [replaceFrom]
          split
          · -- the pattern is put in its own place, and reading goes on behind it
            rename_i hprefix
            obtain ⟨rest, hrest⟩ := List.isPrefixOf_iff_prefix.1 hprefix
            obtain ⟨p, ps, rfl⟩ := List.exists_cons_of_ne_nil h
            have hcs : cs = ps ++ rest := (List.cons.inj hrest).2.symm
            have hdrop : cs.drop ((p :: ps).length - 1) = rest := by simp [hcs]
            rw [ih, hdrop, hrest, List.drop_zero]
          · rw [ih, List.drop_zero, List.drop_zero]

theorem Text.replaceAll_self (t pattern : Text) : t.replaceAll pattern pattern = t := by
  rw [replaceAll]
  split
  · rfl
  · rename_i h
    rw [replaceFrom_self h, List.drop_zero]

namespace Mapping

/-- The mapping that gives every token its own placeholder. -/
def literal : Mapping := ⟨fun token => some token.placeholder⟩

/-- Under the literal mapping every text stands for itself. -/
theorem literal_expand (t : Text) : literal.expand t = t := by
  -- one token after another replaces its placeholder by itself
  have hfold : ∀ tokens : List Token, tokens.foldl
      (fun acc token => Text.replaceAll acc token.placeholder (literal.value token)) t = t := by
    intro tokens
    induction tokens with
    | nil => rfl
    | cons token rest ih =>
        have hvalue : literal.value token = token.placeholder := rfl
        rw [List.foldl_cons, hvalue, Text.replaceAll_self, ih]
  exact hfold Token.all

theorem map_literal_expand (ts : List Text) : ts.map literal.expand = ts := by
  rw [List.map_congr_left fun t _ => literal_expand t, List.map_id']

end Mapping

/-! ## Objects -/

/-- The name and the default are expanded. -/
def Column.expand (m : Mapping) (c : Column) : Column :=
  { c with name := m.expand c.name, default := c.default.map m.expand }

/-- The name and the columns are expanded. -/
def Constraint.expand (m : Mapping) (c : Constraint) : Constraint :=
  { c with name := m.expand c.name, columns := c.columns.map m.expand }

/-- The name and the columns are expanded. -/
def Index.expand (m : Mapping) (i : Index) : Index :=
  { i with name := m.expand i.name, columns := i.columns.mapKeys m.expand }

/-- The names and the column defaults are expanded. -/
def Table.expand (m : Mapping) (t : Table) : Table where
  name := m.expand t.name
  properties := t.properties
  columns := t.columns.map (Column.expand m)
  primaryKey := t.primaryKey.map (Constraint.expand m)
  uniqueKeys := t.uniqueKeys.map (Constraint.expand m)
  indexes := t.indexes.map (Index.expand m)

/-- The name is expanded. -/
def Sequence.expand (m : Mapping) (s : Sequence) : Sequence := { s with name := m.expand s.name }

/-- The name is expanded. -/
def Function.expand (m : Mapping) (f : Function) : Function := { f with name := m.expand f.name }

/-- What a mapping does to an object whose texts are as they were written. -/
def Object.expand (m : Mapping) : Object → Object
  | table t => table (t.expand m)
  | sequence s => sequence (s.expand m)
  | function f => function (f.expand m)

/-! ## Lines -/

/-- Only the name of a line is expanded; its arguments and properties are not. -/
def DefinitionLine.expand (m : Mapping) (line : DefinitionLine) : DefinitionLine :=
  { line with name := m.expand line.name }

def TableEntry.expand (m : Mapping) : TableEntry → TableEntry
  | name n => name (m.expand n)
  | properties args => properties args
  | column c => column (c.expand m)
  | constraint c => constraint (c.expand m)
  | index i => index (i.expand m)
  | ignored => ignored

def SequenceEntry.expand (m : Mapping) : SequenceEntry → SequenceEntry
  | name n => name (m.expand n)
  | properties args => properties args
  | ignored => ignored

def FunctionEntry.expand (m : Mapping) : FunctionEntry → FunctionEntry
  | name n => name (m.expand n)
  | properties args => properties args
  | parameter p => parameter p
  | returns r => returns r
  | body l => body l
  | ignored => ignored

/-! ## Errors -/

/-- The name of a constraint or an index without columns is expanded. -/
def DefinitionFault.expand (m : Mapping) : DefinitionFault → DefinitionFault
  | constraintWithoutColumns name => constraintWithoutColumns (m.expand name)
  | indexWithoutColumns name => indexWithoutColumns (m.expand name)
  | fault => fault

def Fault.expand (m : Mapping) : Fault → Fault
  | definition fault => definition (fault.expand m)
  | fault => fault

theorem Fault.category?_expand (m : Mapping) (fault : Fault) :
    (fault.expand m).category? = fault.category? := by
  cases fault <;> rfl

namespace Error

/-- The error with the names in its links expanded. -/
def expand (m : Mapping) (error : Error) : Error :=
  ⟨error.outermost.expand m, error.inner.map (Fault.expand m)⟩

/-- Expansion keeps the categories of an error. -/
theorem is_expand (m : Mapping) (category : Category) (error : Error) :
    (error.expand m).is category = error.is category := by
  have hfaults : (error.expand m).faults = error.faults.map (Fault.expand m) := rfl
  rw [is, hfaults, List.any_map, is]
  congr 1
  funext fault
  rw [Function.comp_apply, Fault.category?_expand]

end Error

/-! ## Results -/

/-- A result with what was read expanded by `expand`, or the names in its error. -/
def expandResult {α β : Type} (m : Mapping) (expand : α → β) : Except Error α → Except Error β
  | .ok x => .ok (expand x)
  | .error e => .error (e.expand m)

section

variable {α β γ δ : Type} {m : Mapping}

/-- Steps in a row expand if each of them does. -/
theorem expandResult_bind {expand : α → γ} {expand' : β → δ} {f : α → Except Error β}
    {f' : γ → Except Error δ} (h : ∀ x, f' (expand x) = expandResult m expand' (f x))
    (result : Except Error α) :
    expandResult m expand result >>= f' = expandResult m expand' (result >>= f) := by
  cases result with
  | ok x => exact h x
  | error e => rfl

theorem expandResult_map {expand : α → γ} {expand' : β → δ} {f : α → β} {f' : γ → δ}
    (h : ∀ x, f' (expand x) = expand' (f x)) (result : Except Error α) :
    (expandResult m expand result).map f' = expandResult m expand' (result.map f) := by
  cases result with
  | ok x => exact congrArg Except.ok (h x)
  | error e => rfl

/-- A result that no mapping has an influence on is expanded once it is used. -/
theorem map_eq_expandResult {expand : β → γ} {f : α → β} {f' : α → γ}
    {result : Except Error α} (h : ∀ x, f' x = expand (f x))
    (herror : ∀ e, result = .error e → e.expand m = e) :
    result.map f' = expandResult m expand (result.map f) := by
  cases result with
  | ok x => exact congrArg Except.ok (h x)
  | error e => exact congrArg Except.error (herror e rfl).symm

/-- Steps behind one that no mapping has an influence on expand if they do. -/
theorem bind_eq_expandResult {expand : β → γ} {f : α → Except Error β} {f' : α → Except Error γ}
    {result : Except Error α} (h : ∀ x, f' x = expandResult m expand (f x))
    (herror : ∀ e, result = .error e → e.expand m = e) :
    result >>= f' = expandResult m expand (result >>= f) := by
  cases result with
  | ok x => exact h x
  | error e => exact congrArg Except.error (herror e rfl).symm

theorem expandResult_during {expand : α → β} (activity : Activity) (result : Except Error α) :
    during activity (expandResult m expand result) =
      expandResult m expand (during activity result) := by
  cases result <;> rfl

/-- A list of results expands if each of them does. -/
theorem expandResult_mapM {expand : β → γ} {f : α → Except Error β} {f' : α → Except Error γ}
    {xs : List α} (h : ∀ x ∈ xs, f' x = expandResult m expand (f x)) :
    xs.mapM f' = expandResult m (List.map expand) (xs.mapM f) := by
  induction xs with
  | nil => rfl
  | cons x xs ih =>
      have hx := h x List.mem_cons_self
      have hxs := ih fun y hy => h y (List.mem_cons_of_mem _ hy)
      rw [List.mapM_cons, List.mapM_cons, hx, hxs]
      -- an error at the head hides the rest, whatever the rest comes to
      cases f x with
      | error e => rfl
      | ok y => cases xs.mapM f <;> rfl

/-- The lines of a definition expand if every line does. -/
theorem expandResult_readingLines {expand : β → γ} {f : Text → Except Error β}
    {f' : Text → Except Error γ} (h : ∀ line, f' line = expandResult m expand (f line))
    (lines : List Text) :
    lines.mapM (fun line => during (.readingLine line) (f' line)) =
      expandResult m (List.map expand)
        (lines.mapM fun line => during (.readingLine line) (f line)) := by
  refine expandResult_mapM fun line _ => ?_
  rw [h line, expandResult_during]

end

end SchemaCompiler
