import Mathlib.Tactic.MkIffOfInductiveProp
import SchemaCompiler.Definition.Line
import SchemaCompiler.Proofs.Text

namespace SchemaCompiler

/-! # Definition lines as they are written

A definition line `name(args);properties` comes apart at the first semicolon outside parentheses and,
ahead of it, at the first opening and the last closing parenthesis. Both cuts fall where they are
meant to if the name has neither a semicolon nor an opening parenthesis and the arguments keep their
semicolons inside the parentheses around them (`Enclosed`). Main statements:

* `splitTopLevel_append`: a part whose separators all stand inside parentheses is not cut;
* `Spec.parse_call`: a name with arguments comes apart into the two;
* `DefinitionLine.parse?_name`, `DefinitionLine.parse?_call`, `DefinitionLine.parse?_bare`: so does a
  line, with and without arguments or properties;
* `Mapping.expand_of_not_mem`: a text without a dollar sign expands to itself.
-/

/-! ## Parentheses -/

/-- The number of open parentheses behind a character. A closing parenthesis without an opening one
counts for nothing. -/
def nest (depth : Nat) (c : Char) : Nat :=
  if c = '(' then depth + 1 else if c = ')' then depth - 1 else depth

/-- The number of open parentheses behind a text. -/
def nestAfter (depth : Nat) (t : Text) : Nat := t.foldl nest depth

/-- Every separator in the text stands inside parentheses, when `depth` are open before it. -/
def Sheltered (sep : Char) : Nat → Text → Prop
  | _, [] => True
  | depth, c :: cs => (c = sep → depth ≠ 0) ∧ Sheltered sep (nest depth c) cs

instance decidableSheltered (sep : Char) : (depth : Nat) → (t : Text) →
    Decidable (Sheltered sep depth t)
  | _, [] => isTrue trivial
  | depth, c :: cs =>
    have := decidableSheltered sep (nest depth c) cs
    inferInstanceAs (Decidable (_ ∧ _))

/-- Between two parentheses, the text keeps its semicolons inside them, and the second one is the end
of the first. -/
@[mk_iff]
structure Enclosed (t : Text) : Prop where
  sheltered : Sheltered ';' 1 t
  nestAfter_le : nestAfter 1 t ≤ 1

instance (t : Text) : Decidable (Enclosed t) := decidable_of_iff' _ (enclosed_iff t)

theorem nest_of_ne {c : Char} (hopen : c ≠ '(') (hclose : c ≠ ')') (depth : Nat) :
    nest depth c = depth := by
  rw [nest, if_neg hopen, if_neg hclose]

/-- A separator inside parentheses does not cut. -/
theorem splitTopLevel_cons {sep c : Char} {depth : Nat} (h : c = sep → depth ≠ 0) (t : Text) :
    splitTopLevel sep depth (c :: t) = (splitTopLevel sep (nest depth c) t).map (c :: ·) id := by
  by_cases hopen : c = '('
  · simp [splitTopLevel, nest, hopen]
  · by_cases hclose : c = ')'
    · simp [splitTopLevel, nest, hclose]
    · -- a cut would need the separator outside parentheses
      have hcut : ¬(c = sep ∧ depth = 0) := fun hc => h hc.1 hc.2
      rw [nest_of_ne hopen hclose, splitTopLevel, if_neg hopen, if_neg hclose, if_neg hcut]

/-- A part whose separators all stand inside parentheses is not cut. -/
theorem splitTopLevel_append {sep : Char} {depth : Nat} {part : Text}
    (h : Sheltered sep depth part) (rest : Text) :
    splitTopLevel sep depth (part ++ rest) =
      (splitTopLevel sep (nestAfter depth part) rest).map (part ++ ·) id := by
  induction part generalizing depth with
  | nil => rfl
  | cons c cs ih =>
      rw [List.cons_append, splitTopLevel_cons h.1, ih h.2]
      rfl

/-- A line is cut at a semicolon behind a part that shelters its own and closes its parentheses. -/
theorem splitTopLevel_cut {part : Text} (h : Sheltered ';' 0 part) (hclosed : nestAfter 0 part = 0)
    (rest : Text) : splitTopLevel ';' 0 (part ++ ';' :: rest) = (part, some rest) := by
  rw [splitTopLevel_append h, hclosed]
  simp [splitTopLevel]

/-- A line that shelters all its semicolons is not cut. -/
theorem splitTopLevel_whole {sep : Char} {depth : Nat} {t : Text} (h : Sheltered sep depth t) :
    splitTopLevel sep depth t = (t, none) := by
  have happend := splitTopLevel_append h []
  rw [List.append_nil] at happend
  rw [happend]
  simp [splitTopLevel]

/-- A text without opening parentheses and separators opens nothing and shelters everything. -/
theorem sheltered_of_not_mem {sep : Char} {t : Text} (hopen : '(' ∉ t) (hsep : sep ∉ t) :
    Sheltered sep 0 t ∧ nestAfter 0 t = 0 := by
  induction t with
  | nil => exact ⟨trivial, rfl⟩
  | cons c cs ih =>
      rw [List.mem_cons, not_or] at hopen hsep
      -- a closing parenthesis may still come, but with none open it counts for nothing
      have hnest : nest 0 c = 0 := by
        rw [nest, if_neg (Ne.symm hopen.1)]
        split <;> rfl
      have ih' := ih hopen.2 hsep.2
      refine ⟨⟨fun hc => absurd hc.symm hsep.1, ?_⟩, ?_⟩
      · rw [hnest]
        exact ih'.1
      · rw [nestAfter, List.foldl_cons, hnest]
        exact ih'.2

theorem sheltered_append {sep : Char} {depth : Nat} {a b : Text} (ha : Sheltered sep depth a)
    (hb : Sheltered sep (nestAfter depth a) b) : Sheltered sep depth (a ++ b) := by
  induction a generalizing depth with
  | nil => exact hb
  | cons c cs ih => exact ⟨ha.1, ih ha.2 hb⟩

theorem Sheltered.of_append {sep : Char} {depth : Nat} {a b : Text}
    (h : Sheltered sep depth (a ++ b)) : Sheltered sep (nestAfter depth a) b := by
  induction a generalizing depth with
  | nil => exact h
  | cons c cs ih => exact ih h.2

theorem nestAfter_append (depth : Nat) (a b : Text) :
    nestAfter depth (a ++ b) = nestAfter (nestAfter depth a) b :=
  List.foldl_append

/-- A name with enclosed arguments opens nothing and shelters everything. -/
theorem sheltered_call {name args : Text} (hopen : '(' ∉ name) (hsemi : ';' ∉ name)
    (hargs : Enclosed args) :
    Sheltered ';' 0 (name ++ '(' :: (args ++ [')'])) ∧
      nestAfter 0 (name ++ '(' :: (args ++ [')'])) = 0 := by
  have hname := sheltered_of_not_mem hopen hsemi
  -- the last parenthesis closes the first one
  have hclosed : nestAfter 1 (args ++ [')']) = 0 := by
    have hle := hargs.nestAfter_le
    have hclose : nestAfter (nestAfter 1 args) [')'] = nestAfter 1 args - 1 := rfl
    rw [nestAfter_append, hclose]
    omega
  have htail : Sheltered ';' 1 (args ++ [')']) :=
    sheltered_append hargs.sheltered ⟨fun hc => absurd hc (by decide), trivial⟩
  constructor
  · refine sheltered_append hname.1 ?_
    rw [hname.2]
    exact ⟨by decide, htail⟩
  · rw [nestAfter_append, hname.2]
    exact hclosed

/-! ## Specifications -/

namespace Spec

theorem parse_name {name : Text} (htrim : Text.Trimmed name) (hopen : '(' ∉ name) :
    parse name = ⟨name, []⟩ := by
  simp [parse, Text.trim_eq_self htrim, Text.splitOnce_of_not_mem hopen]

theorem trimmed_call {name : Text} (htrim : Text.Trimmed name) (args : Text) :
    Text.Trimmed (name ++ '(' :: (args ++ [')'])) := by
  constructor
  · intro c hc
    cases name with
    | nil =>
        cases hc
        decide
    | cons x xs => exact htrim.1 c hc
  · intro c hc
    have hlast : name ++ '(' :: (args ++ [')']) = (name ++ '(' :: args) ++ [')'] := by simp
    rw [hlast, List.getLast?_concat] at hc
    cases hc
    decide

/-- A name with arguments comes apart into the two. -/
theorem parse_call {name : Text} (htrim : Text.Trimmed name) (hopen : '(' ∉ name) (args : Text) :
    parse (name ++ '(' :: (args ++ [')'])) = ⟨name, args⟩ := by
  -- parentheses in the arguments come before the last one, so the cut falls behind them
  have hlast : Text.splitLast ')' (args ++ [')']) = some (args, []) :=
    Text.splitLast_append (by simp) args
  simp [parse, Text.trim_eq_self (trimmed_call htrim args), Text.splitOnce_append hopen, hlast,
    Text.trim_eq_self htrim]

end Spec

/-! ## Lines -/

namespace DefinitionLine

/-- What stands ahead of the first semicolon outside parentheses. -/
def objectOf (line : Text) : Text := (splitTopLevel ';' 0 line).1.trim

/-- The properties behind the first semicolon outside parentheses. -/
def propertiesOf (line : Text) : NamedArgs :=
  NamedArgs.parse ';' ((splitTopLevel ';' 0 line).2.getD [])

/-- A line that holds something ahead of its properties comes apart into it and them. -/
theorem parse?_eq (mapping : Mapping) (line : Text) :
    parse? mapping line =
      if objectOf line = [] then none
      else some ⟨mapping.expand (Spec.parse (objectOf line)).name,
        (Spec.parse (objectOf line)).args, propertiesOf line⟩ := rfl

/-- A line without arguments comes apart into its name and its properties. -/
theorem parse?_name (mapping : Mapping) {name : Text} (hne : name ≠ [])
    (htrim : Text.Trimmed name) (hopen : '(' ∉ name) (hsemi : ';' ∉ name) (properties : Text) :
    parse? mapping (name ++ ';' :: properties) =
      some ⟨mapping.expand name, [], NamedArgs.parse ';' properties⟩ := by
  have hname := sheltered_of_not_mem hopen hsemi
  have hsplit := splitTopLevel_cut hname.1 hname.2 properties
  simp [parse?, hsplit, Text.trim_eq_self htrim, hne, Spec.parse_name htrim hopen]

/-- A line comes apart into its name, its arguments and its properties. -/
theorem parse?_call (mapping : Mapping) {name args : Text} (htrim : Text.Trimmed name)
    (hopen : '(' ∉ name) (hsemi : ';' ∉ name) (hargs : Enclosed args) (properties : Text) :
    parse? mapping (name ++ '(' :: (args ++ [')']) ++ ';' :: properties) =
      some ⟨mapping.expand name, args, NamedArgs.parse ';' properties⟩ := by
  have hcall := sheltered_call hopen hsemi hargs
  have hsplit := splitTopLevel_cut hcall.1 hcall.2 properties
  simp only [parse?, hsplit, Text.trim_eq_self (Spec.trimmed_call htrim args),
    Spec.parse_call htrim hopen]
  simp

/-- A line may end behind its arguments and has no properties then. -/
theorem parse?_bare (mapping : Mapping) {name args : Text} (htrim : Text.Trimmed name)
    (hopen : '(' ∉ name) (hsemi : ';' ∉ name) (hargs : Enclosed args) :
    parse? mapping (name ++ '(' :: (args ++ [')'])) =
      some ⟨mapping.expand name, args, OrderedMap.empty⟩ := by
  have hcall := sheltered_call hopen hsemi hargs
  have hnone : NamedArgs.parse ';' [] = OrderedMap.empty := rfl
  simp only [parse?, splitTopLevel_whole hcall.1, Text.trim_eq_self (Spec.trimmed_call htrim args),
    Spec.parse_call htrim hopen, Option.getD_none, hnone]
  simp

end DefinitionLine

/-! ## Expansion -/

theorem Text.replaceFrom_of_not_mem {c : Char} {t : Text} (h : c ∉ t) (pattern replacement : Text) :
    replaceFrom (c :: pattern) replacement 0 t = t := by
  induction t with
  | nil => rfl
  | cons x xs ih =>
      rw [List.mem_cons, not_or] at h
      simp [replaceFrom, h.1, ih h.2]

/-- A text without a dollar sign expands to itself. -/
theorem Mapping.expand_of_not_mem (mapping : Mapping) {t : Text} (h : '$' ∉ t) :
    mapping.expand t = t := by
  have hstep : ∀ token : Token, t.replaceAll token.placeholder (mapping.value token) = t := by
    intro token
    rw [Text.replaceAll]
    split
    · rfl
    · exact Text.replaceFrom_of_not_mem h _ _
  -- every placeholder starts with a dollar sign, so no token changes the text
  have hfold : ∀ tokens : List Token, tokens.foldl
      (fun acc token => Text.replaceAll acc token.placeholder (mapping.value token)) t = t := by
    intro tokens
    induction tokens with
    | nil => rfl
    | cons token rest ih => rw [List.foldl_cons, hstep, ih]
  exact hfold Token.all

end SchemaCompiler
