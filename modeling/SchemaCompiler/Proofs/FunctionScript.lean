import SchemaCompiler.Proofs.Delimited
import SchemaCompiler.Sql.Script

namespace SchemaCompiler

/-! # The script of a function

The script of a function is its clauses, a line each, and behind the opening delimiter the body on
lines of its own, the closing delimiter and the end of the statement. Main statements:

* `Script.ofObject_function`: the script, clause by clause;
* `Script.body_quoted`: the delimiter first comes up again right behind the body.
-/

/-! ## Clauses -/

/-- The words of a parameter: its direction, its name, its type and, behind a keyword, its
default. -/
def Parameter.words (p : Parameter) : List Text :=
  [p.direction.sql, p.name, p.type] ++ match p.default with
    | none => []
    | some value => ["DEFAULT", value]

theorem Sql.parameter_eq (p : Parameter) : parameter p = Text.join " " p.words := by
  unfold parameter Parameter.words
  cases p.default with
  | none => simp [Text.join, clause]
  | some value => simp [Text.join, clause]

/-- The columns of a return in parentheses, each with its type. -/
def Return.columnList (r : Return) : Text :=
  if r.columns.entries = [] then []
  else (" (" ++ Text.join ", " (r.columns.entries.map fun entry => entry.1 ++ " " ++ entry.2) ++
    ")" : Text)

theorem Sql.returns_eq (r : Return) : returns r = r.type.upper ++ r.columnList := by
  unfold returns Return.columnList
  rfl

namespace Function

/-- The name of a function in a schema and its parameters. -/
def signature (schema : Text) (f : Function) : Text :=
  "CREATE OR REPLACE FUNCTION " ++ schema ++ "." ++ f.name ++ " (" ++
    Text.join ", " (f.params.map fun p => Text.join " " p.words) ++ ")"

/-- The clauses of a function, up to the delimiter that opens its body. -/
def clauses (schema : Text) (f : Function) : List Text :=
  [f.signature schema, "RETURNS " ++ f.returns.type.upper ++ f.returns.columnList] ++
    f.language.toList.map ("LANGUAGE ".toList ++ ·) ++ ["AS " ++ f.separator]

/-- A clause on the language stands for a language that is declared. -/
theorem language_mem_clauses {schema language : Text} {f : Function} :
    "LANGUAGE ".toList ++ language ∈ f.clauses schema ↔ f.language = some language := by
  unfold clauses
  rw [List.mem_append, List.mem_append, List.mem_map, List.mem_singleton]
  constructor
  · -- no other clause begins with the same letter
    rintro ((h | ⟨declared, hdeclared, h⟩) | h)
    · rcases List.mem_pair.1 h with h | h
      · exact absurd (List.cons.inj h).1 (by decide)
      · exact absurd (List.cons.inj h).1 (by decide)
    · rw [Option.mem_toList] at hdeclared
      rw [hdeclared, List.append_cancel_left h]
    · exact absurd (List.cons.inj h).1 (by decide)
  · intro h
    exact .inl (.inr ⟨language, Option.mem_toList.2 h, rfl⟩)

end Function

namespace Script

open Text

/-- The script of a function: its clauses and, behind the delimiter, its body. -/
theorem ofObject_function (schema : Text) (f : Function) :
    ofObject schema (.function f) = Text.join "\n\t" (f.clauses schema) ++
      ("\n" ++ f.body ++ "\n" ++ f.separator ++ ";\n\n") := by
  have hparams : f.params.map Sql.parameter = f.params.map fun p => Text.join " " p.words :=
    List.map_congr_left fun p _ => Sql.parameter_eq p
  have hscript : ofObject schema (.function f) =
      (Statement.createFunction f).body schema ++ ";" ++ "\n\n" :=
    List.append_nil _
  rw [hscript]
  -- the one statement, as it is put together, against its clauses
  show ("CREATE OR REPLACE FUNCTION " : Text) ++ Sql.qualified schema f.name ++ " (" ++
    Text.join ", " (f.params.map Sql.parameter) ++ ")\n\tRETURNS " ++ Sql.returns f.returns ++
    Sql.clause "\n\tLANGUAGE " f.language ++ "\n\tAS " ++ f.separator ++ "\n" ++ f.body ++ "\n" ++
    f.separator ++ ";" ++ "\n\n" = _
  rw [hparams, Sql.returns_eq, Sql.qualified]
  unfold Function.clauses Function.signature
  cases f.language with
  | none => simp [Text.join, Sql.clause]
  | some language => simp [Text.join, Sql.clause]

/-- The delimiter around a body comes up behind the opening one first as the closing one, right
behind the body and at the end of the script, unless it holds a newline or comes up in the body (as
an empty one would). Ahead of it stand the parameters in order, and a language if one is
declared. -/
theorem body_quoted (schema : Text) {f : Function} (hline : '\n' ∉ f.separator)
    (hbody : ¬f.separator <:+: f.body) :
    ∃ behind, ofObject schema (.function f) = Text.join "\n\t" (f.clauses schema) ++ behind ∧
      FirstOccurrence f.separator behind ("\n" ++ f.body ++ "\n") ";\n\n" ∧
      (f.clauses schema).getLast? = some ("AS " ++ f.separator) ∧
      (f.clauses schema).head? = some ("CREATE OR REPLACE FUNCTION " ++ schema ++ "." ++ f.name ++
        " (" ++ Text.join ", " (f.params.map fun p => Text.join " " p.words) ++ ")") ∧
      ∀ language, "LANGUAGE ".toList ++ language ∈ f.clauses schema ↔
        f.properties.get? "lang" = some (some language) := by
  refine ⟨_, ofObject_function schema f, firstOccurrence_fence hline hbody,
    List.getLast?_concat .., rfl, fun language => ?_⟩
  rw [Function.language_mem_clauses, Function.language, NamedArgs.value?, Option.join_eq_some_iff]

/-- A function whose body has the first half of the delimiter in it and at its end. -/
def price : Function where
  name := "price"
  properties := OrderedMap.ofList [("lang", some "sql"), ("immutable", none)]
  params := [⟨"amount", "numeric(10,2)", .inward, none, some "Net amount"⟩,
    ⟨"rate", "numeric", .inward, some "0.19", none⟩]
  returns := Return.ofType "numeric" OrderedMap.empty
  body := "select $1 * (1 + $2);\n-- in $"

theorem body_quoted_price :
    '\n' ∉ price.separator ∧ ¬price.separator <:+: price.body ∧
      ∃ behind, ofObject "shop" (.function price) =
          "CREATE OR REPLACE FUNCTION shop.price (IN amount numeric(10,2), ".toList ++
            "IN rate numeric DEFAULT 0.19)\n\tRETURNS NUMERIC\n\tLANGUAGE sql\n\tAS $$" ++ behind ∧
        FirstOccurrence "$$" behind "\nselect $1 * (1 + $2);\n-- in $\n" ";\n\n" := by
  have hline : '\n' ∉ price.separator := by decide
  have hbody : ¬price.separator <:+: price.body := by decide
  obtain ⟨behind, hscript, hfirst, -, -, -⟩ := body_quoted "shop" hline hbody
  exact ⟨hline, hbody, behind, hscript, hfirst⟩

end Script

end SchemaCompiler
