import Mathlib
import SchemaCompiler.Object.Definition
import SchemaCompiler.Proofs.FunctionScript

namespace SchemaCompiler

/-! # The type that a function returns

A return is written in upper case. The database reads names without regard to the case of their
letters, except inside double quotes; so a type in upper case is still the same type, unless a
quoted name in it has a small letter. Main statements:

* `Sql.folded_map_toUpper_eq_iff`: when a text and the text in upper case are read alike;
* `Script.returnType_folded`: when a script returns the type that its function declares;
* `Script.returnType_renamed`: a quoted type that comes out as another one.
-/

/-! ## Names as the database reads them -/

namespace Text

/-- The text has ASCII characters only. -/
def Ascii (t : Text) : Prop := ∀ c ∈ t, c.toNat < 128

instance : DecidablePred Ascii := fun _ => List.decidableBAll _ _

/-- An ASCII text in upper case has its characters in upper case. -/
theorem upper_of_ascii {t : Text} (h : t.Ascii) : t.upper = t.map Char.toUpper := by
  have hchar : ∀ c ∈ t, upperChar c = [c.toUpper] := by
    intro c hc
    unfold upperChar
    exact if_pos (h c hc)
  unfold upper
  rw [List.flatMap_congr hchar, List.map_eq_flatMap]

end Text

namespace Sql

/-- A text as the database reads it: ASCII letters outside double quotes are in lower case. The
text begins inside quotes if `quoted` is set. -/
def folded (quoted : Bool) : Text → Text
  | [] => []
  | c :: cs =>
    if c = '"' then c :: folded (!quoted) cs
    else (if quoted then c else c.toLower) :: folded quoted cs

/-- The characters of a text that stand inside double quotes. -/
def quotedPart (quoted : Bool) : Text → Text
  | [] => []
  | c :: cs =>
    if c = '"' then quotedPart (!quoted) cs
    else if quoted then c :: quotedPart quoted cs
    else quotedPart quoted cs

theorem toUpper_eq_self_iff {c : Char} : c.toUpper = c ↔ c.isLower = false := by
  constructor
  · intro h
    rw [← h]
    exact Char.isLower_toUpper_eq_false c
  · intro h
    apply Char.toUpper_eq_of_not_isLower
    rw [h]
    exact Bool.false_ne_true

/-- Upper case makes no quotes. -/
theorem toUpper_eq_quote_iff {c : Char} : c.toUpper = '"' ↔ c = '"' := by
  constructor
  · intro h
    have halpha : c.isAlpha = false := by
      rw [← Char.isUpper_toUpper_eq_isAlpha, h]
      rfl
    have hlower : c.isLower = false := (Bool.or_eq_false_iff.1 halpha).2
    rw [← h, toUpper_eq_self_iff.2 hlower]
  · rintro rfl
    rfl

/-- A text in upper case is read like the text itself if no small letter is quoted in it. -/
theorem folded_map_toUpper_eq_iff {quoted : Bool} {t : Text} :
    folded quoted (t.map Char.toUpper) = folded quoted t ↔
      (quotedPart quoted t).any Char.isLower = false := by
  induction t generalizing quoted with
  | nil => exact iff_of_true rfl rfl
  | cons c cs ih =>
      rw [List.map_cons, folded, folded, quotedPart]
      by_cases hc : c = '"'
      · -- the text behind a quote is read the other way
        rw [if_pos (toUpper_eq_quote_iff.2 hc), if_pos hc, if_pos hc, toUpper_eq_quote_iff.2 hc, hc,
          List.cons_inj_right, ih]
      · rw [if_neg (mt toUpper_eq_quote_iff.1 hc), if_neg hc, if_neg hc, List.cons.injEq, ih]
        cases quoted with
        | false => exact and_iff_right (Char.toLower_toUpper_eq_toLower c)
        | true =>
            rw [if_pos rfl, if_pos rfl, if_pos rfl, toUpper_eq_self_iff, List.any_cons,
              Bool.or_eq_false_iff]

end Sql

/-! ## Returns -/

namespace Script

open Sql

/-- The type that an ASCII return is written with is read as the declared one exactly if no small
letter is quoted in it. The columns behind it are written as they are. -/
theorem returnType_folded (schema : Text) {f : Function}
    (hascii : Text.Ascii f.returns.type) :
    ∃ written behind : Text,
      ofObject schema (.function f) = Text.join "\n\t" (f.clauses schema) ++ behind ∧
      (f.clauses schema)[1]? = some ("RETURNS ".toList ++ written ++ f.returns.columnList) ∧
      (folded false written = folded false f.returns.type ↔
        (quotedPart false f.returns.type).any Char.isLower = false) := by
  refine ⟨f.returns.type.map Char.toUpper, _, ofObject_function schema f, ?_,
    folded_map_toUpper_eq_iff⟩
  rw [← Text.upper_of_ascii hascii]
  rfl

/-- A function that returns a quoted type of a schema, in capital letters. -/
def nextOrder : Function where
  name := "next_order"
  properties := OrderedMap.empty
  params := []
  returns := Return.ofType "shop.\"ORDER\"[]" OrderedMap.empty
  body := "select null;"

theorem returnType_folded_nextOrder :
    Text.Ascii nextOrder.returns.type ∧
      ∃ written behind : Text,
        ofObject "shop" (.function nextOrder) =
          Text.join "\n\t" (nextOrder.clauses "shop") ++ behind ∧
        (nextOrder.clauses "shop")[1]? = some ("RETURNS ".toList ++ written) ∧
        folded false written = folded false "shop.\"ORDER\"[]" := by
  have hascii : Text.Ascii nextOrder.returns.type := by decide
  obtain ⟨written, behind, hscript, hclause, hfolded⟩ := returnType_folded "shop" hascii
  rw [show nextOrder.returns.columnList = [] from rfl, List.append_nil] at hclause
  exact ⟨hascii, written, behind, hscript, hclause, hfolded.2 (by decide)⟩

/-- A type that is quoted for its small letters comes out as another type. -/
theorem returnType_renamed :
    ∃ f : Function, Object.parse Mapping.default .function
        "FUNC\nNAME:f\nRET:\"Status\"\nBODY:\nselect 1;\nBODY;\n" = .ok (.function f) ∧
      Text.Ascii f.returns.type ∧
      ofObject "public" (.function f) = "CREATE OR REPLACE FUNCTION public.f ()\n\t".toList ++
        "RETURNS \"STATUS\"\n\tAS $$\nselect 1;\n$$;\n\n" ∧
      folded false "\"STATUS\"" ≠ folded false f.returns.type := by
  exact ⟨⟨"f", OrderedMap.empty, [], Return.ofType "\"Status\"" OrderedMap.empty, "select 1;"⟩,
    by decide, by decide, by decide, by decide⟩

end Script

end SchemaCompiler
