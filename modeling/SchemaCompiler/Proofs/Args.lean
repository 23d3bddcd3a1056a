import Mathlib.Tactic.MkIffOfInductiveProp
import SchemaCompiler.Args
import SchemaCompiler.Proofs.OrderedMap
import SchemaCompiler.Proofs.Text

namespace SchemaCompiler

/-! # Argument lists as they are written

A named argument is written `key=value`, or as its bare key, and a list puts separators between its
arguments. Reading a list that was written so gives its entries back (`NamedArgs.parse_list`). A
separator falls apart into what is ahead of it and what is behind it (`NamedArgs.parse_append`), and
blanks at the end make no difference (`NamedArgs.parse_trimEnd`). -/

/-- Trimmed non-empty pieces without the separator come back from their list. -/
theorem args_join {sep : Char} {pieces : List Text} (hsep : ∀ p ∈ pieces, sep ∉ p)
    (htrim : ∀ p ∈ pieces, Text.Trimmed p) (hne : ∀ p ∈ pieces, p ≠ []) :
    args sep (Text.join [sep] pieces) = pieces := by
  by_cases hnil : pieces = []
  · subst hnil
    rfl
  · -- cutting gives the pieces back, and neither trimming nor dropping empty ones changes them
    have hmap : pieces.map Text.trim = pieces := by
      rw [List.map_congr_left fun p hp => Text.trim_eq_self (htrim p hp), List.map_id']
    rw [args, Text.splitOn_join hnil hsep, hmap, List.filter_eq_self]
    intro p hp
    simpa using hne p hp

/-- The pieces around a separator are those ahead of it and those behind it. -/
theorem args_append (sep : Char) (a b : Text) :
    args sep (a ++ sep :: b) = args sep a ++ args sep b := by
  rw [args, Text.splitOn_append_sep, List.map_append, List.filter_append]
  rfl

/-- Blanks at the end of a list belong to its last piece and are trimmed with it. -/
theorem args_trimEnd {sep : Char} (hsep : isBlank sep = false) (t : Text) :
    args sep t.trimEnd = args sep t := by
  have hlast : ∀ {u : Text}, sep ∉ u → args sep u.trimEnd = args sep u := by
    intro u hu
    have hend : sep ∉ u.trimEnd := fun h => hu (Text.mem_of_mem_trimEnd h)
    simp only [args, Text.splitOn_of_not_mem hu, Text.splitOn_of_not_mem hend, List.map_singleton,
      Text.trim_trimEnd]
  by_cases hmem : sep ∈ t
  · obtain ⟨front, back, rfl, hback⟩ := Text.exists_append_cons_of_mem hmem
    rw [Text.trimEnd_append_cons hsep, args_append, args_append, hlast hback]
  · exact hlast hmem

/-- Blanks at the start of a list belong to its first piece and are trimmed with it. -/
theorem args_trimStart {sep : Char} (hsep : isBlank sep = false) (t : Text) :
    args sep t.trimStart = args sep t := by
  have hfirst : ∀ {u : Text}, sep ∉ u → args sep u.trimStart = args sep u := by
    intro u hu
    have hstart : sep ∉ u.trimStart := fun h => hu (Text.mem_of_mem_trimStart h)
    simp only [args, Text.splitOn_of_not_mem hu, Text.splitOn_of_not_mem hstart, List.map_singleton,
      Text.trim_trimStart]
  by_cases hmem : sep ∈ t
  · obtain ⟨front, back, rfl, hfront⟩ := List.eq_append_cons_of_mem hmem
    rw [Text.trimStart_append_cons hsep, args_append, args_append, hfirst hfront]
  · exact hfirst hmem

namespace NamedArgs

/-- An argument as it is written. -/
def piece : Text × Option Text → Text
  | (key, some value) => key ++ '=' :: value
  | (key, none) => key

/-- Arguments as they are written in a list. -/
def list (sep : Char) (entries : List (Text × Option Text)) : Text :=
  Text.join [sep] (entries.map piece)

/-- An argument that a list can hold: its key and its value are told apart by the first equals sign,
and neither runs into the next argument. -/
@[mk_iff]
structure Writable (sep : Char) (entry : Text × Option Text) : Prop where
  key_ne_nil : entry.1 ≠ []
  key_trimmed : Text.Trimmed entry.1
  sep_not_mem_key : sep ∉ entry.1
  equals_not_mem_key : '=' ∉ entry.1
  value_trimmed : ∀ value ∈ entry.2, Text.Trimmed value
  sep_not_mem_value : ∀ value ∈ entry.2, sep ∉ value

instance (sep : Char) (entry : Text × Option Text) : Decidable (Writable sep entry) :=
  decidable_of_iff' _ (writable_iff sep entry)

variable {sep : Char} {entry : Text × Option Text}

theorem Writable.piece_ne_nil (h : Writable sep entry) : piece entry ≠ [] := by
  obtain ⟨key, _ | value⟩ := entry
  · exact h.key_ne_nil
  · simp [piece]

theorem Writable.piece_trimmed (h : Writable sep entry) : Text.Trimmed (piece entry) := by
  obtain ⟨key, _ | value⟩ := entry
  · exact h.key_trimmed
  · have hequals : Text.Trimmed ['='] := by decide
    exact h.key_trimmed.append (hequals.append (h.value_trimmed value rfl))

theorem Writable.sep_not_mem_piece (hsep : sep ≠ '=') (h : Writable sep entry) :
    sep ∉ piece entry := by
  obtain ⟨key, _ | value⟩ := entry
  · exact h.sep_not_mem_key
  · have hkey : sep ∉ key := h.sep_not_mem_key
    have hvalue : sep ∉ value := h.sep_not_mem_value value rfl
    simp [piece, hkey, hsep, hvalue]

/-- A piece is read as the argument that it writes. -/
theorem Writable.ofPiece?_piece (h : Writable sep entry) : ofPiece? (piece entry) = some entry := by
  obtain ⟨key, _ | value⟩ := entry
  · -- a bare key has no equals sign
    have hsplit : Text.splitOnce '=' key = none := Text.splitOnce_of_not_mem h.equals_not_mem_key
    simp [piece, ofPiece?, hsplit, show key ≠ [] from h.key_ne_nil]
  · -- the first equals sign is the one behind the key, the value may hold others
    have hsplit : Text.splitOnce '=' (key ++ '=' :: value) = some (key, value) :=
      Text.splitOnce_append h.equals_not_mem_key value
    have hkey : key.trim = key := Text.trim_eq_self h.key_trimmed
    have hvalue : value.trim = value := Text.trim_eq_self (h.value_trimmed value rfl)
    simp [piece, ofPiece?, hsplit, hkey, hvalue, show key ≠ [] from h.key_ne_nil]

theorem filterMap_piece {entries : List (Text × Option Text)}
    (h : ∀ entry ∈ entries, Writable sep entry) :
    (entries.map piece).filterMap ofPiece? = entries := by
  induction entries with
  | nil => rfl
  | cons entry rest ih =>
      have hentry : ofPiece? (piece entry) = some entry :=
        (h entry List.mem_cons_self).ofPiece?_piece
      have hrest := ih fun e he => h e (List.mem_cons_of_mem _ he)
      rw [List.map_cons, List.filterMap_cons_some hentry, hrest]

/-- A list is read as the arguments that it writes. -/
theorem parse_list {entries : List (Text × Option Text)} (hsep : sep ≠ '=')
    (h : ∀ entry ∈ entries, Writable sep entry) :
    parse sep (list sep entries) = OrderedMap.ofList entries := by
  have hargs : args sep (list sep entries) = entries.map piece := by
    apply args_join
    · intro p hp
      obtain ⟨entry, hentry, rfl⟩ := List.mem_map.1 hp
      exact (h entry hentry).sep_not_mem_piece hsep
    · intro p hp
      obtain ⟨entry, hentry, rfl⟩ := List.mem_map.1 hp
      exact (h entry hentry).piece_trimmed
    · intro p hp
      obtain ⟨entry, hentry, rfl⟩ := List.mem_map.1 hp
      exact (h entry hentry).piece_ne_nil
  rw [parse, assignments, hargs, filterMap_piece h]

/-! ### Lists one behind the other -/

theorem assignments_append (sep : Char) (a b : Text) :
    assignments sep (a ++ sep :: b) = assignments sep a ++ assignments sep b := by
  rw [assignments, args_append, List.filterMap_append]
  rfl

/-- Lists around a separator are read one by one, the second one extending the first. -/
theorem parse_append (sep : Char) (a b : Text) :
    parse sep (a ++ sep :: b) = (parse sep a).extend (parse sep b) := by
  rw [parse, assignments_append, OrderedMap.ofList_append]
  rfl

theorem parse_trim {sep : Char} (hsep : isBlank sep = false) (t : Text) :
    parse sep t.trim = parse sep t := by
  rw [parse, assignments, Text.trim, args_trimEnd hsep, args_trimStart hsep]
  rfl

theorem parse_trimEnd {sep : Char} (hsep : isBlank sep = false) (t : Text) :
    parse sep t.trimEnd = parse sep t := by
  rw [parse, assignments, args_trimEnd hsep]
  rfl

end NamedArgs

end SchemaCompiler
