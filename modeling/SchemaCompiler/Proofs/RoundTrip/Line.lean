import SchemaCompiler.Object.Definition
import SchemaCompiler.Proofs.Canonical
import SchemaCompiler.Proofs.Results

namespace SchemaCompiler

/-! # Written lines are read back

What the lines of all kinds of definitions share. Main statements:

* `NamedArgs.WellFormed.parse_list`: written arguments are read back;
* `NamedArgs.value?_ofList`: a value is found among them by its key;
* `Marker.split?_line`: a line comes apart into its marker and what it says;
* `Source.effectiveLines_eq_self`, `Source.blockLines_append`, `Source.blockLines_inside`: lines that
  say something, and all lines of a block, reach the reader as they are.
-/

/-! ## Texts on one line -/

namespace Text

theorem Inline.append {a b : Text} (ha : Inline a) (hb : Inline b) : Inline (a ++ b) where
  trimmed := ha.trimmed.append hb.trimmed
  newline_not_mem := by
    rw [List.mem_append, not_or]
    exact ⟨ha.newline_not_mem, hb.newline_not_mem⟩

theorem Inline.join {sep : Text} {pieces : List Text} (hsep : Inline sep)
    (h : ∀ p ∈ pieces, Inline p) : Inline (join sep pieces) where
  trimmed := Trimmed.join hsep.trimmed fun p hp => (h p hp).trimmed
  newline_not_mem := not_mem_join hsep.newline_not_mem fun p hp => (h p hp).newline_not_mem

theorem Inline.trim_eq {t : Text} (h : Inline t) : t.trim = t := trim_eq_self h.trimmed

end Text

/-! ## Written arguments -/

namespace NamedArgs

variable {sep : Char} {entries : List (Text × Option Text)}

theorem WellFormed.inline (hsep : Text.Inline [sep]) (h : WellFormed sep entries) :
    Text.Inline (list sep entries) := by
  refine Text.Inline.join hsep fun p hp => ?_
  obtain ⟨entry, hentry, rfl⟩ := List.mem_map.1 hp
  exact ⟨(h entry hentry).1.piece_trimmed, (h entry hentry).2⟩

theorem WellFormed.parse_list (hsep : sep ≠ '=') (h : WellFormed sep entries) :
    parse sep (list sep entries) = OrderedMap.ofList entries :=
  NamedArgs.parse_list hsep fun entry hentry => (h entry hentry).1

theorem WellFormed.append {others : List (Text × Option Text)} (h : WellFormed sep entries)
    (hothers : WellFormed sep others) : WellFormed sep (entries ++ others) := by
  intro entry hentry
  rcases List.mem_append.1 hentry with hentry | hentry
  · exact h entry hentry
  · exact hothers entry hentry

/-- A key that any argument list can hold. -/
@[mk_iff]
structure IsKey (key : Text) : Prop extends Text.Inline key where
  ne_nil : key ≠ []
  semicolon_not_mem : ';' ∉ key
  equals_not_mem : '=' ∉ key

instance (key : Text) : Decidable (IsKey key) := decidable_of_iff' _ (isKey_iff key)

/-- A key with a value is well-formed. -/
theorem wellFormed_value {key value : Text} (hkey : IsKey key) (hvalue : Text.IsValue value) :
    WellFormed ';' [(key, some value)] := by
  intro entry hentry
  obtain rfl := List.mem_singleton.1 hentry
  refine ⟨⟨hkey.ne_nil, hkey.trimmed, hkey.semicolon_not_mem, hkey.equals_not_mem, ?_, ?_⟩, ?_⟩
  · rintro v ⟨rfl⟩
    exact hvalue.trimmed
  · rintro v ⟨rfl⟩
    exact hvalue.semicolon_not_mem
  · simp [piece, hkey.newline_not_mem, hvalue.newline_not_mem]

theorem wellFormed_setting {key : Text} {value : Option Text} (hkey : IsKey key)
    (hvalue : ∀ v ∈ value, Text.IsValue v) : WellFormed ';' (setting key value) := by
  cases value with
  | none => intro entry hentry; cases hentry
  | some v => exact wellFormed_value hkey (hvalue v rfl)

theorem keys_setting (key : Text) (value : Option Text) :
    ((setting key value).map Prod.fst).Sublist [key] := by
  cases value <;> simp [setting]

/-- The value of a key in a written list is the one that the list gives first. -/
theorem value?_ofList (h : (entries.map Prod.fst).Nodup) (key : Text) :
    value? (OrderedMap.ofList entries) key =
      ((entries.find? fun entry => entry.1 = key).map Prod.snd).join := by
  rw [value?, OrderedMap.get?, OrderedMap.entries_ofList h]

/-- A single property is read back from what is written for it. -/
theorem value?_parse_property {key value : Text} (hkey : IsKey key) (hvalue : Text.IsValue value) :
    value? (parse ';' (key ++ '=' :: value)) key = some value := by
  -- a property alone is a list of one
  have hlist : key ++ '=' :: value = list ';' [(key, some value)] := rfl
  rw [hlist, (wellFormed_value hkey hvalue).parse_list (by decide), value?_ofList (by simp)]
  simp

end NamedArgs

/-! ## Markers -/

namespace Marker

/-- A line comes apart into its marker and what it says. -/
theorem split?_line (marker : Marker) (rest : Text) :
    split? (marker.line rest) = some (marker, rest.trim) := by
  cases marker <;> rfl

theorem isEffective_line (marker : Marker) (rest : Text) :
    Source.isEffective (marker.line rest) = true := by
  cases marker <;> rfl

theorem inline_line (marker : Marker) {rest : Text} (h : Text.Inline rest) :
    Text.Inline (marker.line rest) := by
  have hkeyword : Text.Inline marker.keyword := by cases marker <;> decide
  exact hkeyword.append h

/-- A line with a marker opens no body. -/
theorem line_ne_bodyOpening (marker : Marker) (rest : Text) : marker.line rest ≠ bodyOpening := by
  intro h
  -- the line has a marker, and `BODY:` is none
  have hnone : split? bodyOpening = none := by decide
  have hsome := marker.split?_line rest
  rw [h, hnone] at hsome
  cases hsome

end Marker

/-! ## Lines of all kinds -/

namespace Definition

theorem afterFirstLine_discriminator (kind : ObjectKind) (rest : List Text) :
    afterFirstLine kind (kind.discriminator :: rest) = .ok rest := if_pos rfl

theorem readName_isName (mapping : Mapping) {n : Text} (h : Text.IsName n) :
    readName mapping n = .ok n := by
  rw [readName, if_neg h.ne_nil, mapping.expand_of_not_mem h.dollar_not_mem]

theorem readProperties_list {args : NamedArgs} (h : NamedArgs.WellFormed ';' args.entries) :
    readProperties (NamedArgs.list ';' args.entries) = args := by
  rw [readProperties, h.parse_list (by decide), OrderedMap.ofList_entries]

theorem mergeProperties_singleton (args : NamedArgs) : mergeProperties [args] = args :=
  OrderedMap.empty_extend args

end Definition

/-! ## Lines of a file -/

namespace Source

theorem dropMark_of_ne {c : Char} (h : c ≠ '\uFEFF') (t : Text) :
    Text.dropMark (c :: t) = c :: t := by
  have hmark : Text.after? ['\uFEFF'] (c :: t) = none := by
    rw [Text.after?, if_neg (Ne.symm h)]
  rw [Text.dropMark, hmark]
  rfl

/-- A text that stands on a line of its own and says something. -/
structure IsLine (line : Text) : Prop extends Text.Inline line where
  effective : isEffective line = true

theorem isLine_marker (marker : Marker) {rest : Text} (h : Text.Inline rest) :
    IsLine (marker.line rest) :=
  ⟨marker.inline_line h, marker.isEffective_line rest⟩

theorem effectiveLines_eq_self {ls : List Text} (h : ∀ l ∈ ls, IsLine l) :
    effectiveLines ls = ls := by
  have hmap : ls.map Text.trim = ls := by
    rw [List.map_congr_left fun l hl => (h l hl).trim_eq, List.map_id']
  rw [effectiveLines, hmap, List.filter_eq_self]
  exact fun l hl => (h l hl).effective

/-- Outside a block, lines that do not open one reach the reader as they are. -/
theorem blockLines_append (block : VerbatimBlock) {ls : List Text}
    (h : ∀ l ∈ ls, IsLine l ∧ l ≠ block.opening) (rest : List Text) :
    blockLines block false (ls ++ rest) = ls ++ blockLines block false rest := by
  induction ls with
  | nil => rfl
  | cons l ls ih =>
      obtain ⟨hl, hopening⟩ := h l List.mem_cons_self
      have hrest := ih fun l' hl' => h l' (List.mem_cons_of_mem _ hl')
      simp only [List.cons_append, blockLines, hl.trim_eq, hl.effective, hopening, hrest,
        decide_false, if_true]

/-- Inside a block, all lines but the closing one reach the reader as they are. -/
theorem blockLines_inside (block : VerbatimBlock) {ls : List Text}
    (h : ∀ l ∈ ls, l.trim ≠ block.closing) (rest : List Text) :
    blockLines block true (ls ++ rest) = ls ++ blockLines block true rest := by
  induction ls with
  | nil => rfl
  | cons l ls ih =>
      have hl : l.trim ≠ block.closing := h l List.mem_cons_self
      have hrest := ih fun l' hl' => h l' (List.mem_cons_of_mem _ hl')
      rw [List.cons_append, blockLines, if_neg hl, hrest, List.cons_append]

end Source

end SchemaCompiler
