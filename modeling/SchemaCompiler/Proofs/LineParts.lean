import Mathlib.Data.List.Infix
import SchemaCompiler.Proofs.DefinitionLine

namespace SchemaCompiler

/-! # Definition lines part by part

Two rules for parentheses take a definition line apart: the properties begin at the first semicolon
where no parenthesis is open, and the arguments end at the last closing parenthesis ahead of that.

* `DefinitionLine.parts_of_balanced`: around arguments with balanced parentheses the two rules agree,
  and every part comes back as it was written;
* `DefinitionLine.dropped_of_read`: in any line, what stands between the two ends is dropped. A
  semicolon is among it only if a parenthesis stays open up to the end of the line, so that all
  semicolons behind it count as inside; a semicolon outside parentheses always begins the properties.
-/

/-! ## Balanced texts -/

/-- The parentheses of a text are balanced: no beginning of it closes more than it opens, and the whole
closes what it opens. -/
@[mk_iff]
structure Balanced (t : Text) : Prop where
  closed_le_opened : ∀ front ∈ t.inits, front.count ')' ≤ front.count '('
  closed_eq_opened : t.count ')' = t.count '('

instance (t : Text) : Decidable (Balanced t) := decidable_of_iff' _ (balanced_iff t)

theorem nest_add_count {depth : Nat} {c : Char} (h : [c].count ')' ≤ depth) :
    nest depth c + [c].count ')' = depth + [c].count '(' := by
  by_cases hopen : c = '('
  · subst hopen
    rfl
  · by_cases hclose : c = ')'
    · subst hclose
      have hone : [')'].count ')' = 1 := rfl
      have hnone : [')'].count '(' = 0 := rfl
      have hnest : nest depth ')' = depth - 1 := rfl
      omega
    · have hnone : ∀ d : Char, c ≠ d → [c].count d = 0 := by
        intro d hd
        simp [hd]
      rw [nest_of_ne hopen hclose, hnone _ hopen, hnone _ hclose]

/-- In a text that leaves some parenthesis ahead of it open throughout, every separator is sheltered,
and the depth behind the text is told by what it opens and closes. -/
theorem sheltered_of_count_lt {sep : Char} {depth : Nat} {t : Text}
    (h : ∀ front, front <+: t → front.count ')' < depth + front.count '(') :
    Sheltered sep depth t ∧ nestAfter depth t + t.count ')' = depth + t.count '(' := by
  induction t generalizing depth with
  | nil => exact ⟨trivial, rfl⟩
  | cons c cs ih =>
      have hdepth : 0 < depth := h [] List.nil_prefix
      have hcount : [c].count ')' ≤ depth := Nat.le_trans List.count_le_length hdepth
      have hnest := nest_add_count hcount
      have hsplit : ∀ (d : Char) (u : Text), (c :: u).count d = [c].count d + u.count d := by
        intro d u
        rw [← List.singleton_append, List.count_append]
      have hrest := @ih (nest depth c) fun front hfront => by
        have hcons := h (c :: front) (List.cons_prefix_cons.2 ⟨rfl, hfront⟩)
        rw [hsplit ')', hsplit '('] at hcons
        omega
      refine ⟨⟨fun _ => by omega, hrest.1⟩, ?_⟩
      have hafter : nestAfter depth (c :: cs) = nestAfter (nest depth c) cs := rfl
      rw [hafter, hsplit ')', hsplit '(']
      omega

namespace Balanced

variable {a b t : Text}

/-- Between parentheses, a balanced text shelters its semicolons and leaves the depth as it was. -/
theorem sheltered (h : Balanced t) : Sheltered ';' 1 t ∧ nestAfter 1 t = 1 := by
  have hinside : Sheltered ';' 1 t ∧ nestAfter 1 t + t.count ')' = 1 + t.count '(' := by
    refine sheltered_of_count_lt fun front hfront => ?_
    have hle := h.closed_le_opened front (List.mem_inits front t |>.2 hfront)
    omega
  have heq := h.closed_eq_opened
  exact ⟨hinside.1, by omega⟩

theorem enclosed (h : Balanced t) : Enclosed t := ⟨h.sheltered.1, Nat.le_of_eq h.sheltered.2⟩

/-- A semicolon between two balanced texts is enclosed with them. -/
theorem enclosed_append (ha : Balanced a) (hb : Balanced b) : Enclosed (a ++ ';' :: b) := by
  obtain ⟨hsa, hna⟩ := ha.sheltered
  obtain ⟨hsb, hnb⟩ := hb.sheltered
  have htail : Sheltered ';' (nestAfter 1 a) (';' :: b) := by
    rw [hna]
    exact ⟨fun _ => Nat.one_ne_zero, hsb⟩
  have hdepth : nestAfter 1 (a ++ ';' :: b) = nestAfter 1 b := by
    rw [nestAfter_append, hna]
    rfl
  exact ⟨sheltered_append hsa htail, Nat.le_of_eq (hdepth.trans hnb)⟩

end Balanced

namespace Spec

/-- A name ahead of arguments and properties, without any of their delimiters. -/
@[mk_iff]
structure IsName (n : Text) : Prop where
  ne_nil : n ≠ []
  trimmed : Text.Trimmed n
  opening_not_mem : '(' ∉ n
  closing_not_mem : ')' ∉ n
  semicolon_not_mem : ';' ∉ n

instance (n : Text) : Decidable (IsName n) := decidable_of_iff' _ (isName_iff n)

end Spec

namespace DefinitionLine

/-- A line of a name, of arguments with balanced parentheses and of properties gives these parts
back, and without properties it gives the name and the arguments. -/
theorem parts_of_balanced (mapping : Mapping) {n a : Text} (hn : Spec.IsName n) (ha : Balanced a)
    (p : Text) :
    parse? mapping (n ++ '(' :: (a ++ [')']) ++ ';' :: p) =
        some ⟨mapping.expand n, a, NamedArgs.parse ';' p⟩ ∧
      parse? mapping (n ++ '(' :: (a ++ [')'])) =
        some ⟨mapping.expand n, a, OrderedMap.empty⟩ := by
  constructor
  · exact parse?_call mapping hn.trimmed hn.opening_not_mem hn.semicolon_not_mem ha.enclosed p
  · exact parse?_bare mapping hn.trimmed hn.opening_not_mem hn.semicolon_not_mem ha.enclosed

/-- The name of a column with a token in it. -/
def priceName : Text := "$metrics_table_name$_price"

/-- Arguments with delimiters of every kind. -/
def priceArgs : Text := " type = numeric(10,2);default=round(1;(2)) "

theorem parts_of_balanced_price :
    Spec.IsName priceName ∧ Balanced priceArgs ∧
      parse? Mapping.default (priceName ++ '(' :: (priceArgs ++ [')']) ++ ';' :: "not_null=true;(") =
        some ⟨"sk_metrics_t_price", priceArgs, NamedArgs.parse ';' "not_null=true;("⟩ := by
  have hname : Spec.IsName priceName := by decide
  have hargs : Balanced priceArgs := by decide
  have hexpand : Mapping.default.expand priceName = "sk_metrics_t_price" := by decide +kernel
  refine ⟨hname, hargs, ?_⟩
  have hparts := (parts_of_balanced Mapping.default hname hargs "not_null=true;(").1
  rw [hparts, hexpand]

end DefinitionLine

/-! ## Depth and semicolons -/

/-- A line is cut at its first semicolon outside parentheses, or it shelters all of them. -/
theorem splitTopLevel_cases (depth : Nat) (t : Text) :
    (splitTopLevel ';' depth t = (t, none) ∧ Sheltered ';' depth t) ∨
      ∃ front back, splitTopLevel ';' depth t = (front, some back) ∧ t = front ++ ';' :: back ∧
        Sheltered ';' depth front ∧ nestAfter depth front = 0 := by
  induction t generalizing depth with
  | nil => exact .inl ⟨rfl, trivial⟩
  | cons c cs ih =>
      by_cases hcut : c = ';' ∧ depth = 0
      · obtain ⟨rfl, rfl⟩ := hcut
        exact .inr ⟨[], cs, rfl, rfl, trivial, rfl⟩
      · have hinside : c = ';' → depth ≠ 0 := fun hc hdepth => hcut ⟨hc, hdepth⟩
        rw [splitTopLevel_cons hinside]
        obtain ⟨hwhole, hsheltered⟩ | ⟨front, back, hsplit, rfl, hsheltered, hclosed⟩ :=
          ih (nest depth c)
        · rw [hwhole]
          exact .inl ⟨rfl, hinside, hsheltered⟩
        · rw [hsplit]
          exact .inr ⟨c :: front, back, rfl, rfl, ⟨hinside, hsheltered⟩, hclosed⟩

/-- What closes nothing does not come out of the parentheses that it is in. -/
theorem le_nestAfter {t : Text} (hclose : ')' ∉ t) (depth : Nat) : depth ≤ nestAfter depth t := by
  induction t generalizing depth with
  | nil => exact Nat.le_refl depth
  | cons c cs ih =>
      rw [List.mem_cons, not_or] at hclose
      have hnest : depth ≤ nest depth c := by
        rw [nest, if_neg (Ne.symm hclose.1)]
        split <;> omega
      exact Nat.le_trans hnest (ih hclose.2 _)

/-- If a semicolon is sheltered and nothing is closed behind it, a parenthesis stays open. -/
theorem nestAfter_ne_zero {depth : Nat} {t : Text} (h : Sheltered ';' depth t) (hclose : ')' ∉ t)
    (hmem : ';' ∈ t) : nestAfter depth t ≠ 0 := by
  induction t generalizing depth with
  | nil => cases hmem
  | cons c cs ih =>
      rcases List.mem_cons.1 hmem with hc | hlater
      · have hle := le_nestAfter hclose depth
        have hdepth := h.1 hc.symm
        omega
      · exact ih h.2 (fun hcs => hclose (List.mem_cons_of_mem c hcs)) hlater

/-! ## What is dropped -/

namespace Spec

/-- The text behind the last closing parenthesis, if that ends the arguments. -/
def dropped (t : Text) : Text :=
  match t.trim.splitOnce '(' with
  | none => []
  | some (_, rest) => ((rest.splitLast ')').map Prod.snd).getD []

theorem dropped_trim (t : Text) : dropped t.trim = dropped t := by
  rw [dropped, Text.trim_trim, dropped]

theorem trim_parts (front inner back : Text) :
    Text.trim (front ++ '(' :: (inner ++ ')' :: back)) =
      Text.trimStart front ++ '(' :: (inner ++ ')' :: Text.trimEnd back) := by
  rw [Text.trim_append_cons (by decide), Text.trimEnd_append_cons (by decide)]

/-- A text that opens arguments and closes them is its name, its arguments and what is dropped. -/
theorem parse_parts {front back : Text} (hfront : '(' ∉ front) (hback : ')' ∉ back) (inner : Text) :
    parse (front ++ '(' :: (inner ++ ')' :: back)) = ⟨Text.trim front, inner⟩ ∧
      dropped (front ++ '(' :: (inner ++ ')' :: back)) = Text.trimEnd back := by
  have hopen : '(' ∉ Text.trimStart front := fun h => hfront (Text.mem_of_mem_trimStart h)
  have hclose : ')' ∉ Text.trimEnd back := fun h => hback (Text.mem_of_mem_trimEnd h)
  simp [parse, dropped, trim_parts, Text.splitOnce_append hopen, Text.splitLast_append hclose,
    Text.trim_trimStart]

/-- A text opens arguments and closes them, or it is all name and nothing is dropped. -/
theorem parse_cases (t : Text) :
    (∃ front inner back, t = front ++ '(' :: (inner ++ ')' :: back) ∧ '(' ∉ front ∧ ')' ∉ back) ∨
      (parse t = ⟨t.trim, []⟩ ∧ dropped t = []) := by
  by_cases hopen : '(' ∈ t
  · obtain ⟨front, rest, rfl, hfront⟩ := List.eq_append_cons_of_mem hopen
    by_cases hclose : ')' ∈ rest
    · obtain ⟨inner, back, rfl, hback⟩ := Text.exists_append_cons_of_mem hclose
      exact .inl ⟨front, inner, back, rfl, hfront, hback⟩
    · have hfront' : '(' ∉ Text.trimStart front := fun h => hfront (Text.mem_of_mem_trimStart h)
      have hnone : (Text.trimEnd rest).splitLast ')' = none :=
        Text.splitLast_eq_none_iff.2 fun h => hclose (Text.mem_of_mem_trimEnd h)
      refine .inr ?_
      simp [parse, dropped, Text.trim_append_cons (c := '(') (by decide),
        Text.splitOnce_append hfront', hnone]
  · have hnone : t.trim.splitOnce '(' = none :=
      Text.splitOnce_of_not_mem fun h => hopen (Text.mem_of_mem_trim h)
    exact .inr (by simp [parse, dropped, hnone])

/-- Nothing but what is dropped is missing from the name and the arguments. -/
theorem trim_eq_of_dropped {t : Text} (h : dropped t ≠ []) :
    ∃ front, t.trim = front ++ '(' :: ((parse t).args ++ ')' :: dropped t) ∧
      (parse t).name = Text.trim front := by
  obtain ⟨front, inner, back, rfl, hfront, hback⟩ | ⟨-, hnil⟩ := parse_cases t
  · obtain ⟨hparse, hdropped⟩ := parse_parts hfront hback inner
    refine ⟨Text.trimStart front, ?_, ?_⟩
    · rw [hparse, hdropped, trim_parts]
    · rw [hparse, Text.trim_trimStart]
  · exact absurd hnil h

/-- What is dropped stands behind the last closing parenthesis. -/
theorem mem_dropped_iff {c : Char} (hc : isBlank c = false) {t : Text} :
    c ∈ dropped t ↔ ∃ front inner back, t = front ++ '(' :: (inner ++ ')' :: back) ∧
      '(' ∉ front ∧ ')' ∉ back ∧ c ∈ back := by
  constructor
  · intro hmem
    obtain ⟨front, inner, back, rfl, hfront, hback⟩ | ⟨-, hnil⟩ := parse_cases t
    · rw [(parse_parts hfront hback inner).2] at hmem
      exact ⟨front, inner, back, rfl, hfront, hback, Text.mem_of_mem_trimEnd hmem⟩
    · rw [hnil] at hmem
      cases hmem
  · rintro ⟨front, inner, back, rfl, hfront, hback, hmem⟩
    rw [(parse_parts hfront hback inner).2]
    exact Text.mem_trimEnd hc hmem

/-- If a sheltered semicolon is dropped, a parenthesis stays open. -/
theorem nestAfter_ne_zero_of_mem_dropped {t : Text} (h : Sheltered ';' 0 t)
    (hmem : ';' ∈ dropped t) : nestAfter 0 t ≠ 0 := by
  obtain ⟨front, inner, back, rfl, -, hback, hsemi⟩ := (mem_dropped_iff (by decide)).1 hmem
  have hcut : front ++ '(' :: (inner ++ ')' :: back) =
      (front ++ '(' :: (inner ++ [')'])) ++ back := by
    simp
  rw [hcut] at h ⊢
  rw [nestAfter_append]
  exact nestAfter_ne_zero h.of_append hback hsemi

end Spec

namespace DefinitionLine

/-- What is dropped of a line: the text between the end of its arguments and its properties. -/
def dropped (line : Text) : Text := Spec.dropped (objectOf line)

/-- Behind its arguments, the line holds a semicolon, and yet none where no parenthesis is open. -/
structure LeftOpen (line : Text) : Prop where
  sheltered : Sheltered ';' 0 line
  semicolon_behind : ∃ front inner back, line = front ++ '(' :: (inner ++ ')' :: back) ∧
    '(' ∉ front ∧ ')' ∉ back ∧ ';' ∈ back

section

variable {line object : Text}

theorem dropped_eq (line : Text) : dropped line = Spec.dropped (splitTopLevel ';' 0 line).1 :=
  Spec.dropped_trim _

/-- If there is a semicolon outside parentheses, all of those ahead of it are arguments. -/
theorem semicolon_not_mem_dropped (h : Sheltered ';' 0 object) (hclosed : nestAfter 0 object = 0)
    (properties : Text) : ';' ∉ dropped (object ++ ';' :: properties) := by
  intro hmem
  rw [dropped_eq, splitTopLevel_cut h hclosed] at hmem
  exact Spec.nestAfter_ne_zero_of_mem_dropped h hmem hclosed

theorem propertiesOf_cut (h : Sheltered ';' 0 object) (hclosed : nestAfter 0 object = 0)
    (properties : Text) :
    propertiesOf (object ++ ';' :: properties) = NamedArgs.parse ';' properties := by
  rw [propertiesOf, splitTopLevel_cut h hclosed]
  rfl

/-- A semicolon is dropped exactly in lines that are left open. -/
theorem semicolon_mem_dropped_iff : ';' ∈ dropped line ↔ LeftOpen line := by
  constructor
  · intro hmem
    obtain ⟨hsplit, hsheltered⟩ | ⟨object, properties, -, rfl, hsheltered, hclosed⟩ :=
      splitTopLevel_cases 0 line
    · rw [dropped_eq, hsplit] at hmem
      exact ⟨hsheltered, (Spec.mem_dropped_iff (by decide)).1 hmem⟩
    · exact absurd hmem (semicolon_not_mem_dropped hsheltered hclosed properties)
  · intro hopen
    rw [dropped_eq, splitTopLevel_whole hopen.sheltered]
    exact (Spec.mem_dropped_iff (by decide)).2 hopen.semicolon_behind

theorem LeftOpen.nestAfter_ne_zero (h : LeftOpen line) : nestAfter 0 line ≠ 0 :=
  Spec.nestAfter_ne_zero_of_mem_dropped h.sheltered
    ((Spec.mem_dropped_iff (by decide)).2 h.semicolon_behind)

theorem LeftOpen.propertiesOf_eq (h : LeftOpen line) : propertiesOf line = OrderedMap.empty := by
  rw [propertiesOf, splitTopLevel_whole h.sheltered]
  rfl

end

/-- In a line that can be read, name, arguments and what is dropped make up all that stands ahead of
the properties. A semicolon is dropped exactly in lines that are left open; these end with a
parenthesis open and have no properties. The first semicolon outside parentheses is not dropped, and
everything behind it is read as properties. -/
theorem dropped_of_read {mapping : Mapping} {line : Text} {d : DefinitionLine}
    (h : parse? mapping line = some d) :
    (dropped line ≠ [] → ∃ front, objectOf line = front ++ '(' :: (d.args ++ ')' :: dropped line) ∧
        d.name = mapping.expand (Text.trim front)) ∧
      (';' ∈ dropped line ↔ LeftOpen line) ∧
      (LeftOpen line → nestAfter 0 line ≠ 0 ∧ d.properties = OrderedMap.empty) ∧
      ∀ object properties, line = object ++ ';' :: properties → Sheltered ';' 0 object →
        nestAfter 0 object = 0 →
          ';' ∉ dropped line ∧ d.properties = NamedArgs.parse ';' properties := by
  have hobject : objectOf line ≠ [] := by
    intro hnil
    rw [parse?_eq, if_pos hnil] at h
    cases h
  rw [parse?_eq, if_neg hobject] at h
  obtain rfl := Option.some.inj h
  refine ⟨?_, semicolon_mem_dropped_iff, ?_, ?_⟩
  · intro hne
    obtain ⟨front, hparts, hname⟩ := Spec.trim_eq_of_dropped (t := objectOf line) hne
    have htrim : (objectOf line).trim = objectOf line := Text.trim_trim _
    rw [htrim] at hparts
    refine ⟨front, hparts, ?_⟩
    rw [hname]
  · intro hopen
    exact ⟨hopen.nestAfter_ne_zero, hopen.propertiesOf_eq⟩
  · rintro object properties rfl hsheltered hclosed
    exact ⟨semicolon_not_mem_dropped hsheltered hclosed properties,
      propertiesOf_cut hsheltered hclosed properties⟩

/-- A column whose default is a closing parenthesis. -/
def closingLine : Text := "mark(type=char(1);default=')');not_null=true"

theorem dropped_of_read_closing :
    ∃ d, parse? Mapping.default closingLine = some d ∧ ';' ∉ dropped closingLine ∧
      d.properties = NamedArgs.parse ';' "not_null=true" := by
  have hread : parse? Mapping.default closingLine =
      some ⟨"mark", "type=char(1);default=')'", NamedArgs.parse ';' "not_null=true"⟩ := by
    decide +kernel
  exact ⟨_, hread, (dropped_of_read hread).2.2.2 "mark(type=char(1);default=')')" "not_null=true"
    rfl (by decide) (by decide)⟩

/-- A column whose default is an opening parenthesis. -/
def openingLine : Text := "mark(type=char(1);default='(');not_null=true"

/-- The parenthesis in the default is never closed, so the property behind the arguments is dropped. -/
theorem property_dropped :
    parse? Mapping.default openingLine =
        some ⟨"mark", "type=char(1);default='('", OrderedMap.empty⟩ ∧
      dropped openingLine = ";not_null=true" ∧
      ¬∀ (mapping : Mapping) (line : Text) (d : DefinitionLine), parse? mapping line = some d →
        ';' ∉ dropped line := by
  have hread : parse? Mapping.default openingLine =
      some ⟨"mark", "type=char(1);default='('", OrderedMap.empty⟩ := by decide +kernel
  have hdropped : dropped openingLine = ";not_null=true" := by decide +kernel
  refine ⟨hread, hdropped, ?_⟩
  intro hnever
  have hnot := hnever Mapping.default openingLine _ hread
  rw [hdropped] at hnot
  exact hnot (by decide)

end DefinitionLine

end SchemaCompiler
