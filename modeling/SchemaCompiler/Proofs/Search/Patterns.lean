import SchemaCompiler.Glob.Search
import SchemaCompiler.Proofs.Paths

namespace SchemaCompiler.Pattern

/-! # Patterns of texts

An escaped text is a pattern whose only instance is the text (`Pattern.parse_escape`,
`Pattern.matchesName_exact`), and escaping a path is escaping its pieces (`Pattern.splitOn_escape`).
A pattern that spells a text has its characters from its own text (`Pattern.mem_of_literalText?`).
-/

/-! ## Escaped texts -/

theorem escape_cons (c : Char) (cs : Text) :
    escape (c :: cs) =
      (if ['?', '*', '[', ']'].contains c then ['[', c, ']'] else [c]) ++ escape cs := rfl

/-- The elements of an escaped text. -/
def exact (t : Text) : Pattern :=
  t.map fun c => if ['?', '*', '[', ']'].contains c then .within [.single c] else .literal c

theorem parseFrom_literal {c : Char} (hc : ['?', '*', '[', ']'].contains c = false)
    (fuel position : Nat) (afterSlash : Bool) (rest : Text) :
    parseFrom (fuel + 1) position afterSlash (c :: rest) =
      (parseFrom fuel (position + 1) (c == '/') rest).map (.literal c :: ·) := by
  simp only [List.contains_cons, List.contains_nil, Bool.or_false, Bool.or_eq_false_iff,
    beq_eq_false_iff_ne] at hc
  obtain ⟨hquestion, hstar, hopen, -⟩ := hc
  rw [parseFrom]
  · exact fun h => hquestion h
  · exact fun h => hopen h
  · exact fun h => hstar h

theorem parseFrom_set {c : Char} (hc : ['?', '*', '[', ']'].contains c = true)
    (fuel position : Nat) (afterSlash : Bool) (rest : Text) :
    parseFrom (fuel + 1) position afterSlash ('[' :: c :: ']' :: rest) =
      (parseFrom fuel (position + 3) false rest).map (.within [.single c] :: ·) := by
  have hset : set? (c :: ']' :: rest) = some (.within [.single c], rest) := by
    simp only [List.contains_cons, List.contains_nil, Bool.or_false, Bool.or_eq_true,
      beq_iff_eq] at hc
    rcases hc with rfl | rfl | rfl | rfl <;> rfl
  rw [parseFrom, hset]
  simp only [List.length_cons]
  congr 2
  omega

theorem parseFrom_escape (t : Text) {fuel : Nat} (hfuel : (escape t).length < fuel) (position : Nat)
    (afterSlash : Bool) : parseFrom fuel position afterSlash (escape t) = .ok (exact t) := by
  induction t generalizing fuel position afterSlash with
  | nil =>
      cases fuel with
      | zero => exact absurd hfuel (Nat.not_lt_zero _)
      | succ fuel => rfl
  | cons c cs ih =>
      cases fuel with
      | zero => exact absurd hfuel (Nat.not_lt_zero _)
      | succ fuel =>
          rw [escape_cons, List.length_append] at hfuel
          rw [escape_cons, exact, List.map_cons, ← exact]
          have hrest : (escape cs).length < fuel := by
            split at hfuel
            · simp only [List.length_cons] at hfuel
              omega
            · simp only [List.length_cons] at hfuel
              omega
          cases hc : ['?', '*', '[', ']'].contains c with
          | true =>
              rw [if_pos rfl, if_pos rfl, List.cons_append, List.cons_append, List.cons_append,
                List.nil_append, parseFrom_set hc, ih hrest]
              rfl
          | false =>
              rw [if_neg Bool.false_ne_true, if_neg Bool.false_ne_true, List.cons_append,
                List.nil_append, parseFrom_literal hc, ih hrest]
              rfl

/-- An escaped text is a pattern. -/
theorem parse_escape (t : Text) : parse (escape t) = .ok (exact t) :=
  parseFrom_escape t (Nat.lt_succ_self _) 0 true

/-- The only instance of an escaped text is the text. -/
theorem matchesName_exact {t name : Text} : matchesName (exact t) name = true ↔ name = t := by
  induction t generalizing name with
  | nil => rw [exact, List.map_nil, matchesName_nil, List.isEmpty_iff]
  | cons c cs ih =>
      rw [exact, List.map_cons, ← exact]
      cases name with
      | nil =>
          rw [matchesName_cons_nil (by split <;> rfl)]
          simp
      | cons d ds =>
          rw [matchesName_cons_cons (by split <;> rfl), Bool.and_eq_true, ih, List.cons.injEq]
          refine and_congr_left fun _ => ?_
          split
          · rw [PatternElement.takes, List.any_cons, List.any_nil, Bool.or_false, CharRange.contains,
              beq_iff_eq, eq_comm]
          · rw [PatternElement.takes, beq_iff_eq, eq_comm]

/-- A pattern that spells a text consists of its characters. -/
theorem eq_map_of_literalText? {pattern : Pattern} {name : Text}
    (h : pattern.literalText? = some name) : pattern = name.map .literal := by
  induction pattern generalizing name with
  | nil =>
      cases h
      rfl
  | cons element rest ih =>
      rw [literalText?, List.mapM_cons] at h
      obtain ⟨c, hc, h⟩ := Option.bind_eq_some_iff.1 h
      obtain ⟨cs, hcs, h⟩ := Option.bind_eq_some_iff.1 h
      cases h
      rw [ih hcs, List.map_cons]
      cases element <;> cases hc
      rfl

theorem matchesName_literal (name : Text) : matchesName (name.map .literal) name = true := by
  induction name with
  | nil => rfl
  | cons c cs ih =>
      rw [List.map_cons, matchesName_cons_cons rfl, ih, PatternElement.takes, beq_self_eq_true]
      rfl

theorem eq_of_literalText?_exact {t name : Text} (h : (exact t).literalText? = some name) :
    name = t := by
  rw [← matchesName_exact, eq_map_of_literalText? h]
  exact matchesName_literal name

theorem isRecursive_exact (t : Text) : Glob.isRecursive (exact t) = false := by
  rw [Glob.isRecursive, ← Bool.not_eq_true, List.contains_iff_mem]
  intro h
  obtain ⟨c, -, hc⟩ := List.mem_map.1 h
  split at hc <;> cases hc

/-! ## Literal characters -/

/-- A character set is no literal character, and what follows it is part of the pattern. -/
theorem set?_eq_some {t after : Text} {element : PatternElement}
    (h : set? t = some (element, after)) : (∀ c, element ≠ .literal c) ∧ ∀ c ∈ after, c ∈ t := by
  have hafter {rest inner : Text} (hrest : Text.splitOnce ']' rest = some (inner, after)) :
      ∀ c ∈ after, c ∈ rest := by
    intro c hc
    rw [(Text.splitOnce_eq_some hrest).1]
    exact List.mem_append_right _ (List.mem_cons_of_mem _ hc)
  rw [set?.eq_def] at h
  split at h
  · obtain ⟨⟨inner, behind⟩, hrest, h⟩ := Option.map_eq_some_iff.1 h
    cases h
    exact ⟨nofun, fun c hc => List.mem_cons_of_mem _ (List.mem_cons_of_mem _ (hafter hrest c hc))⟩
  · cases h
  · obtain ⟨⟨inner, behind⟩, hrest, h⟩ := Option.map_eq_some_iff.1 h
    cases h
    exact ⟨nofun, fun c hc => List.mem_cons_of_mem _ (hafter hrest c hc)⟩
  · cases h

/-- A literal character of a pattern is its first element or stands in the others. -/
theorem literal_mem_of_map {result : Except PatternFault Pattern} {element : PatternElement}
    {pattern : Pattern} (h : result.map (element :: ·) = .ok pattern) {c : Char}
    (hc : .literal c ∈ pattern) :
    element = .literal c ∨ ∃ others, result = .ok others ∧ .literal c ∈ others := by
  obtain ⟨others, hothers, rfl⟩ := exists_of_map_eq_ok h
  rcases List.mem_cons.1 hc with hc | hc
  · exact .inl hc.symm
  · exact .inr ⟨others, hothers, hc⟩

/-- The literal characters of a pattern stand in its text. -/
theorem mem_of_literal_mem_parseFrom {fuel position : Nat} {afterSlash : Bool} {t : Text}
    {pattern : Pattern} (h : parseFrom fuel position afterSlash t = .ok pattern) {c : Char}
    (hc : .literal c ∈ pattern) : c ∈ t := by
  induction fuel generalizing position afterSlash t pattern with
  | zero =>
      cases h
      cases hc
  | succ fuel ih =>
      -- the elements behind the first one come from what follows it in the text
      have hlater {position : Nat} {afterSlash : Bool} {rest : Text} {element : PatternElement}
          (hrest : ∀ c ∈ rest, c ∈ t) (hfirst : ∀ c, element = .literal c → c ∈ t)
          (h : (parseFrom fuel position afterSlash rest).map (element :: ·) = .ok pattern) :
          c ∈ t := by
        rcases literal_mem_of_map h hc with hc | ⟨others, hothers, hc⟩
        · exact hfirst c hc
        · exact hrest c (ih hothers hc)
      rw [parseFrom.eq_def] at h
      dsimp only at h
      split at h
      · cases h
        cases hc
      · exact hlater (fun c hc => List.mem_cons_of_mem _ hc) (by nofun) h
      · split at h
        · cases h
        · rename_i hset
          obtain ⟨hliteral, hafter⟩ := set?_eq_some hset
          exact hlater (fun c hc => List.mem_cons_of_mem _ (hafter c hc))
            (fun c hc => absurd hc (hliteral c)) h
      · rename_i stars
        have hrest : ∀ c ∈ ('*' :: stars).dropWhile (· == '*'), c ∈ '*' :: stars :=
          fun c hc => (List.dropWhile_sublist _).subset hc
        split at h
        · cases h
        · split at h
          · exact hlater hrest (by nofun) h
          · split at h
            · cases h
            · split at h
              · cases h
                cases List.mem_singleton.1 hc
              · rename_i hslash
                rw [hslash] at hrest
                exact hlater (fun c hc => hrest c (List.mem_cons_of_mem _ hc)) (by nofun) h
              · cases h
      · refine hlater (fun c hc => List.mem_cons_of_mem _ hc) (fun d hd => ?_) h
        cases hd
        exact List.mem_cons_self

theorem mem_of_literalText? {t name : Text} {pattern : Pattern} (h : parse t = .ok pattern)
    (hname : pattern.literalText? = some name) {c : Char} (hc : c ∈ name) : c ∈ t := by
  refine mem_of_literal_mem_parseFrom h ?_
  rw [eq_map_of_literalText? hname]
  exact List.mem_map_of_mem hc

/-! ## Escaped paths -/

theorem escape_eq_nil_iff {t : Text} : escape t = [] ↔ t = [] := by
  cases t with
  | nil => exact Iff.rfl
  | cons c cs =>
      rw [escape_cons]
      split <;> simp

theorem isAbsolute_escape (t : Text) : Path.isAbsolute (escape t) = Path.isAbsolute t := by
  cases t with
  | nil => rfl
  | cons c cs =>
      rw [escape_cons]
      split
      · rename_i h
        have hslash : c ≠ '/' := by
          rintro rfl
          exact absurd h (by decide)
        simp [Path.isAbsolute, hslash]
      · rfl

/-- The slashes of a path are not touched. -/
theorem splitOn_escape (t : Text) :
    Text.splitOn '/' (escape t) = (Text.splitOn '/' t).map escape := by
  induction t with
  | nil => rfl
  | cons c cs ih =>
      rw [escape_cons]
      by_cases hslash : c = '/'
      · rw [hslash, Text.splitOn, if_pos rfl, List.map_cons, ← ih]
        rfl
      · obtain ⟨p, ps, hpieces⟩ := List.exists_cons_of_ne_nil (Text.splitOn_ne_nil '/' cs)
        rw [hpieces, List.map_cons] at ih
        rw [Text.splitOn, if_neg hslash, hpieces, List.modifyHead_cons, List.map_cons, escape_cons]
        split <;> simp [Text.splitOn, hslash, ih]

end SchemaCompiler.Pattern
