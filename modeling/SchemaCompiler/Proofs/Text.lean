import SchemaCompiler.Text.Basic

namespace SchemaCompiler.Text

/-! # Texts cut and put together

Cutting undoes putting together: a joined list of pieces is cut back into the pieces, and the lines
of a text of lines are these lines. Main statements:

* `trim_eq_self`: a text without blanks at its ends is its own trimmed form;
* `trim_append_cons`: blanks are trimmed from either end up to a character that is none;
* `splitOn_append_sep`: the pieces around a separator are those ahead of it and those behind it;
* `splitOn_join`: pieces without the separator come back from their joined text;
* `splitOnce_append`, `splitLast_append`: the first and the last separator are the ones found;
* `lines_append_newline`: the lines around a newline are those ahead of it and those behind it;
* `lines_unlines`: lines come back from their text, carriage returns apart;
* `foldl_ofNat`: a number comes back from its digits.
-/

/-! ## Trimmed texts -/

/-- No blank stands at either end. -/
def Trimmed (t : Text) : Prop :=
  (∀ c ∈ t.head?, isBlank c = false) ∧ ∀ c ∈ t.getLast?, isBlank c = false

-- The instances are named: a search may decide `∀ c ∈ o` by going through all characters.
instance (t : Text) : Decidable (Trimmed t) :=
  @instDecidableAnd _ _ (Option.decidableForallMem _) (Option.decidableForallMem _)

theorem dropWhile_eq_self {p : Char → Bool} {t : Text} (h : ∀ c ∈ t.head?, p c = false) :
    t.dropWhile p = t := by
  cases t with
  | nil => rfl
  | cons c cs =>
      have hc : p c = false := h c rfl
      simp [hc]

/-- A trimmed text is what trimming it gives. -/
theorem trim_eq_self {t : Text} (h : Trimmed t) : t.trim = t := by
  have hstart : t.trimStart = t := dropWhile_eq_self h.1
  have hend : t.reverse.dropWhile isBlank = t.reverse :=
    dropWhile_eq_self (by simpa [List.head?_reverse] using h.2)
  unfold trim trimEnd
  rw [hstart, hend, List.reverse_reverse]

theorem trimmed_nil : Trimmed [] := by
  constructor <;> simp

theorem head?_dropWhile {p : Char → Bool} {t : Text} :
    ∀ c ∈ (t.dropWhile p).head?, p c = false := by
  intro c hc
  have h := List.head?_dropWhile_not p t
  rw [hc] at h
  exact h

/-- Trimming leaves no blank at either end. -/
theorem trimmed_trim (t : Text) : Trimmed t.trim := by
  constructor
  · -- what is left ahead of the trailing blanks begins like the whole
    have hbegins : t.trim <+: t.trimStart := by
      have hsuffix : t.trimStart.reverse.dropWhile isBlank <:+ t.trimStart.reverse :=
        List.dropWhile_suffix _
      have hreverse := List.reverse_prefix.2 hsuffix
      rw [List.reverse_reverse] at hreverse
      exact hreverse
    obtain ⟨blanks, hstart⟩ := hbegins
    intro c hc
    refine head?_dropWhile c (t := t) ?_
    show c ∈ t.trimStart.head?
    rw [← hstart, List.head?_append, hc]
    rfl
  · unfold trim trimEnd
    rw [List.getLast?_reverse]
    exact head?_dropWhile

/-- Trimmed texts put together are trimmed. -/
theorem Trimmed.append {a b : Text} (ha : Trimmed a) (hb : Trimmed b) : Trimmed (a ++ b) := by
  -- an end of the whole is an end of one part, or of the other where the first is empty
  constructor
  · intro c hc
    cases a with
    | nil => exact hb.1 c hc
    | cons x xs => exact ha.1 c hc
  · intro c hc
    rcases List.eq_nil_or_concat b with rfl | ⟨bs, x, rfl⟩
    · rw [List.append_nil] at hc
      exact ha.2 c hc
    · refine hb.2 c ?_
      simpa using hc

theorem Trimmed.join {sep : Text} {pieces : List Text} (hsep : Trimmed sep)
    (h : ∀ p ∈ pieces, Trimmed p) : Trimmed (join sep pieces) := by
  induction pieces with
  | nil => exact trimmed_nil
  | cons p ps ih =>
      have hp : Trimmed p := h p List.mem_cons_self
      have hps : Trimmed (Text.join sep ps) := ih fun q hq => h q (List.mem_cons_of_mem _ hq)
      cases ps with
      | nil => exact hp
      | cons q qs => exact (hp.append hsep).append hps

/-- A character of ASCII that is seen. -/
def Visible (c : Char) : Prop := 0x20 < c.toNat ∧ c.toNat ≤ 0x7E

instance (c : Char) : Decidable (Visible c) := inferInstanceAs (Decidable (_ ∧ _))

theorem isBlank_of_visible {c : Char} (h : Visible c) : isBlank c = false := by
  obtain ⟨hfirst, hlast⟩ := h
  simp [isBlank, blankRanges]
  omega

theorem trimmed_of_visible {t : Text} (h : ∀ c ∈ t, Visible c) : Trimmed t :=
  ⟨fun c hc => isBlank_of_visible (h c (List.mem_of_mem_head? hc)),
    fun c hc => isBlank_of_visible (h c (List.mem_of_mem_getLast? hc))⟩

/-- Leading blanks end at the first character that is none. -/
theorem trimStart_append_cons {c : Char} (hc : isBlank c = false) (front back : Text) :
    trimStart (front ++ c :: back) = trimStart front ++ c :: back := by
  unfold trimStart
  rw [List.dropWhile_append]
  split
  next hblank =>
    rw [List.isEmpty_iff.1 hblank, List.dropWhile_cons_of_neg (by simp [hc])]
    rfl
  next => rfl

theorem trimEnd_append_cons {c : Char} (hc : isBlank c = false) (front back : Text) :
    trimEnd (front ++ c :: back) = front ++ c :: trimEnd back := by
  have hreverse : (front ++ c :: back).reverse = back.reverse ++ c :: front.reverse := by simp
  have hstart := trimStart_append_cons hc back.reverse front.reverse
  unfold trimStart at hstart
  unfold trimEnd
  rw [hreverse, hstart]
  simp

/-- Trimming reaches from either end up to the first character that is not blank. -/
theorem trim_append_cons {c : Char} (hc : isBlank c = false) (front back : Text) :
    trim (front ++ c :: back) = trimStart front ++ c :: trimEnd back := by
  rw [trim, trimStart_append_cons hc, trimEnd_append_cons hc]

/-- A text that begins with no blank is not trimmed away. -/
theorem trim_ne_nil {c : Char} {cs : Text} (hc : isBlank c = false) : trim (c :: cs) ≠ [] := by
  rw [← List.nil_append (c :: cs), trim_append_cons hc]
  simp

/-- A character that is not blank is not trimmed away. -/
theorem mem_trimEnd {c : Char} (hc : isBlank c = false) {t : Text} (h : c ∈ t) : c ∈ trimEnd t := by
  obtain ⟨front, back, rfl⟩ := List.append_of_mem h
  rw [trimEnd_append_cons hc]
  simp

theorem mem_of_mem_trimStart {c : Char} {t : Text} (h : c ∈ trimStart t) : c ∈ t :=
  (List.dropWhile_sublist _).mem h

theorem mem_of_mem_trimEnd {c : Char} {t : Text} (h : c ∈ trimEnd t) : c ∈ t :=
  List.mem_reverse.1 ((List.dropWhile_sublist _).mem (List.mem_reverse.1 h))

theorem mem_of_mem_trim {c : Char} {t : Text} (h : c ∈ t.trim) : c ∈ t :=
  mem_of_mem_trimStart (mem_of_mem_trimEnd h)

theorem trim_trimStart (t : Text) : trim (trimStart t) = trim t := by
  have hstart : trimStart (trimStart t) = trimStart t := dropWhile_eq_self head?_dropWhile
  rw [trim, hstart, trim]

theorem trimEnd_trimEnd (t : Text) : trimEnd (trimEnd t) = trimEnd t := by
  have hend : (trimEnd t).reverse.dropWhile isBlank = (trimEnd t).reverse := by
    unfold trimEnd
    rw [List.reverse_reverse]
    exact dropWhile_eq_self head?_dropWhile
  rw [trimEnd, hend, List.reverse_reverse]

theorem trim_trim (t : Text) : trim (trim t) = trim t := trim_eq_self (trimmed_trim t)

theorem trim_eq_nil {t : Text} (h : ∀ c ∈ t, isBlank c = true) : trim t = [] := by
  have hstart : trimStart t = [] := by
    rw [trimStart, ← List.append_nil t, List.dropWhile_append_of_pos h]
    rfl
  rw [trim, hstart]
  rfl

theorem trim_trimEnd (t : Text) : trim (trimEnd t) = trim t := by
  by_cases hsome : ∃ c ∈ t, isBlank c = false
  · obtain ⟨c, hmem, hc⟩ := hsome
    obtain ⟨front, back, rfl⟩ := List.append_of_mem hmem
    rw [trimEnd_append_cons hc, trim_append_cons hc, trim_append_cons hc, trimEnd_trimEnd]
  · -- nothing is left on either side
    have hblank : ∀ c ∈ t, isBlank c = true := by
      intro c hc
      cases hb : isBlank c with
      | true => rfl
      | false => exact absurd ⟨c, hc, hb⟩ hsome
    rw [trim_eq_nil hblank, trim_eq_nil fun c hc => hblank c (mem_of_mem_trimEnd hc)]

/-! ## Cutting at separators -/

theorem splitOn_ne_nil (sep : Char) (t : Text) : splitOn sep t ≠ [] := by
  cases t with
  | nil => simp [splitOn]
  | cons c cs =>
      rw [splitOn]
      split
      · simp
      · simp [splitOn_ne_nil sep cs]

/-- No piece holds the separator. -/
theorem not_mem_of_mem_splitOn {sep : Char} {t p : Text} (h : p ∈ splitOn sep t) : sep ∉ p := by
  induction t generalizing p with
  | nil =>
      obtain rfl := List.mem_singleton.1 h
      exact List.not_mem_nil
  | cons c cs ih =>
      by_cases hc : c = sep
      · -- the separator starts a new piece and belongs to none
        rw [splitOn, if_pos hc] at h
        rcases List.mem_cons.1 h with rfl | h
        · exact List.not_mem_nil
        · exact ih h
      · -- any other character goes to the first piece
        rw [splitOn, if_neg hc] at h
        rcases hpieces : splitOn sep cs with _ | ⟨q, qs⟩
        · exact absurd hpieces (splitOn_ne_nil sep cs)
        · rw [hpieces, List.modifyHead_cons] at h
          rw [hpieces] at ih
          rcases List.mem_cons.1 h with rfl | h
          · rw [List.mem_cons, not_or]
            exact ⟨Ne.symm hc, ih List.mem_cons_self⟩
          · exact ih (List.mem_cons_of_mem _ h)

/-- Characters other than the separator stand in the pieces. -/
theorem mem_iff_mem_splitOn {sep c : Char} (h : c ≠ sep) (t : Text) :
    c ∈ t ↔ ∃ piece ∈ splitOn sep t, c ∈ piece := by
  induction t with
  | nil => simp [splitOn]
  | cons d ds ih =>
      by_cases hd : d = sep
      · rw [splitOn, if_pos hd, List.mem_cons, ih, hd]
        simp [h]
      · obtain ⟨p, ps, hpieces⟩ := List.exists_cons_of_ne_nil (splitOn_ne_nil sep ds)
        rw [hpieces] at ih
        rw [splitOn, if_neg hd, hpieces, List.modifyHead_cons, List.mem_cons, ih]
        simp [or_assoc]

/-- A character ahead of the first piece stands ahead of the joined text. -/
theorem join_cons_cons (sep : Text) (c : Char) (p : Text) (ps : List Text) :
    join sep ((c :: p) :: ps) = c :: join sep (p :: ps) := by
  cases ps <;> rfl

theorem splitOn_of_not_mem {sep : Char} {t : Text} (h : sep ∉ t) : splitOn sep t = [t] := by
  induction t with
  | nil => rfl
  | cons c cs ih =>
      rw [List.mem_cons, not_or] at h
      have hc : c ≠ sep := Ne.symm h.1
      simp [splitOn, hc, ih h.2]

/-- A cut falls at every separator, wherever the text is taken apart. -/
theorem splitOn_append_sep (sep : Char) (a b : Text) :
    splitOn sep (a ++ sep :: b) = splitOn sep a ++ splitOn sep b := by
  induction a with
  | nil => simp [splitOn]
  | cons c cs ih =>
      by_cases hc : c = sep
      · simp [splitOn, hc, ih]
      · obtain ⟨p, ps, hpieces⟩ := List.exists_cons_of_ne_nil (splitOn_ne_nil sep cs)
        simp [splitOn, hc, ih, hpieces]

/-- What stands before the first separator is the first piece. -/
theorem splitOn_append_cons {sep : Char} {piece : Text} (h : sep ∉ piece) (rest : Text) :
    splitOn sep (piece ++ sep :: rest) = piece :: splitOn sep rest := by
  rw [splitOn_append_sep, splitOn_of_not_mem h, List.singleton_append]

/-- Pieces without the separator come back from their joined text. -/
theorem splitOn_join {sep : Char} {pieces : List Text} (hne : pieces ≠ [])
    (h : ∀ p ∈ pieces, sep ∉ p) : splitOn sep (join [sep] pieces) = pieces := by
  induction pieces with
  | nil => exact absurd rfl hne
  | cons p ps ih =>
      have hp : sep ∉ p := h p List.mem_cons_self
      have hps : ∀ q ∈ ps, sep ∉ q := fun q hq => h q (List.mem_cons_of_mem _ hq)
      cases ps with
      | nil => exact splitOn_of_not_mem hp
      | cons q qs =>
          have ih' := ih (by simp) hps
          rw [join, List.append_assoc, List.singleton_append, splitOn_append_cons hp, ih']

/-- Pieces joined again make up the text that was cut. -/
theorem join_splitOn (sep : Char) (t : Text) : join [sep] (splitOn sep t) = t := by
  induction t with
  | nil => rfl
  | cons c cs ih =>
      rcases hpieces : splitOn sep cs with _ | ⟨p, ps⟩
      · exact absurd hpieces (splitOn_ne_nil sep cs)
      · rw [hpieces] at ih
        by_cases hc : c = sep
        · rw [splitOn, if_pos hc, hpieces, join, ih, hc]
          rfl
        · rw [splitOn, if_neg hc, hpieces, List.modifyHead_cons, join_cons_cons, ih]

theorem splitOnce_of_not_mem {sep : Char} {t : Text} (h : sep ∉ t) : splitOnce sep t = none := by
  have hdrop : t.dropWhile (· != sep) = [] := by
    rw [← List.append_nil t, List.dropWhile_append_of_pos]
    · rfl
    · intro c hc
      have hne : c ≠ sep := ne_of_mem_of_not_mem hc h
      simpa using hne
  rw [splitOnce, hdrop]

/-- The first separator is the one behind a part without any. -/
theorem splitOnce_append {sep : Char} {front : Text} (h : sep ∉ front) (rest : Text) :
    splitOnce sep (front ++ sep :: rest) = some (front, rest) := by
  -- both halves of the cut go past the whole front and stop at the separator
  have hall : ∀ c ∈ front, (c != sep) = true := by
    intro c hc
    have hne : c ≠ sep := ne_of_mem_of_not_mem hc h
    simpa using hne
  have hdrop : (front ++ sep :: rest).dropWhile (· != sep) = sep :: rest := by
    rw [List.dropWhile_append_of_pos hall]
    simp
  have htake : (front ++ sep :: rest).takeWhile (· != sep) = front := by
    rw [List.takeWhile_append_of_pos hall]
    simp
  rw [splitOnce, hdrop, htake]

/-- A cut falls at the first separator. -/
theorem splitOnce_eq_some {sep : Char} {t front back : Text}
    (h : splitOnce sep t = some (front, back)) : t = front ++ sep :: back ∧ sep ∉ front := by
  by_cases hmem : sep ∈ t
  · obtain ⟨a, b, rfl, ha⟩ := List.eq_append_cons_of_mem hmem
    rw [splitOnce_append ha] at h
    cases h
    exact ⟨rfl, ha⟩
  · rw [splitOnce_of_not_mem hmem] at h
    cases h

theorem splitOnce_eq_none {sep : Char} {t : Text} (h : splitOnce sep t = none) : sep ∉ t := by
  intro hmem
  obtain ⟨a, b, rfl, ha⟩ := List.eq_append_cons_of_mem hmem
  rw [splitOnce_append ha] at h
  cases h

/-- A text that holds a character can be taken apart at the last one. -/
theorem exists_append_cons_of_mem {c : Char} {t : Text} (h : c ∈ t) :
    ∃ front back, t = front ++ c :: back ∧ c ∉ back := by
  obtain ⟨back, front, hreverse, hback⟩ := List.eq_append_cons_of_mem (List.mem_reverse.2 h)
  refine ⟨front.reverse, back.reverse, ?_, by simpa using hback⟩
  rw [← List.reverse_reverse t, hreverse]
  simp

/-- The last separator is the one ahead of a part without any. -/
theorem splitLast_append {sep : Char} {back : Text} (h : sep ∉ back) (front : Text) :
    splitLast sep (front ++ sep :: back) = some (front, back) := by
  have hback : sep ∉ back.reverse := by simpa using h
  have hrev : (front ++ sep :: back).reverse = back.reverse ++ sep :: front.reverse := by simp
  rw [splitLast, hrev, splitOnce_append hback]
  simp

theorem splitLast_eq_none_iff {sep : Char} {t : Text} : splitLast sep t = none ↔ sep ∉ t := by
  unfold splitLast
  rw [Option.map_eq_none_iff]
  constructor
  · intro h
    simpa using splitOnce_eq_none h
  · intro h
    exact splitOnce_of_not_mem (by simpa using h)

theorem not_mem_join {c : Char} {sep : Text} {pieces : List Text} (hsep : c ∉ sep)
    (h : ∀ p ∈ pieces, c ∉ p) : c ∉ join sep pieces := by
  induction pieces with
  | nil => simp [join]
  | cons p ps ih =>
      have hp : c ∉ p := h p List.mem_cons_self
      have hps : c ∉ join sep ps := ih fun q hq => h q (List.mem_cons_of_mem _ hq)
      cases ps with
      | nil => exact hp
      | cons q qs => simp [join, hp, hsep, hps]

/-! ## Lines -/

/-- The text of some lines, each ended by a newline. -/
def unlines (ls : List Text) : Text := ls.flatMap (· ++ ['\n'])

theorem dropReturn_eq_self {line : Text} (h : line.getLast? ≠ some '\r') :
    dropReturn line = line := by
  have hbefore : before? ['\r'] line = none := by
    unfold before?
    rcases List.eq_nil_or_concat line with rfl | ⟨cs, c, rfl⟩
    · rfl
    · have hc : ¬ '\r' = c := by
        intro hc
        exact h (by simp [← hc])
      simp [after?, hc]
  rw [dropReturn, hbefore]
  rfl

theorem dropReturn_append_return (line : Text) : dropReturn (line ++ ['\r']) = line := by
  simp [dropReturn, before?, after?]

theorem mem_of_mem_dropReturn {c : Char} {line : Text} (h : c ∈ dropReturn line) : c ∈ line := by
  by_cases hlast : line.getLast? = some '\r'
  · obtain ⟨front, rfl⟩ := List.getLast?_eq_some_iff.1 hlast
    rw [dropReturn_append_return] at h
    exact List.mem_append_left _ h
  · rwa [dropReturn_eq_self hlast] at h

theorem splitOn_unlines {ls : List Text} (h : ∀ l ∈ ls, '\n' ∉ l) :
    splitOn '\n' (unlines ls) = ls ++ [[]] := by
  induction ls with
  | nil => rfl
  | cons l ls ih =>
      have hl : '\n' ∉ l := h l List.mem_cons_self
      have hls : ∀ l ∈ ls, '\n' ∉ l := fun l' hl' => h l' (List.mem_cons_of_mem _ hl')
      have hcons : unlines (l :: ls) = l ++ '\n' :: unlines ls := by simp [unlines]
      rw [hcons, splitOn_append_cons hl, ih hls, List.cons_append]

theorem linesOfPieces_append_nil {ls : List Text} (h : ∀ l ∈ ls, l.getLast? ≠ some '\r') :
    linesOfPieces (ls ++ [[]]) = ls := by
  induction ls with
  | nil => rfl
  | cons l ls ih =>
      have hl : dropReturn l = l := dropReturn_eq_self (h l List.mem_cons_self)
      have ih' := ih fun l' hl' => h l' (List.mem_cons_of_mem _ hl')
      -- only the last piece is looked at for being empty, so the induction needs two ahead of it
      cases ls with
      | nil => rw [List.singleton_append, linesOfPieces, hl]; rfl
      | cons m ms =>
          rw [List.cons_append, List.cons_append, linesOfPieces, hl]
          rw [List.cons_append] at ih'
          rw [ih']

/-- Only the last piece is told apart from the others, so pieces ahead of some are lines one by
one. -/
theorem linesOfPieces_append (pieces : List Text) {others : List Text} (hne : others ≠ []) :
    linesOfPieces (pieces ++ others) = pieces.map dropReturn ++ linesOfPieces others := by
  induction pieces with
  | nil => rfl
  | cons p ps ih =>
      obtain ⟨q, qs, hrest⟩ :=
        List.exists_cons_of_ne_nil (List.append_ne_nil_of_right_ne_nil ps hne)
      rw [List.cons_append, hrest, linesOfPieces, ← hrest, ih, List.map_cons, List.cons_append]

/-- A newline ends a line, wherever the text is taken apart. -/
theorem lines_append_newline (a b : Text) :
    lines (a ++ '\n' :: b) = (splitOn '\n' a).map dropReturn ++ lines b := by
  rw [lines, splitOn_append_sep, linesOfPieces_append _ (splitOn_ne_nil '\n' b), lines]

theorem lines_of_not_mem {t : Text} (h : '\n' ∉ t) : lines t = if t = [] then [] else [t] := by
  rw [lines, splitOn_of_not_mem h]
  rfl

theorem not_mem_of_mem_lines {t line : Text} (h : line ∈ lines t) : '\n' ∉ line := by
  have hpieces : ∀ p ∈ splitOn '\n' t, '\n' ∉ p := fun p => not_mem_of_mem_splitOn
  rw [lines] at h
  generalize splitOn '\n' t = pieces at h hpieces
  induction pieces with
  | nil => exact absurd h List.not_mem_nil
  | cons p ps ih =>
      rw [List.forall_mem_cons] at hpieces
      rcases ps with _ | ⟨q, qs⟩
      · rw [linesOfPieces] at h
        split at h
        · exact absurd h List.not_mem_nil
        · exact List.mem_singleton.1 h ▸ hpieces.1
      · rcases List.mem_cons.1 h with rfl | h
        · exact fun hmem => hpieces.1 (mem_of_mem_dropReturn hmem)
        · exact ih h hpieces.2

/-- Lines come back from their text, unless one holds a newline or ends in a carriage return. -/
theorem lines_unlines {ls : List Text} (hn : ∀ l ∈ ls, '\n' ∉ l)
    (hr : ∀ l ∈ ls, l.getLast? ≠ some '\r') : lines (unlines ls) = ls := by
  rw [lines, splitOn_unlines hn, linesOfPieces_append_nil hr]

/-- A trimmed line ends in no carriage return. -/
theorem Trimmed.getLast?_ne_return {t : Text} (h : Trimmed t) : t.getLast? ≠ some '\r' := by
  intro hlast
  have hblank : isBlank '\r' = false := h.2 '\r' hlast
  exact absurd hblank (by decide)

/-! ## Numbers -/

theorem isDigit_of_mem_ofNat {n : Nat} {c : Char} (h : c ∈ ofNat n) : c.isDigit = true :=
  Nat.isDigit_of_mem_toDigits (by decide) (by decide) h

theorem ofNat_ne_nil (n : Nat) : ofNat n ≠ [] := Nat.toDigits_ne_nil

/-- A number comes back from its digits. -/
theorem foldl_ofNat (n : Nat) :
    (ofNat n).foldl (fun n c => n * 10 + (c.toNat - '0'.toNat)) 0 = n := by
  show (Nat.toDigits 10 n).foldl (fun n c => n * 10 + (c.toNat - '0'.toNat)) 0 = n
  have hdigits := Nat.ofDigitChars_ten_toDigits (n := n)
  rw [Nat.ofDigitChars_eq_foldl] at hdigits
  simpa only [Nat.mul_comm 10] using hdigits

theorem visible_of_isDigit {c : Char} (h : c.isDigit = true) : Visible c := by
  rw [Char.isDigit_iff_toNat] at h
  have hzero : '0'.toNat = 48 := rfl
  have hnine : '9'.toNat = 57 := rfl
  constructor <;> omega

theorem trimmed_ofNat (n : Nat) : Trimmed (ofNat n) :=
  trimmed_of_visible fun _ hc => visible_of_isDigit (isDigit_of_mem_ofNat hc)

end SchemaCompiler.Text
