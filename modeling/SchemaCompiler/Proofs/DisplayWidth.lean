import Mathlib.Tactic.SplitIfs
import SchemaCompiler.Text.Width

namespace SchemaCompiler

/-! # Characters that stand apart

The columns of a text are in general not the sum over its parts: characters may join across a cut,
and control sequences may go on behind it. Some characters keep what stands around them apart, such
as those of which the frame of a grid is made. Main statements:

* `Width.join?_of_ascii`: what an ASCII character does not join;
* `Width.credit_le_scan`: joining never takes back more columns than are there;
* `Width.StandsApart.ofText_append_cons`: a character that stands apart adds one column to those of
  the parts around it;
* `Width.standsApart_of_mem`: blanks, bars, plus and minus signs stand apart.
-/

/-- A code point in a gap between the ranges lies in none of them. -/
theorem inRanges_of_gap {ranges : Array (Nat × Nat)} {n first last : Nat}
    (h : ∀ r ∈ ranges.toList, r.2 < first ∨ last < r.1) (hfirst : first ≤ n) (hlast : n ≤ last) :
    inRanges ranges n = false := by
  rw [inRanges, ← Array.any_toList, List.any_eq_false]
  intro r hr hin
  rw [Bool.and_eq_true, decide_eq_true_iff, decide_eq_true_iff] at hin
  have hgap := h r hr
  omega

/-! ## Control sequences -/

namespace Ansi

variable {c : Char}

/-- A character that continues no sequence ends the search for its longest form. -/
theorem longest_append_cons (hnext : ∀ state, State.next? state c = none) (state : State)
    (read best : Nat) (front back : Text) :
    longest state read best (front ++ c :: back) = longest state read best front := by
  induction front generalizing state read best with
  | nil => simp only [List.nil_append, longest, hnext]
  | cons d ds ih =>
      simp only [List.cons_append, longest]
      cases state.next? d with
      | none => rfl
      | some next => exact ih next _ _

theorem longest_le (state : State) {read best : Nat} (t : Text) (h : best ≤ read) :
    longest state read best t ≤ read + t.length := by
  induction t generalizing state read best with
  | nil => exact h
  | cons d ds ih =>
      simp only [longest]
      cases state.next? d with
      | none => simp only; omega
      | some next =>
          have hbest : (if next.isFinal then read + 1 else best) ≤ read + 1 := by
            split <;> omega
          have hrest := ih next hbest
          simp only [List.length_cons]
          omega

theorem sequenceLength_le (t : Text) : sequenceLength t ≤ t.length := by
  cases t with
  | nil => exact Nat.le_refl _
  | cons d ds =>
      rw [sequenceLength]
      split
      · have hlongest := longest_le .escape ds (Nat.zero_le 1)
        rw [List.length_cons]
        omega
      · exact Nat.zero_le _

/-- A character that is in no sequence is not left out, and no sequence reaches across it. -/
theorem stripFrom_append_cons (hnext : ∀ state, State.next? state c = none)
    (hescape : isEscape c = false) {skip : Nat} (front back : Text) (hskip : skip ≤ front.length) :
    stripFrom skip (front ++ c :: back) = stripFrom skip front ++ c :: strip back := by
  -- by induction over the front, where what is still to be skipped ends ahead of `c`
  induction front generalizing skip with
  | nil =>
      obtain rfl : skip = 0 := Nat.le_zero.1 hskip
      have hlength : sequenceLength (c :: back) = 0 := by rw [sequenceLength, hescape]; rfl
      simp only [List.nil_append, stripFrom, hlength]
      rfl
  | cons d ds ih =>
      cases skip with
      | succ skip => exact ih (Nat.le_of_succ_le_succ hskip)
      | zero =>
          have hlength : sequenceLength (d :: (ds ++ c :: back)) = sequenceLength (d :: ds) := by
            rw [sequenceLength, sequenceLength, longest_append_cons hnext]
          have hle := sequenceLength_le (d :: ds)
          rw [List.cons_append, stripFrom, stripFrom, hlength]
          cases hn : sequenceLength (d :: ds) with
          | zero => simp only [ih (Nat.zero_le _), List.cons_append]
          | succ n =>
              rw [hn] at hle
              exact ih (Nat.le_of_succ_le_succ hle)

end Ansi

namespace Width

/-! ## ASCII characters -/

section Ascii

variable {c : Char} (h : c.toNat < 0x80)

include h

theorem inRanges_of_ascii {ranges : Array (Nat × Nat)}
    (hranges : ∀ r ∈ ranges.toList, r.2 < 0 ∨ 0x7F < r.1) : inRanges ranges c.toNat = false :=
  inRanges_of_gap hranges (Nat.zero_le _) (by omega)

theorem isBetween_of_ascii {first last : Nat} (hfirst : 0x80 ≤ first) :
    isBetween first last c = false := by
  simp only [isBetween, Bool.and_eq_false_iff, decide_eq_false_iff_not]
  omega

theorem ne_of_ascii {d : Char} (hd : 0x80 ≤ d.toNat) : c ≠ d := by
  rintro rfl
  omega

theorem isPictograph_of_ascii : isPictograph c = false := inRanges_of_ascii h (by decide +kernel)

theorem selector_of_ascii : Selector.ofChar? c = none := by
  simp [Selector.ofChar?, ne_of_ascii h]

/-- No ASCII character but a newline waits for another to join it. -/
theorem kind_of_ascii (hnewline : c ≠ '\n') : Kind.ofChar c = .plain := by
  have halef : isAlef c = false := inRanges_of_ascii h (by decide)
  have hkhmer : isKhmerSubscript c = false := inRanges_of_ascii h (by decide)
  have hnumber {n : Nat} (hn : 0x80 ≤ n) : c.toNat ≠ n := by omega
  have hletter : Letter.ofChar? c = none := by
    simp [Letter.ofChar?, hkhmer, isTifinagh, isBetween_of_ascii h, ne_of_ascii h, hnumber]
  simp [Kind.ofChar, hnewline, halef, hletter, isPictograph_of_ascii h, isFlagLetter, isTone,
    isBetween_of_ascii h, hnumber]

/-- No ASCII character but a carriage return joins what stands behind it. -/
theorem join?_of_ascii (hreturn : c ≠ '\r') (k : Kind) : k.join? c = none := by
  have hthin : isThin c = false := by
    rw [isThin, inRanges_of_ascii h (by decide +kernel), Bool.false_and]
  have hlam : isLam c = false := inRanges_of_ascii h (by decide)
  have hignored : isIgnoredMark c = false := inRanges_of_ascii h (by decide)
  have htoned : inRanges tonedRanges c.toNat = false := inRanges_of_ascii h (by decide +kernel)
  have hnumber {n : Nat} (hn : 0x80 ≤ n) : c.toNat ≠ n := by omega
  cases k with
  | letter l joined =>
      cases l <;> simp [Kind.join?, Letter.join?, hignored, isTifinagh, joiner,
        isBetween_of_ascii h, ne_of_ascii h, hnumber]
  | _ =>
      simp [Kind.join?, hthin, hlam, htoned, hreturn, isPictograph_of_ascii h, isTone,
        isFlagLetter, isTagEnd, isTagLetter, isTagDigit, isBlackFlag, joiner,
        isBetween_of_ascii h, ne_of_ascii h, hnumber]

/-- An ASCII character takes one column in front of whatever stands behind it, unless it is the end
of a line or has a coloured form. -/
theorem step_of_ascii (hnewline : c ≠ '\n') (hreturn : c ≠ '\r')
    (hplain : inRanges selectableRanges c.toNat = false) (b : Behind) :
    step b c = (1, ⟨.plain, []⟩) := by
  have hkind (k : Kind) : k.step c = (1, ⟨.plain, []⟩) := by
    have hcolumn : Width.ofChar c = 1 := by
      simp only [Width.ofChar]
      rw [if_pos (by omega)]
    rw [Kind.step, join?_of_ascii h hreturn, kind_of_ascii h hnewline, hcolumn]
    rfl
  have hbehind (b : Behind) : b.step c = (1, ⟨.plain, []⟩) := by
    have hquote : isQuotationMark c = false := by
      simp [isQuotationMark, ne_of_ascii h]
    simp [Behind.step, selector_of_ascii h, hasNarrowForm, hplain, hquote, hkind]
  simp [step, hplain, hbehind]

end Ascii

/-! ## Columns that joining takes back -/

/-- How many columns that are counted already a character may take back by joining a letter. -/
def Letter.credit : Letter → Int
  | khmerSubscript | tifinaghJoined => 1
  | _ => 0

/-- How many columns that are counted already a character may take back by joining. -/
def Kind.credit : Kind → Int
  | letter l _ => l.credit
  | jointFlag n => n % 2
  | _ => 0

theorem Letter.credit_nonneg (l : Letter) : 0 ≤ l.credit := by
  cases l <;> decide

theorem Kind.credit_nonneg (k : Kind) : 0 ≤ k.credit := by
  cases k with
  | letter l _ => exact l.credit_nonneg
  | jointFlag n => exact Int.emod_nonneg _ (by decide)
  | _ => exact Int.le_refl 0

theorem Letter.credit_of_join? {l : Letter} {joined : Bool} {c : Char} {columns : Int} {k : Kind}
    (h : l.join? joined c = some (columns, k)) : k.credit ≤ l.credit + columns := by
  cases l <;> simp only [Letter.join?] at h <;> split_ifs at h <;> cases h <;> decide

theorem Kind.credit_of_join? {k k' : Kind} {c : Char} {columns : Int}
    (h : k.join? c = some (columns, k')) : k'.credit ≤ k.credit + columns := by
  cases k with
  | plain | keycap => cases h
  | letter l joined =>
      simp only [Kind.join?] at h
      split_ifs at h
      · -- a joiner, or a mark that is ignored, leaves the letter as it is
        cases h
        exact Int.le_add_of_nonneg_right (Int.le_refl 0)
      · cases h
        exact Int.le_add_of_nonneg_right (Int.le_refl 0)
      · exact Letter.credit_of_join? h
  | _ =>
      simp only [Kind.join?] at h
      split_ifs at h <;> cases h <;> simp only [credit] <;> omega

/-- A letter of Khmer takes a column by itself. -/
theorem one_le_ofChar_of_isKhmerSubscript {c : Char} (h : isKhmerSubscript c = true) :
    1 ≤ ofChar c := by
  have hblock : 0x1780 ≤ c.toNat ∧ c.toNat ≤ 0x17AF := by
    simp [isKhmerSubscript, inRanges] at h
    omega
  have hzero : inRanges zeroRanges c.toNat = false :=
    inRanges_of_gap (by decide +kernel) hblock.1 hblock.2
  simp only [ofChar, hzero, Bool.false_eq_true, if_false]
  split_ifs <;> decide

theorem Letter.credit_of_ofChar? {l : Letter} {c : Char} (h : Letter.ofChar? c = some l) :
    l.credit ≤ Width.ofChar c := by
  have hchar : (0 : Int) ≤ Width.ofChar c := Int.natCast_nonneg _
  unfold Letter.ofChar? at h
  split_ifs at h with _ hkhmer
  · cases h
    exact hchar
  · cases h
    exact Int.ofNat_le.2 (one_le_ofChar_of_isKhmerSubscript hkhmer)
  all_goals
    cases h
    exact hchar

theorem Kind.credit_ofChar_le (c : Char) : (Kind.ofChar c).credit ≤ Width.ofChar c := by
  have hchar : (0 : Int) ≤ Width.ofChar c := Int.natCast_nonneg _
  unfold Kind.ofChar
  cases hletter : Letter.ofChar? c with
  | none => split_ifs <;> exact hchar
  | some l =>
      have hcredit := Letter.credit_of_ofChar? hletter
      split_ifs
      all_goals first | exact hchar | exact hcredit

theorem Kind.credit_step (k : Kind) (c : Char) :
    (k.step c).2.kind.credit ≤ k.credit + (k.step c).1 := by
  unfold Kind.step
  cases hjoin : k.join? c with
  | some joined => exact credit_of_join? hjoin
  | none =>
      have hchar := credit_ofChar_le c
      have hk := k.credit_nonneg
      simp only
      omega

theorem Behind.credit_select (b : Behind) (s : Selector) :
    (b.select s).kind.credit ≤ b.kind.credit := by
  unfold Behind.select
  have hb := b.kind.credit_nonneg
  split
  · exact Int.le_refl _
  · split
    · exact Int.le_refl _
    · exact hb

theorem Behind.credit_uncoloured (b : Behind) : b.uncoloured.kind.credit ≤ b.kind.credit := by
  unfold Behind.uncoloured
  have hb := b.kind.credit_nonneg
  simp only
  split
  · exact Int.le_refl _
  · exact hb

theorem Behind.credit_step (b : Behind) (c : Char) :
    (b.step c).2.kind.credit ≤ b.kind.credit + (b.step c).1 := by
  have hb := b.kind.credit_nonneg
  have hplain : Kind.plain.credit = 0 := rfl
  unfold Behind.step
  cases Selector.ofChar? c with
  | some s =>
      have hselect := b.credit_select s
      simp only
      omega
  | none =>
      simp only
      split
      · simp only
        omega
      · split
        · simp only
          omega
        · exact b.kind.credit_step c

/-- One character more takes back no more than the credit that it leaves. -/
theorem credit_step (b : Behind) (c : Char) :
    (step b c).2.kind.credit ≤ b.kind.credit + (step b c).1 := by
  have hb := b.kind.credit_nonneg
  have hpict : Kind.pictograph.credit = 0 := rfl
  unfold step
  split
  · exact b.credit_step c
  · split
    · simp only
      split <;> omega
    · have huncoloured := b.credit_uncoloured
      have hstep := b.uncoloured.credit_step c
      omega

theorem scan_cons (c : Char) (t : Text) :
    scan (c :: t) = ((scan t).1 + (step (scan t).2 c).1, (step (scan t).2 c).2) := rfl

/-- What may still be taken back is there. -/
theorem credit_le_scan (t : Text) : (scan t).2.kind.credit ≤ (scan t).1 := by
  induction t with
  | nil => exact Int.le_refl _
  | cons c cs ih =>
      have hstep := credit_step (scan cs).2 c
      rw [scan_cons]
      simp only
      omega

theorem scan_nonneg (t : Text) : 0 ≤ (scan t).1 :=
  Int.le_trans (Kind.credit_nonneg _) (credit_le_scan t)

/-! ## Standing apart -/

/-- A character takes one column wherever it stands: it is in no control sequence, joins nothing,
and is joined by nothing. -/
structure StandsApart (c : Char) : Prop where
  next? : ∀ state, Ansi.State.next? state c = none
  isEscape : Ansi.isEscape c = false
  step : ∀ b, Width.step b c = (1, ⟨.plain, []⟩)

namespace StandsApart

variable {c : Char} (h : StandsApart c)

include h

theorem scan_append_cons (front back : Text) :
    scan (front ++ c :: back) = ((scan front).1 + 1 + (scan back).1, (scan front).2) := by
  -- `scan` goes from the end of the text, so in front of `c` it starts afresh
  induction front with
  | nil =>
      rw [List.nil_append, scan_cons, h.step]
      exact Prod.ext (Int.add_comm _ _) rfl
  | cons d ds ih =>
      rw [List.cons_append, scan_cons, ih, scan_cons]
      refine Prod.ext ?_ rfl
      simp only
      omega

/-- A character that stands apart adds its column to those of the parts around it. -/
theorem ofText_append_cons (front back : Text) :
    ofText (front ++ c :: back) = ofText front + 1 + ofText back := by
  have hstrip : Ansi.strip (front ++ c :: back) = Ansi.strip front ++ c :: Ansi.strip back :=
    Ansi.stripFrom_append_cons h.next? h.isEscape front back (Nat.zero_le _)
  -- columns are natural numbers cut off at zero, which adds up as no scan ends below it
  have hfront := scan_nonneg (Ansi.strip front)
  have hback := scan_nonneg (Ansi.strip back)
  simp only [ofText, hstrip, h.scan_append_cons]
  omega

end StandsApart

theorem standsApart_of_mem {c : Char} (h : c ∈ ([' ', '|', '+', '-'] : List Char)) :
    StandsApart c := by
  have hcases : c = ' ' ∨ c = '|' ∨ c = '+' ∨ c = '-' := by
    simpa only [List.mem_cons, List.not_mem_nil, or_false] using h
  have hascii : c.toNat < 0x80 ∧ c ≠ '\n' ∧ c ≠ '\r' := by
    rcases hcases with rfl | rfl | rfl | rfl <;> decide
  have hescape : Ansi.isEscape c = false := by
    rcases hcases with rfl | rfl | rfl | rfl <;> rfl
  have hnext (state : Ansi.State) : state.next? c = none := by
    rcases hcases with rfl | rfl | rfl | rfl <;> cases state <;> rfl
  have hplain : inRanges selectableRanges c.toNat = false := by
    rcases hcases with rfl | rfl | rfl | rfl <;>
      exact inRanges_of_gap (by decide +kernel) (Nat.le_refl _) (Nat.le_refl _)
  exact ⟨hnext, hescape, step_of_ascii hascii.1 hascii.2.1 hascii.2.2 hplain⟩

end Width

end SchemaCompiler
