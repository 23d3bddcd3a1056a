import Mathlib.Data.List.Infix
import SchemaCompiler.Proofs.Text

namespace SchemaCompiler.Text

/-! # Texts told apart by their delimiters

A part of a text ends where the first character comes that no such part holds, so equal texts have
equal parts. Main statements:

* `append_cons_inj`: two parts of one class of characters, each with a character of another class
  behind it, are equal if the whole texts are;
* `join_inj`: a joined text determines its pieces;
* `append_pattern_inj`: so does a pattern that does not occur in what stands before it;
* `firstOccurrence_fence`: a mark on the line behind a text comes up there first;
* `cutAfter_append`: a text is cut behind every occurrence of a mark.
-/

/-! ## Parts of one class of characters -/

/-- Parts of one class of characters end where another one comes. -/
theorem append_cons_inj {p : Char → Prop} {a b r s : Text} {d e : Char} (ha : ∀ c ∈ a, p c)
    (hb : ∀ c ∈ b, p c) (hd : ¬p d) (he : ¬p e) (h : a ++ d :: r = b ++ e :: s) :
    a = b ∧ d :: r = e :: s := by
  induction a generalizing b with
  | nil =>
      rcases b with _ | ⟨y, ys⟩
      · exact ⟨rfl, h⟩
      · have hdy : d = y := (List.cons.inj h).1
        rw [hdy] at hd
        exact absurd (hb y List.mem_cons_self) hd
  | cons x xs ih =>
      rcases b with _ | ⟨y, ys⟩
      · have hxe : x = e := (List.cons.inj h).1
        rw [← hxe] at he
        exact absurd (ha x List.mem_cons_self) he
      · obtain ⟨hxy, htail⟩ := List.cons.inj h
        obtain ⟨hxs, hrest⟩ := ih (fun c hc => ha c (List.mem_cons_of_mem _ hc))
          (fun c hc => hb c (List.mem_cons_of_mem _ hc)) htail
        rw [hxy, hxs]
        exact ⟨rfl, hrest⟩

/-- Parts without a character end where it comes. -/
theorem append_stop_inj {a b r s : Text} {stop : Char} (ha : stop ∉ a) (hb : stop ∉ b)
    (h : a ++ stop :: r = b ++ stop :: s) : a = b ∧ r = s := by
  have hparts := append_cons_inj (p := fun c => c ≠ stop) (fun c hc => ne_of_mem_of_not_mem hc ha)
    (fun c hc => ne_of_mem_of_not_mem hc hb) (not_not.2 rfl) (not_not.2 rfl) h
  exact ⟨hparts.1, (List.cons.inj hparts.2).2⟩

/-- A joined text determines its pieces, unless one of them is empty. -/
theorem join_inj {c : Char} {sep : Text} {ps qs : List Text} (hps : ∀ p ∈ ps, p ≠ [] ∧ c ∉ p)
    (hqs : ∀ q ∈ qs, q ≠ [] ∧ c ∉ q) (h : join (c :: sep) ps = join (c :: sep) qs) : ps = qs := by
  induction ps generalizing qs with
  | nil =>
      rcases qs with _ | ⟨q, qs⟩
      · rfl
      · have hq : q ≠ [] := (hqs q List.mem_cons_self).1
        cases qs with
        | nil => exact absurd h.symm hq
        | cons q' qs => simp [join, hq] at h
  | cons p ps ih =>
      obtain ⟨hp, hpc⟩ := hps p List.mem_cons_self
      rcases qs with _ | ⟨q, qs⟩
      · cases ps with
        | nil => exact absurd h hp
        | cons p' ps => simp [join, hp] at h
      · obtain ⟨-, hqc⟩ := hqs q List.mem_cons_self
        have hps' : ∀ p ∈ ps, p ≠ [] ∧ c ∉ p := fun r hr => hps r (List.mem_cons_of_mem _ hr)
        have hqs' : ∀ q ∈ qs, q ≠ [] ∧ c ∉ q := fun r hr => hqs r (List.mem_cons_of_mem _ hr)
        -- a piece alone holds no separator, and two pieces have one between them
        rcases ps with _ | ⟨p', ps⟩
        · rcases qs with _ | ⟨q', qs⟩
          · exact congrArg (fun r => [r]) h
          · rw [show join (c :: sep) [p] = p from rfl] at h
            rw [h] at hpc
            simp [join] at hpc
        · rcases qs with _ | ⟨q', qs⟩
          · rw [show join (c :: sep) [q] = q from rfl] at h
            rw [← h] at hqc
            simp [join] at hqc
          · have hcut : p ++ c :: (sep ++ join (c :: sep) (p' :: ps)) =
                q ++ c :: (sep ++ join (c :: sep) (q' :: qs)) := by simpa [join] using h
            obtain ⟨hpq, hrest⟩ := append_stop_inj hpc hqc hcut
            rw [hpq, ih hps' hqs' (List.append_cancel_left hrest)]

/-! ## Occurrences -/

/-- A pattern does not reach across a character that it does not hold. -/
theorem infix_append_cons {pattern u w : Text} {d : Char} (hd : d ∉ pattern)
    (h : pattern <:+: u ++ d :: w) : pattern <:+: u ∨ pattern <:+: w := by
  obtain ⟨before, after, heq⟩ := h
  rw [List.append_assoc] at heq
  rcases List.append_eq_append_iff.1 heq with ⟨a, hu, ha⟩ | ⟨a, -, ha⟩
  · -- the occurrence begins in the first part, so it has to end there as well
    rcases List.append_eq_append_iff.1 ha with ⟨b, hab, -⟩ | ⟨b, hpattern, hb⟩
    · refine .inl ⟨before, b, ?_⟩
      rw [hu, hab, List.append_assoc]
    · cases b with
      | nil =>
          refine .inl ⟨before, [], ?_⟩
          rw [hu, hpattern, List.append_nil, List.append_nil]
      | cons x xs =>
          have hdx : d = x := (List.cons.inj hb).1
          rw [hpattern, hdx] at hd
          exact absurd (List.mem_append_right _ List.mem_cons_self) hd
  · cases a with
    | nil =>
        cases pattern with
        | nil => exact .inl List.nil_infix
        | cons x xs =>
            have hdx : d = x := (List.cons.inj ha).1
            rw [hdx] at hd
            exact absurd List.mem_cons_self hd
    | cons x xs =>
        refine .inr ⟨xs, after, ?_⟩
        rw [List.append_assoc]
        exact (List.cons.inj ha).2.symm

/-- A pattern does not begin in a part without its first character. -/
theorem infix_of_infix_append {x : Char} {xs u w : Text} (hx : x ∉ u) (h : x :: xs <:+: u ++ w) :
    x :: xs <:+: w := by
  induction u with
  | nil => exact h
  | cons c cs ih =>
      rw [List.mem_cons, not_or] at hx
      rcases List.infix_cons_iff.1 h with hbegins | hoccurs
      · exact absurd (List.cons_prefix_cons.1 hbegins).1 hx.1
      · exact ih hx.2 hoccurs

/-- A pattern that holds its first character once and does not come up in `a` cannot stand both at
the beginning and behind `a`, unless `a` is empty. -/
theorem eq_nil_of_append_pattern {x : Char} {xs a v w : Text} (hx : x ∉ xs)
    (ha : ¬x :: xs <:+: a) (h : x :: (xs ++ v) = a ++ x :: (xs ++ w)) : a = [] := by
  cases a with
  | nil => rfl
  | cons y ys =>
      obtain ⟨hxy, hrest⟩ := List.cons.inj h
      rcases List.append_eq_append_iff.1 hrest with ⟨b, hys, -⟩ | ⟨b, hxs, hb⟩
      · rw [hys, ← hxy] at ha
        exact absurd ⟨[], b, rfl⟩ ha
      · cases b with
        | nil =>
            rw [List.append_nil] at hxs
            rw [hxs, hxy] at ha
            exact absurd (List.infix_refl _) ha
        | cons z zs =>
            have hxz : x = z := (List.cons.inj hb).1
            rw [hxs, hxz] at hx
            exact absurd (List.mem_append_right _ List.mem_cons_self) hx

/-- Texts in which such a pattern does not come up end where it stands. -/
theorem append_pattern_inj {x : Char} {xs u₁ u₂ v₁ v₂ : Text} (hx : x ∉ xs)
    (h₁ : ¬x :: xs <:+: u₁) (h₂ : ¬x :: xs <:+: u₂)
    (h : u₁ ++ x :: (xs ++ v₁) = u₂ ++ x :: (xs ++ v₂)) : u₁ = u₂ ∧ v₁ = v₂ := by
  have hu : u₁ = u₂ := by
    rcases List.append_eq_append_iff.1 h with ⟨a, hu, ha⟩ | ⟨a, hu, ha⟩
    · have hnot : ¬x :: xs <:+: a := fun hin =>
        h₂ (hu ▸ hin.trans (List.suffix_append _ _).isInfix)
      rw [hu, eq_nil_of_append_pattern hx hnot ha, List.append_nil]
    · have hnot : ¬x :: xs <:+: a := fun hin =>
        h₁ (hu ▸ hin.trans (List.suffix_append _ _).isInfix)
      rw [hu, eq_nil_of_append_pattern hx hnot ha, List.append_nil]
  rw [hu] at h
  exact ⟨hu, List.append_cancel_left (List.cons.inj (List.append_cancel_left h)).2⟩

/-! ## First occurrences -/

/-- A pattern stands between two parts of a text, and nowhere ahead of there. -/
structure FirstOccurrence (pattern t front back : Text) : Prop where
  parts : t = front ++ pattern ++ back
  first : ∀ u w, t = u ++ pattern ++ w → front.length ≤ u.length

/-- A pattern comes up first behind a character that it does not hold, unless it comes up ahead of
that character. -/
theorem firstOccurrence_append_cons {pattern front back : Text} {d : Char} (hd : d ∉ pattern)
    (hfront : ¬pattern <:+: front) :
    FirstOccurrence pattern (front ++ d :: (pattern ++ back)) (front ++ [d]) back := by
  refine ⟨by simp, fun u w h => ?_⟩
  rcases List.append_eq_append_iff.1 h with ⟨a, hua, ha⟩ | ⟨a, hua, -⟩
  · cases a with
    | nil => exact absurd ⟨u, [], by rw [hua, List.append_nil, List.append_nil]⟩ hfront
    | cons x xs =>
        -- the occurrence reaches `d`, so it has to begin behind it
        obtain rfl : d = x := (List.cons.inj ha).1
        have hoccurs : pattern <:+: front ++ d :: xs := hua ▸ (List.suffix_append _ _).isInfix
        have hbehind : pattern.length ≤ xs.length :=
          ((infix_append_cons hd hoccurs).resolve_left hfront).length_le
        have hlength := congrArg List.length hua
        simp only [List.length_append, List.length_cons, List.length_nil] at hlength ⊢
        omega
  · exact absurd ⟨u, a, hua.symm⟩ hfront

/-- A mark on the line behind a text comes up there first, unless it holds a newline or comes up in
the text. -/
theorem firstOccurrence_fence {mark text back : Text} (hline : '\n' ∉ mark)
    (htext : ¬mark <:+: text) :
    FirstOccurrence mark ("\n" ++ text ++ "\n" ++ mark ++ back) ("\n" ++ text ++ "\n") back := by
  have hfront : ¬mark <:+: "\n" ++ text := fun h =>
    (infix_append_cons (u := []) hline h).elim
      (fun h => htext (List.infix_nil.1 h ▸ List.nil_infix)) htext
  have hfirst : FirstOccurrence mark _ _ back := firstOccurrence_append_cons hline hfront
  rwa [show ("\n" ++ text ++ "\n" ++ mark ++ back : Text) =
    ("\n" ++ text) ++ '\n' :: (mark ++ back) by simp]

/-! ## Cutting behind a mark -/

/-- The pieces of a text that end with the occurrences of a mark, found from left to right, and what
is left behind the last one; `read` has been read since the last occurrence. -/
def cutAfter (mark read : Text) : Text → List Text
  | [] => if read = [] then [] else [read]
  | c :: cs =>
    if mark.isSuffixOf (read ++ [c]) then (read ++ [c]) :: cutAfter mark [] cs
    else cutAfter mark (read ++ [c]) cs

theorem cutAfter_cons_of_not_suffix {mark read cs : Text} {c : Char}
    (h : ¬mark <:+ read ++ [c]) :
    cutAfter mark read (c :: cs) = cutAfter mark (read ++ [c]) cs := by
  have hsuffix : ¬mark.isSuffixOf (read ++ [c]) = true := by
    intro hs
    exact h (List.isSuffixOf_iff_suffix.1 hs)
  rw [cutAfter, if_neg hsuffix]

/-- Reading goes on while the mark has not come up. -/
theorem cutAfter_append_of_not_infix {mark read piece rest : Text}
    (h : ¬mark <:+: read ++ piece) :
    cutAfter mark read (piece ++ rest) = cutAfter mark (read ++ piece) rest := by
  induction piece generalizing read with
  | nil => rw [List.append_nil]; rfl
  | cons c cs ih =>
      rw [List.append_cons] at h ⊢
      have hstep : ¬mark <:+ read ++ [c] := fun hs =>
        h (hs.isInfix.trans (List.prefix_append _ _).isInfix)
      rw [List.cons_append, cutAfter_cons_of_not_suffix hstep, ih h]

/-- The first piece is the one with the mark at its end and nowhere before. -/
theorem cutAfter_append {mark piece rest : Text} {last : Char} (hmark : mark <:+ piece ++ [last])
    (hpiece : ¬mark <:+: piece) :
    cutAfter mark [] (piece ++ [last] ++ rest) = (piece ++ [last]) :: cutAfter mark [] rest := by
  rw [List.append_assoc, cutAfter_append_of_not_infix hpiece, List.nil_append,
    List.singleton_append, cutAfter, if_pos (List.isSuffixOf_iff_suffix.2 hmark)]

/-- No piece holds the mark before its end. -/
theorem not_infix_dropLast_of_mem_cutAfter {mark read t piece : Text} (hread : ¬mark <:+: read)
    (h : piece ∈ cutAfter mark read t) : ¬mark <:+: piece.dropLast := by
  have hnil : ¬mark <:+: [] := fun hoccurs => hread (hoccurs.trans List.nil_infix)
  induction t generalizing read with
  | nil =>
      rw [cutAfter] at h
      split at h
      · exact absurd h List.not_mem_nil
      · rw [List.mem_singleton.1 h]
        exact fun hoccurs => hread (hoccurs.trans (List.dropLast_prefix _).isInfix)
  | cons c cs ih =>
      rw [cutAfter] at h
      split at h
      · rcases List.mem_cons.1 h with rfl | h
        · rw [List.dropLast_concat]
          exact hread
        · exact ih hnil h
      · rename_i hsuffix
        refine ih (fun hoccurs => ?_) h
        rcases List.infix_concat_iff.1 hoccurs with hoccurs | hoccurs
        · exact hsuffix (List.isSuffixOf_iff_suffix.2 hoccurs)
        · exact hread hoccurs

end SchemaCompiler.Text
