import Mathlib.Data.List.Induction
import SchemaCompiler.Mapping
import SchemaCompiler.Proofs.Text

namespace SchemaCompiler

/-! # Expansion as one substitution

Expansion replaces one token after another in the whole text. It could find placeholders in what it
has just put in, or make one of what stands around it. Neither happens if the values are inert: free
of dollar signs, and no part of a token name.

The proof looks at a text as the pieces between its dollar signs. A placeholder is an inner piece
that is a token name, and replacing it merges the piece, its value in its place, with its two
neighbours (`settle`). A merged piece holds an inert value and so is no token name: no round leaves
an inner piece that a later round might take for its own. Main statements:

* `Mapping.splitOn_replaceAll`: a round of expansion on the pieces;
* `settle_settle`: two rounds are one round with both sets of names;
* `mem_inner_settle`: a round makes no new inner piece without a value in it;
* `Mapping.expand_eq_substitute`: nothing is left to replace, and unless two placeholders share a
  dollar sign, expansion is one substitution, in whatever order the tokens are taken.
-/

/-! ## Substitution in one pass -/

namespace Text

/-- A value in which no placeholder begins or ends and which is no part of a token name. -/
def Inert (value : Text) : Prop := '$' ∉ value ∧ ∀ token : Token, ¬value <:+: token.name

/-- One placeholder ends with the dollar sign with which another one begins. -/
def Entangled (t : Text) : Prop :=
  ∃ a b : Token, '$' :: a.name ++ '$' :: b.name ++ ['$'] <:+: t

end Text

namespace Mapping

/-- Every value of the mapping is inert. -/
def Inert (m : Mapping) : Prop := ∀ token, (m.value token).Inert

/-- No placeholder begins or ends in a value of the mapping. -/
def DollarFree (m : Mapping) : Prop := ∀ token, '$' ∉ m.value token

theorem Inert.dollarFree {m : Mapping} (hm : m.Inert) : m.DollarFree := fun token => (hm token).1

/-- Substitution with `skip` characters of the last placeholder still to be passed over. -/
def substituteFrom (m : Mapping) (tokens : List Token) : Nat → Text → Text
  | _, [] => []
  | skip + 1, _ :: cs => substituteFrom m tokens skip cs
  | 0, c :: cs =>
    match tokens.find? fun token => token.placeholder.isPrefixOf (c :: cs) with
    | some token => m.value token ++ substituteFrom m tokens (token.placeholder.length - 1) cs
    | none => c :: substituteFrom m tokens 0 cs

/-- The text read once from left to right, each placeholder of one of the tokens replaced by the
value and every other character copied. What is put in is not read again. -/
def substitute (m : Mapping) (tokens : List Token) (t : Text) : Text := m.substituteFrom tokens 0 t

/-- The text expanded by one token after another, in an order of one's own. -/
def expandIn (m : Mapping) (order : List Token) (t : Text) : Text :=
  order.foldl (fun acc token => acc.replaceAll token.placeholder (m.value token)) t

theorem expand_eq_expandIn (m : Mapping) (t : Text) : m.expand t = m.expandIn Token.all t := rfl

theorem expandIn_cons (m : Mapping) (token : Token) (order : List Token) (t : Text) :
    m.expandIn (token :: order) t =
      m.expandIn order (t.replaceAll token.placeholder (m.value token)) := rfl

/-- The value of the token of a name, if it is one of the tokens. -/
def valueOf? (m : Mapping) (tokens : List Token) (name : Text) : Option Text :=
  (tokens.find? fun token => token.name = name).map m.value

end Mapping

namespace Token

theorem dollar_not_mem_name (token : Token) : '$' ∉ token.name := by
  cases token <;> decide

theorem name_injective {a b : Token} (h : a.name = b.name) : a = b := by
  cases a <;> cases b <;> first | rfl | exact absurd h (by decide)

theorem mem_all (token : Token) : token ∈ all := by
  cases token <;> decide

end Token

namespace Mapping

section

variable {m : Mapping} {tokens : List Token}

/-- To replace one placeholder is to substitute for one token. -/
theorem replaceAll_eq_substitute (m : Mapping) (token : Token) (t : Text) :
    t.replaceAll token.placeholder (m.value token) = m.substitute [token] t := by
  have hfrom : ∀ skip, Text.replaceFrom token.placeholder (m.value token) skip t =
      m.substituteFrom [token] skip t := by
    induction t with
    | nil => intro skip; cases skip <;> rfl
    | cons c cs ih =>
        intro skip
        cases skip with
        | succ skip => exact ih skip
        | zero =>
            rw [Text.replaceFrom, substituteFrom, ih, ih, List.find?_singleton]
            cases token.placeholder.isPrefixOf (c :: cs) <;> rfl
  exact hfrom 0

theorem valueOf?_append (m : Mapping) (tokens others : List Token) (name : Text) :
    m.valueOf? (tokens ++ others) name =
      (m.valueOf? tokens name).or (m.valueOf? others name) := by
  rw [valueOf?, List.find?_append, Option.map_or]
  rfl

/-- A name with a value is the name of one of the tokens. -/
theorem exists_of_valueOf?_eq_some {name value : Text} (h : m.valueOf? tokens name = some value) :
    ∃ token ∈ tokens, token.name = name ∧ m.value token = value := by
  obtain ⟨token, hfind, hvalue⟩ := Option.map_eq_some_iff.1 h
  have hname : token.name = name := by simpa using List.find?_some hfind
  exact ⟨token, List.mem_of_find?_eq_some hfind, hname, hvalue⟩

/-- Every token in the list has its value. -/
theorem valueOf?_name {token : Token} (h : token ∈ tokens) :
    m.valueOf? tokens token.name = some (m.value token) := by
  cases hfind : m.valueOf? tokens token.name with
  | none =>
      have hnone := List.find?_eq_none.1 (Option.map_eq_none_iff.1 hfind) token h
      simp at hnone
  | some value =>
      obtain ⟨other, -, hname, hvalue⟩ := exists_of_valueOf?_eq_some hfind
      rw [← hvalue, Token.name_injective hname]

/-- In which order the tokens are listed makes no difference. -/
theorem valueOf?_perm {order : List Token} (h : order.Perm tokens) (name : Text) :
    m.valueOf? order name = m.valueOf? tokens name := by
  cases hvalue : m.valueOf? tokens name with
  | some value =>
      obtain ⟨token, hmem, rfl, rfl⟩ := exists_of_valueOf?_eq_some hvalue
      exact valueOf?_name (h.mem_iff.2 hmem)
  | none =>
      cases horder : m.valueOf? order name with
      | none => rfl
      | some value =>
          obtain ⟨token, hmem, rfl, -⟩ := exists_of_valueOf?_eq_some horder
          rw [valueOf?_name (h.mem_iff.1 hmem)] at hvalue
          cases hvalue

end

end Mapping

/-! ## Pieces between dollar signs -/

/-- The pieces of a text after substitution: an inner piece with a value is merged, the value in its
place, with the pieces on its two sides. -/
def settle (value? : Text → Option Text) : List Text → List Text
  | before :: name :: after :: rest =>
    match value? name with
    | some value => (settle value? (after :: rest)).modifyHead (before ++ value ++ ·)
    | none => before :: settle value? (name :: after :: rest)
  | pieces => pieces

/-- The pieces that have a dollar sign on either side. -/
def inner (pieces : List Text) : List Text := pieces.tail.dropLast

section

variable {value? other? : Text → Option Text} {before name after p : Text} {rest pieces : List Text}

theorem settle_cons_of_some {value : Text} (h : value? name = some value) :
    settle value? (before :: name :: after :: rest) =
      (settle value? (after :: rest)).modifyHead (before ++ value ++ ·) := by
  rw [settle, h]

/-- A piece without a value keeps the dollar sign ahead of it. -/
theorem settle_cons_of_none (h : value? name = none) :
    settle value? (before :: name :: rest) = before :: settle value? (name :: rest) := by
  cases rest with
  | nil => rfl
  | cons after rest => rw [settle, h]

/-- Of fewer than three pieces none is an inner one. -/
theorem settle_of_short
    (h : ∀ before name after rest, pieces = before :: name :: after :: rest → False) :
    settle value? pieces = pieces := by
  rw [settle]
  exact h

/-- What the first piece begins with stays there. -/
theorem settle_modifyHead (front : Text) (pieces : List Text) :
    settle value? (pieces.modifyHead (front ++ ·)) =
      (settle value? pieces).modifyHead (front ++ ·) := by
  match pieces with
  | [] => rfl
  | [_] => rfl
  | [_, _] => rfl
  | before :: name :: after :: rest =>
      cases h : value? name with
      | none => simp [settle, h]
      | some value =>
          rw [List.modifyHead_cons, settle_cons_of_some h, settle_cons_of_some h,
            List.modifyHead_modifyHead]
          congr 1
          funext u
          simp

theorem settle_ne_nil (h : pieces ≠ []) : settle value? pieces ≠ [] := by
  induction pieces using settle.induct value? with
  | case1 before name after rest value hvalue ih =>
      rw [settle_cons_of_some hvalue, ne_eq, List.modifyHead_eq_nil_iff]
      exact ih (List.cons_ne_nil after rest)
  | case2 before name after rest hnone ih =>
      rw [settle_cons_of_none hnone]
      exact List.cons_ne_nil _ _
  | case3 pieces hshort =>
      rw [settle_of_short hshort]
      exact h

/-- The first piece stays apart from the second one, or the second one is a name, and its value is
put into the first. -/
theorem settle_cons_cases (value? : Text → Option Text) (first second : Text) (rest : List Text) :
    settle value? (first :: second :: rest) = first :: settle value? (second :: rest) ∨
      ∃ value front others, value? second = some value ∧ rest ≠ [] ∧
        settle value? (first :: second :: rest) = front :: others ∧ value <:+: front := by
  cases rest with
  | nil => exact .inl rfl
  | cons after rest =>
      cases h : value? second with
      | none => exact .inl (settle_cons_of_none h)
      | some value =>
          obtain ⟨next, others, hsettle⟩ : ∃ next others, settle value? (after :: rest) =
              next :: others := List.exists_cons_of_ne_nil (settle_ne_nil (List.cons_ne_nil _ _))
          refine .inr ⟨value, first ++ value ++ next, others, rfl, List.cons_ne_nil _ _, ?_, ?_⟩
          · rw [settle_cons_of_some h, hsettle, List.modifyHead_cons]
          · exact List.infix_append first value next

/-- The first piece stays what it is or has a value put into it. -/
theorem exists_settle_cons (value? : Text → Option Text) (first : Text) (rest : List Text) :
    ∃ front others, settle value? (first :: rest) = front :: others ∧
      (front = first ∨ ∃ name value, value? name = some value ∧ value <:+: front) := by
  cases rest with
  | nil => exact ⟨first, [], rfl, .inl rfl⟩
  | cons second rest =>
      obtain hkept | ⟨value, front, others, hvalue, -, hsettle, hinfix⟩ :=
        settle_cons_cases value? first second rest
      · exact ⟨first, _, hkept, .inl rfl⟩
      · exact ⟨front, others, hsettle, .inr ⟨second, value, hvalue, hinfix⟩⟩

/-- Settled pieces are as free of a character as the pieces and the values. -/
theorem not_mem_of_mem_settle {c : Char}
    (hvalues : ∀ name value, value? name = some value → c ∉ value)
    (hpieces : ∀ q ∈ pieces, c ∉ q) : ∀ q ∈ settle value? pieces, c ∉ q := by
  induction pieces using settle.induct value? with
  | case1 before name after rest value hvalue ih =>
      have hrest : ∀ q ∈ settle value? (after :: rest), c ∉ q := by
        apply ih
        intro q hq
        exact hpieces q (List.mem_cons_of_mem before (List.mem_cons_of_mem name hq))
      obtain ⟨front, others, hsettle, -⟩ := exists_settle_cons value? after rest
      rw [settle_cons_of_some hvalue, hsettle, List.modifyHead_cons]
      rw [hsettle] at hrest
      intro q hq
      cases hq with
      | head =>
          have hbefore := hpieces before List.mem_cons_self
          have hfront := hrest front List.mem_cons_self
          simp [hbefore, hvalues name value hvalue, hfront]
      | tail _ hq => exact hrest q (List.mem_cons_of_mem front hq)
  | case2 before name after rest hnone ih =>
      rw [settle_cons_of_none hnone]
      intro q hq
      cases hq with
      | head => exact hpieces before List.mem_cons_self
      | tail _ hq => exact ih (fun r hr => hpieces r (List.mem_cons_of_mem before hr)) q hq
  | case3 pieces hshort =>
      rw [settle_of_short hshort]
      exact hpieces

/-- Where there is an inner piece, there are three pieces. -/
theorem exists_of_mem_inner (h : p ∈ inner pieces) :
    ∃ before name after rest, pieces = before :: name :: after :: rest := by
  match pieces, h with
  | before :: name :: after :: rest, _ => exact ⟨before, name, after, rest, rfl⟩

theorem mem_inner_cons (h : p ∈ inner rest) : p ∈ inner (before :: rest) := by
  match rest, h with
  | _ :: after :: rest, h => exact List.mem_cons_of_mem _ h

theorem inner_modifyHead (f : Text → Text) (pieces : List Text) :
    inner (pieces.modifyHead f) = inner pieces := by
  cases pieces <;> rfl

/-- Inner pieces stand between a first and a last one. -/
theorem exists_eq_inner (h : inner pieces ≠ []) :
    ∃ first last, pieces = first :: inner pieces ++ [last] := by
  match pieces, h with
  | first :: second :: rest, _ =>
      have hrest : second :: rest ≠ [] := List.cons_ne_nil second rest
      exact ⟨first, (second :: rest).getLast hrest,
        congrArg (first :: ·) (List.dropLast_concat_getLast hrest).symm⟩

/-- An inner piece after substitution was one before and has no value, or it holds a value. -/
theorem mem_inner_settle (pieces : List Text) (h : p ∈ inner (settle value? pieces)) :
    (p ∈ inner pieces ∧ value? p = none) ∨
      ∃ name value, value? name = some value ∧ value <:+: p := by
  match pieces with
  | [] | [_] | [_, _] => exact absurd h List.not_mem_nil
  | before :: name :: after :: rest =>
      cases hname : value? name with
      | some value =>
          rw [settle_cons_of_some hname, inner_modifyHead] at h
          obtain ⟨hmem, hnone⟩ | hholds := mem_inner_settle (after :: rest) h
          · exact .inl ⟨mem_inner_cons (mem_inner_cons hmem), hnone⟩
          · exact .inr hholds
      | none =>
          -- the name is an inner piece now, unless its right neighbour is merged with it
          obtain ⟨front, others, hsettle, hfront⟩ := exists_settle_cons value? name (after :: rest)
          rw [settle_cons_of_none hname, hsettle] at h
          cases others with
          | nil => exact absurd h List.not_mem_nil
          | cons next others =>
              cases h with
              | head =>
                  obtain rfl | hholds := hfront
                  · exact .inl ⟨List.mem_cons_self, hname⟩
                  · exact .inr hholds
              | tail _ h =>
                  have hinner : p ∈ inner (settle value? (name :: after :: rest)) := by
                    rw [hsettle]
                    exact h
                  obtain ⟨hmem, hnone⟩ | hholds := mem_inner_settle (name :: after :: rest) hinner
                  · exact .inl ⟨mem_inner_cons hmem, hnone⟩
                  · exact .inr hholds

end

/-- Only token names have values, and inert ones. -/
def Settles (value? : Text → Option Text) : Prop :=
  ∀ name value, value? name = some value → (∃ token : Token, token.name = name) ∧ value.Inert

/-- No two token names stand next to each other among the inner pieces. -/
def Apart (pieces : List Text) : Prop :=
  ∀ a b : Token, ¬[a.name, b.name] <:+: inner pieces

section

variable {value? other? : Text → Option Text} {name : Text} {pieces : List Text}

theorem Settles.eq_none_of_infix (hvalue : Settles value?) (hother : Settles other?)
    {key value : Text} (hkey : value? key = some value) (h : value <:+: name) :
    other? name = none := by
  cases hname : other? name with
  | none => rfl
  | some _ =>
      obtain ⟨⟨token, rfl⟩, -⟩ := hother _ _ hname
      exact absurd h ((hvalue _ _ hkey).2.2 token)

theorem Apart.of_cons {first : Text} (h : Apart (first :: pieces)) : Apart pieces := by
  match pieces, h with
  | [], _ | [_], _ =>
      intro a b hinfix
      have hlength := hinfix.length_le
      simp [inner] at hlength
  | second :: third :: rest, h =>
      intro a b hinfix
      exact h a b (List.infix_cons hinfix)

/-- A piece ahead of a token name between dollar signs has no value. -/
theorem Apart.eq_none_of_next {before after : Text} {rest : List Text}
    (h : Apart (before :: name :: after :: rest)) (hother : Settles other?)
    (hafter : ∃ token : Token, token.name = after) (hrest : rest ≠ []) : other? name = none := by
  cases hname : other? name with
  | none => rfl
  | some _ =>
      obtain ⟨⟨a, rfl⟩, -⟩ := hother _ _ hname
      obtain ⟨b, rfl⟩ := hafter
      obtain ⟨last, others, rfl⟩ := List.exists_cons_of_ne_nil hrest
      exact absurd (List.prefix_append [a.name, b.name] _).isInfix (h a b)

/-- Two rounds of substitution are one round with the values of both. -/
theorem settle_settle (hvalue : Settles value?) (hother : Settles other?) (pieces : List Text)
    (hapart : Apart pieces) :
    settle other? (settle value? pieces) =
      settle (fun name => (value? name).or (other? name)) pieces := by
  match pieces with
  | [] | [_] | [_, _] => rfl
  | before :: name :: after :: rest =>
      have htail := settle_settle hvalue hother (name :: after :: rest) hapart.of_cons
      have hrest := settle_settle hvalue hother (after :: rest) hapart.of_cons.of_cons
      cases hname : value? name with
      | some value =>
          have hboth : (value? name).or (other? name) = some value := by rw [hname]; rfl
          rw [settle_cons_of_some hname, settle_modifyHead, hrest, settle_cons_of_some hboth]
      | none =>
          rw [settle_cons_of_none hname]
          obtain hkept | ⟨value, front, others, hvalue', hrest', hsettle, hinfix⟩ :=
            settle_cons_cases value? name after rest
          · -- the name is still there for the second round
            cases hother' : other? name with
            | none =>
                have hboth : (value? name).or (other? name) = none := by rw [hname, hother']; rfl
                rw [hkept, settle_cons_of_none hother', ← hkept, htail]
                exact (settle_cons_of_none hboth).symm
            | some value =>
                have hboth : (value? name).or (other? name) = some value := by
                  rw [hname, hother']
                  rfl
                obtain ⟨next, others, hnext, -⟩ := exists_settle_cons value? after rest
                rw [hkept, hnext, settle_cons_of_some hother', ← hnext, hrest,
                  settle_cons_of_some hboth]
          · -- what has taken in a value is no name, and the name it took it from had no neighbour
            have hfront : other? front = none := hvalue.eq_none_of_infix hother hvalue' hinfix
            have hboth : (value? name).or (other? name) = none := by
              rw [hname, Option.none_or]
              exact hapart.eq_none_of_next hother (hvalue _ _ hvalue').1 hrest'
            rw [hsettle, settle_cons_of_none hfront, ← hsettle, htail]
            exact (settle_cons_of_none hboth).symm

end

/-! ## Placeholders among the pieces -/

namespace Text

theorem join_cons (sep p : Text) {ps : List Text} (h : ps ≠ []) :
    join sep (p :: ps) = p ++ sep ++ join sep ps := by
  obtain ⟨q, qs, rfl⟩ := List.exists_cons_of_ne_nil h
  rfl

theorem join_append (sep : Text) {ps qs : List Text} (hps : ps ≠ []) (hqs : qs ≠ []) :
    join sep (ps ++ qs) = join sep ps ++ sep ++ join sep qs := by
  induction ps with
  | nil => exact absurd rfl hps
  | cons p ps ih =>
      cases ps with
      | nil => exact join_cons sep p hqs
      | cons p' ps =>
          have ih' := ih (List.cons_ne_nil p' ps)
          rw [List.cons_append, join_cons sep p (by simp), ih', join_cons sep p (by simp)]
          simp only [List.append_assoc]

theorem join_modifyHead (sep front : Text) {pieces : List Text} (h : pieces ≠ []) :
    join sep (pieces.modifyHead (front ++ ·)) = front ++ join sep pieces := by
  obtain ⟨p, ps, rfl⟩ := List.exists_cons_of_ne_nil h
  cases ps with
  | nil => rfl
  | cons q qs => simp only [List.modifyHead_cons, join, List.append_assoc]

/-- A placeholder in a text is an inner piece of it. -/
theorem name_mem_inner {token : Token} {t : Text} (h : token.placeholder <:+: t) :
    token.name ∈ inner (splitOn '$' t) := by
  obtain ⟨front, back, rfl⟩ := h
  have hcut : front ++ token.placeholder ++ back = front ++ '$' :: (token.name ++ '$' :: back) := by
    simp [Token.placeholder]
  rw [hcut, splitOn_append_sep, splitOn_append_cons token.dollar_not_mem_name, inner]
  obtain ⟨p, ps, hfront⟩ := List.exists_cons_of_ne_nil (splitOn_ne_nil '$' front)
  obtain ⟨q, qs, hback⟩ := List.exists_cons_of_ne_nil (splitOn_ne_nil '$' back)
  rw [hfront, hback, List.cons_append, List.tail_cons, List.dropLast_append_of_ne_nil (by simp)]
  simp

/-- Inner pieces next to each other stand in the text with dollar signs around them. -/
theorem infix_of_infix_inner {names : List Text} (hne : names ≠ []) {t : Text}
    (h : names <:+: inner (splitOn '$' t)) : '$' :: join ['$'] names ++ ['$'] <:+: t := by
  obtain ⟨front, back, hinner⟩ := h
  have hsome : inner (splitOn '$' t) ≠ [] := by
    rw [← hinner]
    simp [hne]
  obtain ⟨first, last, hwhole⟩ := exists_eq_inner hsome
  have hparts : splitOn '$' t = (first :: front) ++ (names ++ (back ++ [last])) := by
    rw [hwhole, ← hinner]
    simp
  rw [← join_splitOn '$' t, hparts, join_append _ (by simp) (by simp), join_append _ hne (by simp)]
  exact ⟨join ['$'] (first :: front), join ['$'] (back ++ [last]), by simp⟩

theorem placeholder_infix_iff {token : Token} {t : Text} :
    token.placeholder <:+: t ↔ token.name ∈ inner (splitOn '$' t) := by
  constructor
  · exact name_mem_inner
  · intro h
    obtain ⟨front, back, hinner⟩ := List.append_of_mem h
    exact infix_of_infix_inner (List.cons_ne_nil token.name []) ⟨front, back, by simp [hinner]⟩

/-- Token names next to each other among the inner pieces are entangled placeholders. -/
theorem apart_of_not_entangled {t : Text} (h : ¬t.Entangled) : Apart (splitOn '$' t) := by
  intro a b hinfix
  apply h
  refine ⟨a, b, ?_⟩
  have hboth := infix_of_infix_inner (List.cons_ne_nil a.name [b.name]) hinfix
  simpa [join] using hboth

end Text

/-! ## Substitution on the pieces -/

namespace Token

/-- Behind a dollar sign, the piece up to the next one decides which placeholder it is. -/
theorem isPrefixOf_placeholder (token : Token) {piece : Text} (h : '$' ∉ piece) (rest : Text) :
    token.placeholder.isPrefixOf ('$' :: (piece ++ '$' :: rest)) = decide (token.name = piece) := by
  rw [Bool.eq_iff_iff, List.isPrefixOf_iff_prefix, decide_eq_true_iff]
  constructor
  · rintro ⟨back, hback⟩
    have hcut : token.name ++ '$' :: back = piece ++ '$' :: rest := by
      simpa [placeholder] using hback
    have hsplit := congrArg (Text.splitOnce '$') hcut
    rw [Text.splitOnce_append token.dollar_not_mem_name, Text.splitOnce_append h] at hsplit
    exact congrArg Prod.fst (Option.some.inj hsplit)
  · rintro rfl
    exact ⟨rest, by simp [placeholder]⟩

/-- Without a second dollar sign there is no placeholder. -/
theorem isPrefixOf_placeholder_last (token : Token) {piece : Text} (h : '$' ∉ piece) :
    token.placeholder.isPrefixOf ('$' :: piece) = false := by
  rw [Bool.eq_false_iff, ne_eq, List.isPrefixOf_iff_prefix]
  rintro ⟨back, hback⟩
  apply h
  have hpiece : token.name ++ '$' :: back = piece := by simpa [placeholder] using hback
  simp [← hpiece]

end Token

namespace Mapping

variable {m : Mapping} {tokens : List Token}

theorem substituteFrom_append (m : Mapping) (tokens : List Token) {front : Text} (h : '$' ∉ front)
    (t : Text) :
    m.substituteFrom tokens 0 (front ++ t) = front ++ m.substituteFrom tokens 0 t := by
  induction front with
  | nil => rfl
  | cons c cs ih =>
      rw [List.mem_cons, not_or] at h
      have hnone : tokens.find? (fun token => token.placeholder.isPrefixOf (c :: (cs ++ t))) =
          none := by
        rw [List.find?_eq_none]
        intro token _
        simp [Token.placeholder, h.1]
      rw [List.cons_append, substituteFrom, hnone, ih h.2]
      rfl

theorem substituteFrom_skip (m : Mapping) (tokens : List Token) (front t : Text) :
    m.substituteFrom tokens front.length (front ++ t) = m.substituteFrom tokens 0 t := by
  induction front with
  | nil => rfl
  | cons c cs ih => exact ih

/-- Substitution merges the pieces that are names of the tokens. -/
theorem substitute_join (m : Mapping) (tokens : List Token) (pieces : List Text)
    (h : ∀ p ∈ pieces, '$' ∉ p) :
    m.substitute tokens (Text.join ['$'] pieces) =
      Text.join ['$'] (settle (m.valueOf? tokens) pieces) := by
  match pieces with
  | [] => rfl
  | [last] =>
      have hlast := substituteFrom_append m tokens (h last (by simp)) []
      simpa [substitute, Text.join, settle, substituteFrom] using hlast
  | [before, last] =>
      have hlast := substituteFrom_append m tokens (h last (by simp)) []
      have hnone : tokens.find? (fun token => token.placeholder.isPrefixOf ('$' :: last)) =
          none := by
        rw [List.find?_eq_none]
        intro token _
        simp [token.isPrefixOf_placeholder_last (h last (by simp))]
      rw [List.append_nil] at hlast
      show m.substituteFrom tokens 0 (before ++ ['$'] ++ last) = before ++ ['$'] ++ last
      rw [List.append_assoc, substituteFrom_append m tokens (h before (by simp)),
        List.singleton_append, substituteFrom, hnone]
      simp [hlast, substituteFrom]
  | before :: name :: after :: rest =>
      have hbefore : '$' ∉ before := h before (by simp)
      have hname : '$' ∉ name := h name (by simp)
      have htail := substitute_join m tokens (name :: after :: rest)
        fun p hp => h p (List.mem_cons_of_mem before hp)
      have hrest := substitute_join m tokens (after :: rest)
        fun p hp => h p (List.mem_cons_of_mem before (List.mem_cons_of_mem name hp))
      -- the placeholder at the dollar sign, if any, is the one of the next piece
      have hfind : tokens.find? (fun token => token.placeholder.isPrefixOf
            ('$' :: (name ++ '$' :: Text.join ['$'] (after :: rest)))) =
          tokens.find? fun token => token.name = name := by
        congr 1
        funext token
        exact token.isPrefixOf_placeholder hname _
      have hcut : Text.join ['$'] (before :: name :: after :: rest) =
          before ++ '$' :: (name ++ '$' :: Text.join ['$'] (after :: rest)) := by
        simp [Text.join]
      rw [substitute, hcut, substituteFrom_append m tokens hbefore, substituteFrom, hfind]
      cases htoken : tokens.find? fun token => token.name = name with
      | none =>
          have hnone : m.valueOf? tokens name = none := by
            rw [valueOf?, htoken]
            rfl
          rw [settle_cons_of_none hnone,
            Text.join_cons _ _ (settle_ne_nil (List.cons_ne_nil name (after :: rest))), ← htail,
            substitute, Text.join_cons _ _ (List.cons_ne_nil after rest)]
          simp
      | some token =>
          have hsome : m.valueOf? tokens name = some (m.value token) := by
            rw [valueOf?, htoken]
            rfl
          obtain rfl : token.name = name := by simpa using List.find?_some htoken
          have hskip : token.placeholder.length - 1 = (token.name ++ ['$']).length := by
            simp [Token.placeholder]
          have hpassed := substituteFrom_skip m tokens (token.name ++ ['$'])
            (Text.join ['$'] (after :: rest))
          rw [← hskip, List.append_assoc, List.singleton_append] at hpassed
          rw [settle_cons_of_some hsome,
            Text.join_modifyHead _ _ (settle_ne_nil (List.cons_ne_nil after rest)), ← hrest,
            substitute, ← hpassed, List.append_assoc]

/-! ## Rounds of expansion -/

theorem Inert.settles (hm : m.Inert) (tokens : List Token) : Settles (m.valueOf? tokens) := by
  intro name value hvalue
  obtain ⟨token, -, hname, rfl⟩ := exists_of_valueOf?_eq_some hvalue
  exact ⟨⟨token, hname⟩, hm token⟩

/-- A round of expansion merges the pieces that are the name of the token. -/
theorem splitOn_replaceAll (hm : m.DollarFree) (token : Token) (t : Text) :
    Text.splitOn '$' (t.replaceAll token.placeholder (m.value token)) =
      settle (m.valueOf? [token]) (Text.splitOn '$' t) := by
  have hpieces : ∀ p ∈ Text.splitOn '$' t, '$' ∉ p := fun p hp => Text.not_mem_of_mem_splitOn hp
  have hvalues : ∀ name value, m.valueOf? [token] name = some value → '$' ∉ value := by
    intro name value h
    obtain ⟨token, -, -, rfl⟩ := exists_of_valueOf?_eq_some h
    exact hm token
  have hsettled : ∀ p ∈ settle (m.valueOf? [token]) (Text.splitOn '$' t), '$' ∉ p :=
    not_mem_of_mem_settle hvalues hpieces
  have hjoin := substitute_join m [token] _ hpieces
  rw [Text.join_splitOn] at hjoin
  rw [replaceAll_eq_substitute, hjoin,
    Text.splitOn_join (settle_ne_nil (Text.splitOn_ne_nil '$' t)) hsettled]

/-- A round changes nothing in a text without the placeholder. -/
theorem replaceAll_eq_self {token : Token} {t : Text} (h : ¬token.placeholder <:+: t) :
    t.replaceAll token.placeholder (m.value token) = t := by
  have hfrom : ∀ u : Text, ¬token.placeholder <:+: u →
      Text.replaceFrom token.placeholder (m.value token) 0 u = u := by
    intro u hu
    induction u with
    | nil => rfl
    | cons c cs ih =>
        have hprefix : ¬token.placeholder.isPrefixOf (c :: cs) := by
          rw [List.isPrefixOf_iff_prefix]
          exact fun hp => hu hp.isInfix
        rw [Text.replaceFrom, if_neg hprefix, ih fun hcs => hu (List.infix_cons hcs)]
  rw [Text.replaceAll, hfrom t h]
  exact ite_self t

/-- A token name among the inner pieces after some rounds was there before, or a replacement has
completed it: the token's turn was over or had come, a placeholder was replaced, and its value is a
part of the name. -/
theorem name_mem_inner_expandIn_cases (hm : m.DollarFree) {order : List Token} {t : Text}
    {token : Token} (h : token.name ∈ inner (Text.splitOn '$' (m.expandIn order t))) :
    (token.name ∈ inner (Text.splitOn '$' t) ∧ token ∉ order) ∨
      ∃ front later back, order = front ++ later :: back ∧ token ∉ back ∧
        later.placeholder <:+: m.expandIn front t ∧ m.value later <:+: token.name := by
  induction order generalizing t with
  | nil => exact .inl ⟨h, List.not_mem_nil⟩
  | cons first order ih =>
      rw [expandIn_cons] at h
      obtain ⟨hround, horder⟩ | ⟨front, later, back, rfl, hback, hplaceholder, hvalue⟩ := ih h
      · by_cases hfirst : first.placeholder <:+: t
        · rw [splitOn_replaceAll hm] at hround
          obtain ⟨hmem, hnone⟩ | ⟨name, value, hvalue, hinfix⟩ := mem_inner_settle _ hround
          · -- the name was there before the round, which would have taken the name of its token
            refine .inl ⟨hmem, ?_⟩
            rintro (_ | ⟨_, hlater⟩)
            · rw [valueOf?_name (List.mem_singleton_self token)] at hnone
              cases hnone
            · exact horder hlater
          · obtain ⟨later, hlater, -, rfl⟩ := exists_of_valueOf?_eq_some hvalue
            obtain rfl := List.mem_singleton.1 hlater
            exact .inr ⟨[], later, order, rfl, horder, hfirst, hinfix⟩
        · -- nothing to replace in the first round, and so no placeholder of its token either
          rw [replaceAll_eq_self hfirst] at hround
          refine .inl ⟨hround, ?_⟩
          rintro (_ | ⟨_, hlater⟩)
          · exact hfirst (Text.placeholder_infix_iff.2 hround)
          · exact horder hlater
      · exact .inr ⟨first :: front, later, back, rfl, hback, hplaceholder, hvalue⟩

/-- Under inert values, after the rounds of some tokens, the inner pieces that are token names were
there before, and they are not the names of these tokens. -/
theorem of_name_mem_inner_expandIn (hm : m.Inert) {order : List Token} {t : Text} {token : Token}
    (h : token.name ∈ inner (Text.splitOn '$' (m.expandIn order t))) :
    token.name ∈ inner (Text.splitOn '$' t) ∧ token ∉ order := by
  obtain hbefore | ⟨-, later, -, -, -, -, hinfix⟩ := name_mem_inner_expandIn_cases hm.dollarFree h
  · exact hbefore
  · -- a name with a value in it would make that value no inert one
    exact absurd hinfix ((hm later).2 token)

theorem settle_none (pieces : List Text) : settle (fun _ => none) pieces = pieces := by
  match pieces with
  | [] | [_] | [_, _] => rfl
  | before :: name :: after :: rest =>
      rw [settle_cons_of_none rfl, settle_none (name :: after :: rest)]

/-- If no placeholders are entangled, the rounds of some tokens are one round for all of them. -/
theorem splitOn_expandIn (hm : m.Inert) (order : List Token) {t : Text}
    (hapart : Apart (Text.splitOn '$' t)) :
    Text.splitOn '$' (m.expandIn order t) =
      settle (m.valueOf? order) (Text.splitOn '$' t) := by
  -- the last round comes on top of the others, whose names are apart in the text as it was
  induction order using List.reverseRecOn with
  | nil => exact (settle_none _).symm
  | append_singleton order token ih =>
      have hlast : m.expandIn (order ++ [token]) t =
          (m.expandIn order t).replaceAll token.placeholder (m.value token) := by
        rw [expandIn, List.foldl_append]
        rfl
      have hboth : m.valueOf? (order ++ [token]) =
          fun name => (m.valueOf? order name).or (m.valueOf? [token] name) :=
        funext fun name => valueOf?_append m order [token] name
      rw [hlast, splitOn_replaceAll hm.dollarFree, ih, hboth,
        settle_settle (hm.settles order) (hm.settles [token]) _ hapart]

theorem expandIn_eq_substitute (hm : m.Inert) (order : List Token) {t : Text} (h : ¬t.Entangled) :
    m.expandIn order t = m.substitute order t := by
  have hpieces : ∀ p ∈ Text.splitOn '$' t, '$' ∉ p := fun p hp => Text.not_mem_of_mem_splitOn hp
  have hrounds := splitOn_expandIn hm order (Text.apart_of_not_entangled h)
  have hjoin := substitute_join m order _ hpieces
  rw [Text.join_splitOn, ← hrounds, Text.join_splitOn] at hjoin
  exact hjoin.symm

/-- In which order the tokens are listed makes no difference to a substitution. -/
theorem substitute_perm {order : List Token} (h : order.Perm tokens) (t : Text) :
    m.substitute order t = m.substitute tokens t := by
  have hpieces : ∀ p ∈ Text.splitOn '$' t, '$' ∉ p := fun p hp => Text.not_mem_of_mem_splitOn hp
  have hvalues : m.valueOf? order = m.valueOf? tokens := funext (valueOf?_perm h)
  rw [← Text.join_splitOn '$' t, substitute_join m order _ hpieces,
    substitute_join m tokens _ hpieces, hvalues]

end Mapping

theorem Token.inert_defaultValue (token : Token) : token.defaultValue.Inert := by
  have hparts : ∀ token ∈ Token.all, ∀ other ∈ Token.all,
      ¬token.defaultValue <:+: other.name := by decide +kernel
  constructor
  · cases token <;> decide
  · intro other
    exact hparts token token.mem_all other other.mem_all

/-- Under a mapping with inert values, as all defaults are, expansion leaves no placeholder in a
text. Unless placeholders are entangled in the text, it is the one-pass substitution, and so is
expansion in any other order of the tokens. -/
theorem Mapping.expand_eq_substitute :
    (∀ token : Token, token.defaultValue.Inert) ∧
      ∀ {m : Mapping}, m.Inert → ∀ t : Text,
        (∀ token : Token, ¬token.placeholder <:+: m.expand t) ∧
        (¬t.Entangled → m.expand t = m.substitute Token.all t ∧
          ∀ order : List Token, order.Perm Token.all →
            m.expandIn order t = m.substitute Token.all t) := by
  refine ⟨Token.inert_defaultValue, fun {m} hm t => ⟨?_, ?_⟩⟩
  · intro token hinfix
    rw [expand_eq_expandIn] at hinfix
    have hmem := of_name_mem_inner_expandIn hm (Text.name_mem_inner hinfix)
    exact hmem.2 token.mem_all
  · intro hfree
    refine ⟨expandIn_eq_substitute hm Token.all hfree, ?_⟩
    intro order hperm
    rw [expandIn_eq_substitute hm order hfree, substitute_perm hperm]

/-- A text with a price, a token and a name that is no token. -/
def noticeText : Text := "$5 for $queue_table_name$, $rows$"

theorem Mapping.expand_eq_substitute_notice :
    default.Inert ∧ ¬noticeText.Entangled ∧
      default.expand noticeText = default.substitute Token.all noticeText ∧
      default.expand noticeText = "$5 for sk_tasks_queue_t, $rows$" := by
  have hinert : default.Inert := Mapping.expand_eq_substitute.1
  have hfree : ¬noticeText.Entangled := by
    -- the text is shorter than two entangled placeholders
    rintro ⟨a, b, hinfix⟩
    have hname : ∀ token : Token, 16 ≤ token.name.length := by
      intro token
      cases token <;> decide
    have hlength : ('$' :: a.name ++ '$' :: b.name ++ ['$']).length ≤ 33 := hinfix.length_le
    have ha := hname a
    have hb := hname b
    simp only [List.length_append, List.length_cons, List.length_nil] at hlength
    omega
  have hsubstitute := ((Mapping.expand_eq_substitute.2 hinert noticeText).2 hfree).1
  refine ⟨hinert, hfree, hsubstitute, ?_⟩
  rw [hsubstitute]
  decide +kernel

end SchemaCompiler
