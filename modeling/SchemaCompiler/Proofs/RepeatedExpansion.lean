import SchemaCompiler.Proofs.Substitution

namespace SchemaCompiler

/-! # Expansion of what is expanded

Every token has one turn in an expansion, and a token whose turn is over is not looked for again. So
a replacement may complete the placeholder of such a token out of the text around it, and a second
expansion will find it. If no value holds a dollar sign, that is the only thing that a second
expansion can change: a round removes dollar signs exactly if there is a placeholder for it
(`Mapping.length_splitOn_expandIn_lt`), and otherwise it changes nothing
(`Mapping.expandIn_eq_self_iff`). Main statement: `Mapping.expand_expand`.
-/

/-! ## Rounds with and without a placeholder -/

section

variable {value? : Text → Option Text} {pieces : List Text}

theorem length_settle_le (value? : Text → Option Text) (pieces : List Text) :
    (settle value? pieces).length ≤ pieces.length := by
  induction pieces using settle.induct value? with
  | case1 before name after rest value hvalue ih =>
      rw [settle_cons_of_some hvalue, List.length_modifyHead]
      simp only [List.length_cons] at ih ⊢
      omega
  | case2 before name after rest hnone ih =>
      rw [settle_cons_of_none hnone]
      simpa using ih
  | case3 pieces hshort =>
      exact Nat.le_of_eq (congrArg List.length (settle_of_short hshort))

/-- An inner piece with a value is merged with its neighbours. -/
theorem length_settle_lt {name : Text} (hmem : name ∈ inner pieces) (hname : value? name ≠ none) :
    (settle value? pieces).length < pieces.length := by
  induction pieces using settle.induct value? with
  | case1 before name' after rest value hvalue ih =>
      have hle := length_settle_le value? (after :: rest)
      rw [settle_cons_of_some hvalue, List.length_modifyHead]
      simp only [List.length_cons] at hle ⊢
      omega
  | case2 before name' after rest hnone ih =>
      -- the piece with a value is not this one, so it stands further behind
      have hlater : name ∈ inner (name' :: after :: rest) := by
        rcases List.mem_cons.1 hmem with rfl | hlater
        · exact absurd hnone hname
        · exact hlater
      have hlt := ih hlater
      rw [settle_cons_of_none hnone]
      simp only [List.length_cons] at hlt ⊢
      omega
  | case3 pieces hshort =>
      obtain ⟨before, name', after, rest, hpieces⟩ := exists_of_mem_inner hmem
      exact absurd hpieces (hshort before name' after rest)

end

namespace Mapping

variable {m : Mapping} {order : List Token} {t : Text}

theorem length_splitOn_expandIn_le (hm : m.DollarFree) (order : List Token) (t : Text) :
    (Text.splitOn '$' (m.expandIn order t)).length ≤ (Text.splitOn '$' t).length := by
  induction order generalizing t with
  | nil => exact Nat.le_refl _
  | cons first order ih =>
      have hround := length_settle_le (m.valueOf? [first]) (Text.splitOn '$' t)
      rw [← splitOn_replaceAll hm] at hround
      exact Nat.le_trans (ih _) hround

/-- Rounds of which one finds its placeholder in the text leave fewer dollar signs. -/
theorem length_splitOn_expandIn_lt (hm : m.DollarFree) {token : Token} (hmem : token ∈ order)
    (h : token.placeholder <:+: t) :
    (Text.splitOn '$' (m.expandIn order t)).length < (Text.splitOn '$' t).length := by
  induction order with
  | nil => cases hmem
  | cons first order ih =>
      by_cases hfirst : first.placeholder <:+: t
      · have hvalue : m.valueOf? [first] first.name ≠ none := by
          rw [valueOf?_name (List.mem_singleton_self first)]
          exact Option.some_ne_none _
        have hround := length_settle_lt (Text.placeholder_infix_iff.1 hfirst) hvalue
        rw [← splitOn_replaceAll hm] at hround
        exact Nat.lt_of_le_of_lt (length_splitOn_expandIn_le hm order _) hround
      · -- the first round changes nothing, so it is a later one that finds its placeholder
        rw [expandIn_cons, replaceAll_eq_self hfirst]
        rcases List.mem_cons.1 hmem with rfl | hlater
        · exact absurd h hfirst
        · exact ih hlater

/-- Rounds change a text exactly if one of them finds its placeholder in it. -/
theorem expandIn_eq_self_iff (hm : m.DollarFree) :
    m.expandIn order t = t ↔ ∀ token ∈ order, ¬token.placeholder <:+: t := by
  constructor
  · intro hself token hmem hinfix
    have hlt := length_splitOn_expandIn_lt hm hmem hinfix
    rw [hself] at hlt
    exact Nat.lt_irrefl _ hlt
  · intro hnone
    induction order with
    | nil => rfl
    | cons first order ih =>
        have hfirst := hnone first List.mem_cons_self
        rw [expandIn_cons, replaceAll_eq_self hfirst]
        exact ih fun token hmem => hnone token (List.mem_cons_of_mem first hmem)

end Mapping

/-! ## Turns -/

namespace Token

/-- The tokens whose turn does not come ahead of this one's. -/
def fromHereOn (token : Token) : List Token := all.dropWhile (· ≠ token)

theorem mem_fromHereOn {token later : Token} {front back : List Token}
    (hall : all = front ++ later :: back) (h : token ∉ back) : later ∈ token.fromHereOn := by
  have hmem : token ∈ front ++ later :: back := hall ▸ token.mem_all
  rw [fromHereOn, hall]
  clear hall
  induction front with
  | nil =>
      obtain rfl : token = later := (List.mem_cons.1 hmem).resolve_right h
      simp
  | cons first front ih =>
      by_cases hfirst : first = token
      · simp [hfirst]
      · have hrest : token ∈ front ++ later :: back :=
          (List.mem_cons.1 hmem).resolve_left (Ne.symm hfirst)
        rw [List.cons_append, List.dropWhile_cons_of_pos (by simpa using hfirst)]
        exact ih hrest

end Token

namespace Mapping

/-- The text as the turn of a token finds it. -/
def before (m : Mapping) (token : Token) (t : Text) : Text :=
  m.expandIn (Token.all.takeWhile (· ≠ token)) t

theorem before_eq (m : Mapping) {token : Token} {front back : List Token}
    (hall : Token.all = front ++ token :: back) (t : Text) :
    m.before token t = m.expandIn front t := by
  have hnodup : (front ++ token :: back).Nodup := hall ▸ (by decide : Token.all.Nodup)
  have hfront : ∀ other ∈ front, decide (other ≠ token) = true := by
    intro other hother
    have hne := (List.nodup_append.1 hnodup).2.2 other hother token List.mem_cons_self
    simpa using hne
  rw [before, hall, List.takeWhile_append_of_pos hfront]
  simp

/-- Expansion by values without dollar signs has nothing to do a second time exactly if it has left
no placeholder. A placeholder that it has left was completed in the turn of its token or later: a
placeholder was replaced then by a value that is a part of the token's name. Nothing is left, whatever
the text, if no value is a part of the name of its own token or of one ahead of it. -/
theorem expand_expand {m : Mapping} (hm : m.DollarFree) (t : Text) :
    (m.expand (m.expand t) = m.expand t ↔ ∀ token : Token, ¬token.placeholder <:+: m.expand t) ∧
      (∀ token : Token, token.placeholder <:+: m.expand t →
        ∃ later ∈ token.fromHereOn, later.placeholder <:+: m.before later t ∧
          m.value later <:+: token.name) ∧
      ((∀ token : Token, ∀ later ∈ token.fromHereOn, ¬m.value later <:+: token.name) →
        m.expand (m.expand t) = m.expand t) := by
  have hagain : m.expand (m.expand t) = m.expand t ↔
      ∀ token : Token, ¬token.placeholder <:+: m.expand t := by
    rw [expand_eq_expandIn m (m.expand t), expandIn_eq_self_iff hm]
    exact forall_congr' fun token => imp_iff_right token.mem_all
  have hcompleted : ∀ token : Token, token.placeholder <:+: m.expand t →
      ∃ later ∈ token.fromHereOn, later.placeholder <:+: m.before later t ∧
        m.value later <:+: token.name := by
    intro token hinfix
    rw [expand_eq_expandIn] at hinfix
    obtain ⟨-, hnot⟩ | ⟨front, later, back, hall, hback, hplaceholder, hvalue⟩ :=
      name_mem_inner_expandIn_cases hm (Text.placeholder_infix_iff.1 hinfix)
    · exact absurd token.mem_all hnot
    · refine ⟨later, Token.mem_fromHereOn hall hback, ?_, hvalue⟩
      rw [before_eq m hall]
      exact hplaceholder
  refine ⟨hagain, hcompleted, ?_⟩
  intro hparts
  rw [hagain]
  intro token hinfix
  obtain ⟨later, hlater, -, hvalue⟩ := hcompleted token hinfix
  exact hparts token later hlater hvalue

/-- A mapping that gives one token a single letter. -/
def letterMapping : Mapping := default.assign .metricsTable "e"

theorem dollarFree_letterMapping : letterMapping.DollarFree := by
  intro token
  cases token <;> decide

/-- A text in which a replacement puts a letter between dollar signs and completes no placeholder. -/
def queuesText : Text := "$queu$metrics_table_name$s$ of $queue_table_name$"

theorem expand_expand_queues :
    letterMapping.DollarFree ∧
      letterMapping.expand queuesText = "$queues$ of sk_tasks_queue_t" ∧
      letterMapping.expand (letterMapping.expand queuesText) = letterMapping.expand queuesText := by
  have hexpand : letterMapping.expand queuesText = "$queues$ of sk_tasks_queue_t" := by
    decide +kernel
  refine ⟨dollarFree_letterMapping, hexpand, ?_⟩
  rw [(expand_expand dollarFree_letterMapping queuesText).1, hexpand]
  have hnone : ∀ token ∈ Token.all,
      ¬token.placeholder <:+: ("$queues$ of sk_tasks_queue_t" : Text) := by decide +kernel
  exact fun token => hnone token token.mem_all

/-- A placeholder in the middle of which another one stands in for a letter. -/
def interruptedText : Text := "$queu$metrics_table_name$_table_name$"

/-- With values free of dollar signs, an expansion can leave a placeholder for the next one: the turn
of the queue table is over when the letter completes its placeholder. -/
theorem expand_completes_placeholder :
    letterMapping.DollarFree ∧ letterMapping.expand interruptedText = "$queue_table_name$" ∧
      letterMapping.expand (letterMapping.expand interruptedText) = "sk_tasks_queue_t" ∧
      ¬∀ (m : Mapping) (t : Text), m.DollarFree → m.expand (m.expand t) = m.expand t := by
  have honce : letterMapping.expand interruptedText = "$queue_table_name$" := by decide +kernel
  have htwice : letterMapping.expand (letterMapping.expand interruptedText) =
      "sk_tasks_queue_t" := by
    rw [honce]
    decide +kernel
  refine ⟨dollarFree_letterMapping, honce, htwice, ?_⟩
  intro hidempotent
  have hsame := hidempotent letterMapping interruptedText dollarFree_letterMapping
  rw [htwice, honce] at hsame
  exact absurd hsame (by decide)

end Mapping

end SchemaCompiler
