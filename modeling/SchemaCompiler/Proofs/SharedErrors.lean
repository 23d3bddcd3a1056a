import Mathlib.Data.List.Basic
import SchemaCompiler.Error.Sharing
import SchemaCompiler.Proofs.OrderedMap

namespace SchemaCompiler

/-! # Context on shared errors

A program makes errors, clones them, exchanges them, goes to their roots and adds context, and so
decides which links are shared. Links point backwards (`ErrorPool.Ordered`), at first and behind
each step, so the chain of an error is found by going from cause to cause. Main statements:

* `ErrorPool.ordered_run`: links point backwards behind every program;
* `ErrorPool.holders_le_one_iff`: the latest error has one holder exactly if no other held error
  reaches its link;
* `ErrorPool.addContext_of_run`: whatever the program before it, context adds its words in front,
  keeps root and categories, passes its own category on only if it is a single link that nobody else
  reaches, and changes no other error.
-/

/-- A step of a program on held errors. -/
inductive ErrorStep where
  | push (fault : Fault)
  | duplicate
  | swap
  | takeRoot
  | addContext
  deriving DecidableEq, Repr

/-- What a step makes of the errors held. -/
def ErrorStep.apply : ErrorStep → ErrorPool → ErrorPool
  | push fault, pool => pool.push fault
  | duplicate, pool => pool.duplicate
  | swap, pool => pool.swap
  | takeRoot, pool => pool.takeRoot
  | addContext, pool => pool.addContext

namespace ErrorPool

/-- The errors held behind a program that starts with none. -/
def run (steps : List ErrorStep) : ErrorPool := steps.foldl (fun pool step => step.apply pool) empty

/-- The link that a link points to. -/
def causeOf (pool : ErrorPool) (link : Nat) : Option Nat := (pool.links[link]?).bind ErrorLink.cause

/-- Links point backwards, and what is held is a link. -/
structure Ordered (pool : ErrorPool) : Prop where
  cause_lt : ∀ link cause, pool.causeOf link = some cause → cause < link
  held_lt : ∀ link ∈ pool.held, link < pool.links.length

/-- The links that the held errors reach. -/
def reached (pool : ErrorPool) : List Nat :=
  (OrderedSet.ofList (pool.held.flatMap pool.chain)).elems

/-- One of some errors reaches the link. -/
def ReachedBy (pool : ErrorPool) (errors : List Nat) (link : Nat) : Prop :=
  ∃ error ∈ errors, link ∈ pool.chain error

variable {pool : ErrorPool}

/-! ## Chains -/

/-- Any number above that of the link is fuel enough. -/
theorem chainUpTo_of_lt (h : pool.Ordered) (fuel fuel' link : Nat) (hfuel : link < fuel)
    (hfuel' : link < fuel') : pool.chainUpTo fuel link = pool.chainUpTo fuel' link := by
  induction fuel generalizing fuel' link with
  | zero => omega
  | succ fuel ih =>
      obtain ⟨fuel', rfl⟩ : ∃ n, fuel' = n + 1 := ⟨fuel' - 1, by omega⟩
      unfold chainUpTo
      rcases hcause : (pool.links[link]?).bind ErrorLink.cause with _ | cause
      · rfl
      · -- the cause comes before the link, so it has fuel enough on both sides
        have hlt : cause < link := h.cause_lt link cause hcause
        have ih' := ih fuel' cause (by omega) (by omega)
        simp only [ih']

/-- A chain goes on with the chain of the cause. -/
theorem chain_eq (h : pool.Ordered) (link : Nat) :
    pool.chain link = link :: (pool.causeOf link).elim [] pool.chain := by
  have hstep : pool.chain link =
      link :: (pool.causeOf link).elim [] (pool.chainUpTo link) := by
    unfold chain causeOf
    rw [chainUpTo]
    cases (pool.links[link]?).bind ErrorLink.cause <;> rfl
  rw [hstep]
  rcases hcause : pool.causeOf link with _ | cause
  · rfl
  · have hlt : cause < link := h.cause_lt link cause hcause
    exact congrArg (link :: ·) (chainUpTo_of_lt h link (cause + 1) cause hlt (by omega))

theorem chain_of_root (h : pool.Ordered) {link : Nat} (hcause : pool.causeOf link = none) :
    pool.chain link = [link] := by
  rw [chain_eq h, hcause]
  rfl

theorem chain_of_cause (h : pool.Ordered) {link cause : Nat}
    (hcause : pool.causeOf link = some cause) : pool.chain link = link :: pool.chain cause := by
  rw [chain_eq h, hcause]
  rfl

theorem mem_chain_self (h : pool.Ordered) (link : Nat) : link ∈ pool.chain link := by
  rw [chain_eq h]
  exact List.mem_cons_self

theorem le_of_mem_chain (h : pool.Ordered) {n link : Nat} (hn : n ∈ pool.chain link) :
    n ≤ link := by
  induction link using Nat.strongRecOn with
  | ind link ih =>
      rcases hcause : pool.causeOf link with _ | cause
      · rw [chain_of_root h hcause, List.mem_singleton] at hn
        omega
      · rw [chain_of_cause h hcause, List.mem_cons] at hn
        have hlt : cause < link := h.cause_lt link cause hcause
        rcases hn with rfl | hn
        · exact Nat.le_refl n
        · have hle : n ≤ cause := ih cause hlt hn
          omega

/-- What an error reaches is its first link and the causes of what it reaches. -/
theorem mem_chain_iff (h : pool.Ordered) {n link : Nat} :
    n ∈ pool.chain link ↔ n = link ∨ ∃ m ∈ pool.chain link, pool.causeOf m = some n := by
  induction link using Nat.strongRecOn with
  | ind link ih =>
      rcases hcause : pool.causeOf link with _ | cause
      · rw [chain_of_root h hcause, List.mem_singleton]
        constructor
        · exact .inl
        · rintro (hn | ⟨m, hm, hmn⟩)
          · exact hn
          · rw [List.mem_singleton.1 hm, hcause] at hmn
            cases hmn
      · have ih' := ih cause (h.cause_lt link cause hcause)
        rw [chain_of_cause h hcause, List.mem_cons, ih']
        constructor
        · rintro (hn | rfl | ⟨m, hm, hmn⟩)
          · exact .inl hn
          · exact .inr ⟨link, List.mem_cons_self, hcause⟩
          · exact .inr ⟨m, List.mem_cons_of_mem _ hm, hmn⟩
        · rintro (hn | ⟨m, hm, hmn⟩)
          · exact .inl hn
          · rcases List.mem_cons.1 hm with rfl | hm
            · rw [hcause] at hmn
              exact .inr (.inl (Option.some.inj hmn).symm)
            · exact .inr (.inr ⟨m, hm, hmn⟩)

/-! ## Pools that agree on the links of an error -/

section

variable {other : ErrorPool} {link : Nat}

theorem chainUpTo_congr (h : pool.Ordered) (fuel : Nat)
    (hlinks : ∀ n ≤ link, other.links[n]? = pool.links[n]?) :
    other.chainUpTo fuel link = pool.chainUpTo fuel link := by
  induction fuel generalizing link with
  | zero => rfl
  | succ fuel ih =>
      unfold chainUpTo
      rw [hlinks link (Nat.le_refl link)]
      rcases hcause : (pool.links[link]?).bind ErrorLink.cause with _ | cause
      · rfl
      · have hlt : cause < link := h.cause_lt link cause hcause
        have ih' : other.chainUpTo fuel cause = pool.chainUpTo fuel cause :=
          ih fun n hn => hlinks n (by omega)
        simp only [ih']

/-- A chain depends on no later link. -/
theorem chain_congr (h : pool.Ordered) (hlinks : ∀ n ≤ link, other.links[n]? = pool.links[n]?) :
    other.chain link = pool.chain link :=
  chainUpTo_congr h (link + 1) hlinks

theorem faults_congr (h : pool.Ordered) (hlinks : ∀ n ≤ link, other.links[n]? = pool.links[n]?) :
    other.faults link = pool.faults link := by
  unfold faults
  rw [chain_congr h hlinks]
  apply List.filterMap_congr
  intro n hn
  rw [hlinks n (le_of_mem_chain h hn)]

theorem toError_congr (h : pool.Ordered) (hlinks : ∀ n ≤ link, other.links[n]? = pool.links[n]?) :
    other.toError link = pool.toError link := by
  unfold toError
  rw [faults_congr h hlinks]

theorem rootOf_congr (h : pool.Ordered) (hlinks : ∀ n ≤ link, other.links[n]? = pool.links[n]?) :
    other.rootOf link = pool.rootOf link := by
  unfold rootOf
  rw [chain_congr h hlinks]

end

/-! ## Faults -/

/-- An error starts with the fault of its first link. -/
theorem faults_eq (h : pool.Ordered) {link : Nat} {fault : Fault} {cause : Option Nat}
    (hlink : pool.links[link]? = some ⟨fault, cause⟩) :
    pool.faults link = fault :: cause.elim [] pool.faults := by
  have hcause : pool.causeOf link = cause := by
    unfold causeOf
    rw [hlink]
    rfl
  unfold faults
  rw [chain_eq h, hcause, List.filterMap_cons, hlink]
  cases cause <;> rfl

/-- The links of an error are the ones that its chain leads to. -/
theorem faults_toError (h : pool.Ordered) {link : Nat} (hlt : link < pool.links.length) :
    (pool.toError link).faults = pool.faults link := by
  have hfaults := faults_eq h (List.getElem?_eq_getElem hlt)
  unfold toError
  rw [hfaults]
  rfl

/-! ## Steps -/

/-- A new link that points backwards keeps all links in order, whatever is held beside it. -/
theorem Ordered.hold (h : pool.Ordered) {held : List Nat} (hheld : ∀ link ∈ held, link ∈ pool.held)
    (link : ErrorLink) (hcause : ∀ cause, link.cause = some cause → cause < pool.links.length) :
    (ErrorPool.hold { pool with held := held } link).Ordered := by
  constructor
  · intro n cause hn
    have hn : ((pool.links ++ [link])[n]?).bind ErrorLink.cause = some cause := hn
    rw [List.getElem?_append] at hn
    split at hn
    · exact h.cause_lt n cause hn
    · -- only the new link is left, which points to one of the others
      rename_i hlt
      rcases hnew : n - pool.links.length with _ | k
      · have hlink : link.cause = some cause := by simpa [hnew] using hn
        have hbound := hcause cause hlink
        omega
      · simp [hnew] at hn
  · intro n hn
    have hlength : (ErrorPool.hold { pool with held := held } link).links.length =
        pool.links.length + 1 := by simp [ErrorPool.hold]
    rw [hlength]
    rcases List.mem_cons.1 hn with rfl | hn
    · exact Nat.lt_succ_self _
    · have hlt := h.held_lt n (hheld n hn)
      omega

/-- Holding fewer errors, or parts of them, keeps all links in order. -/
theorem Ordered.reheld (h : pool.Ordered) {held : List Nat}
    (hheld : ∀ link ∈ held, ∃ error ∈ pool.held, link ≤ error) :
    ({ pool with held := held } : ErrorPool).Ordered := by
  refine ⟨h.cause_lt, ?_⟩
  intro link hlink
  obtain ⟨error, herror, hle⟩ := hheld link hlink
  have hlt := h.held_lt error herror
  exact Nat.lt_of_le_of_lt hle hlt

theorem rootOf_mem_chain (h : pool.Ordered) (link : Nat) : pool.rootOf link ∈ pool.chain link := by
  unfold rootOf
  rcases hlast : (pool.chain link).getLast? with _ | root
  · rw [List.getLast?_eq_none_iff] at hlast
    have hmem := mem_chain_self h link
    rw [hlast] at hmem
    cases hmem
  · exact List.mem_of_getLast? hlast

theorem Ordered.apply (h : pool.Ordered) (step : ErrorStep) : (step.apply pool).Ordered := by
  cases step with
  | push fault =>
      refine h.hold (fun _ hlink => hlink) ⟨fault, none⟩ ?_
      intro cause hcause
      cases hcause
  | duplicate =>
      show pool.duplicate.Ordered
      unfold duplicate
      split
      · exact h
      · rename_i top rest hheld
        apply h.reheld
        intro link hlink
        rw [hheld]
        rcases List.mem_cons.1 hlink with rfl | hlink
        · exact ⟨link, List.mem_cons_self, Nat.le_refl link⟩
        · exact ⟨link, hlink, Nat.le_refl link⟩
  | swap =>
      show pool.swap.Ordered
      unfold swap
      split
      · rename_i a b rest hheld
        apply h.reheld
        intro link hlink
        refine ⟨link, ?_, Nat.le_refl link⟩
        rw [hheld]
        simp only [List.mem_cons] at hlink ⊢
        tauto
      · exact h
  | takeRoot =>
      show pool.takeRoot.Ordered
      unfold takeRoot
      split
      · exact h
      · rename_i top rest hheld
        apply h.reheld
        intro link hlink
        rw [hheld]
        rcases List.mem_cons.1 hlink with rfl | hlink
        · exact ⟨top, List.mem_cons_self, le_of_mem_chain h (rootOf_mem_chain h top)⟩
        · exact ⟨link, List.mem_cons_of_mem _ hlink, Nat.le_refl link⟩
  | addContext =>
      show pool.addContext.Ordered
      unfold addContext
      split
      · rename_i context error rest hheld
        apply h.hold
        · intro link hlink
          rw [hheld]
          exact List.mem_cons_of_mem _ (List.mem_cons_of_mem _ hlink)
        · rintro cause ⟨rfl⟩
          apply h.held_lt
          rw [hheld]
          exact List.mem_cons_of_mem _ List.mem_cons_self
      · exact h

/-- Behind every program, links point backwards. -/
theorem ordered_run (steps : List ErrorStep) : (run steps).Ordered := by
  have hempty : empty.Ordered := by
    constructor
    · intro link cause hcause
      cases hcause
    · intro link hlink
      cases hlink
  have hsteps : ∀ pool : ErrorPool, pool.Ordered →
      (steps.foldl (fun pool step => step.apply pool) pool).Ordered := by
    induction steps with
    | nil => exact fun pool h => h
    | cons step steps ih =>
        intro pool h
        rw [List.foldl_cons]
        exact ih _ (h.apply step)
  exact hsteps empty hempty

/-! ## Holders -/

theorem mem_reached_iff {n : Nat} : n ∈ pool.reached ↔ pool.ReachedBy pool.held n := by
  unfold reached ReachedBy
  rw [OrderedSet.mem_ofList, List.mem_flatMap]

theorem holders_eq (link : Nat) : pool.holders link =
    pool.held.count link + (pool.reached.filter fun n => pool.causeOf n = some link).length := rfl

/-- The latest error has a single holder exactly if no other held error reaches its link. -/
theorem holders_le_one_iff (h : pool.Ordered) {context : Nat} {others : List Nat}
    (hheld : pool.held = context :: others) :
    pool.holders context ≤ 1 ↔ ¬pool.ReachedBy others context := by
  have hcount : pool.held.count context = others.count context + 1 := by
    rw [hheld, List.count_cons_self]
  rw [holders_eq, hcount]
  constructor
  · rintro hle ⟨other, hother, hmem⟩
    rcases (mem_chain_iff h).1 hmem with rfl | ⟨n, hn, hcause⟩
    · -- held a second time
      have hpos : 0 < others.count context := List.count_pos_iff.2 hother
      omega
    · -- a link in the chain of the other error points to it
      have hother : other ∈ pool.held := by
        rw [hheld]
        exact List.mem_cons_of_mem _ hother
      have hfound : n ∈ pool.reached.filter fun n => pool.causeOf n = some context := by
        rw [List.mem_filter, mem_reached_iff]
        exact ⟨⟨other, hother, hn⟩, decide_eq_true hcause⟩
      have hpos := List.length_pos_of_mem hfound
      omega
  · intro hnot
    have hzero : others.count context = 0 := by
      rw [List.count_eq_zero]
      intro hmem
      exact hnot ⟨context, hmem, mem_chain_self h context⟩
    have hnil : (pool.reached.filter fun n => pool.causeOf n = some context) = [] := by
      rw [List.filter_eq_nil_iff]
      intro n hn hcause
      rw [decide_eq_true_eq] at hcause
      obtain ⟨error, herror, hmem⟩ := mem_reached_iff.1 hn
      rw [hheld] at herror
      rcases List.mem_cons.1 herror with rfl | herror
      · -- no link of its own chain comes behind it
        have hle := le_of_mem_chain h hmem
        have hlt := h.cause_lt n error hcause
        omega
      · exact hnot ⟨error, herror, (mem_chain_iff h).2 (.inr ⟨n, hmem, hcause⟩)⟩
    rw [hzero, hnil]
    exact Nat.le_refl 1

/-! ## Context -/

section

variable {context error : Nat} {others : List Nat}

/-- Whatever link context becomes, its words are those of the context. -/
theorem message_contextFault (h : pool.Ordered) :
    (pool.contextFault context).message = (pool.toError context).display := by
  unfold contextFault
  split
  · rename_i fault hlink
    split
    · have hlt : context < pool.links.length := (List.getElem?_eq_some_iff.1 hlink).1
      have hfaults : (pool.toError context).faults = [fault] := by
        rw [faults_toError h hlt, faults_eq h hlink]
        rfl
      unfold Error.display
      rw [hfaults]
      rfl
    · rfl
  · rfl

/-- Context has a category as a link only if it is a single link that nobody else reaches. -/
theorem category?_contextFault (h : pool.Ordered) (hheld : pool.held = context :: others)
    (category : Category) : (pool.contextFault context).category? = some category ↔
      ¬pool.ReachedBy others context ∧
        ∃ fault, pool.links[context]? = some ⟨fault, none⟩ ∧ fault.category? = some category := by
  have hholders := holders_le_one_iff h hheld
  unfold contextFault
  split
  · rename_i fault hlink
    rw [hlink]
    by_cases hsingle : pool.holders context ≤ 1
    · rw [if_pos hsingle]
      constructor
      · intro hcategory
        exact ⟨hholders.1 hsingle, fault, rfl, hcategory⟩
      · rintro ⟨-, _, ⟨rfl⟩, hcategory⟩
        exact hcategory
    · rw [if_neg hsingle]
      constructor
      · intro hcategory
        cases hcategory
      · rintro ⟨hnot, -⟩
        exact absurd (hholders.2 hnot) hsingle
  · rename_i hchain
    constructor
    · intro hcategory
      cases hcategory
    · rintro ⟨-, fault, hlink, -⟩
      exact absurd hlink (hchain fault)

theorem addContext_eq (hheld : pool.held = context :: error :: others) :
    pool.addContext =
      ErrorPool.hold { pool with held := others } ⟨pool.contextFault context, some error⟩ := by
  unfold addContext
  rw [hheld]

/-- Context leaves all links that there are as they are. -/
theorem links_addContext (hheld : pool.held = context :: error :: others) {n : Nat}
    (hlt : n < pool.links.length) : pool.addContext.links[n]? = pool.links[n]? := by
  rw [addContext_eq hheld]
  exact List.getElem?_append_left hlt

/-- With context, an error has one link more, in front of its own ones. -/
theorem faults_addContext (h : pool.Ordered) (hheld : pool.held = context :: error :: others) :
    (pool.addContext.toError pool.links.length).faults =
      pool.contextFault context :: (pool.toError error).faults := by
  have hafter : pool.addContext.Ordered := h.apply .addContext
  have hnew : pool.addContext.links[pool.links.length]? =
      some ⟨pool.contextFault context, some error⟩ := by
    rw [addContext_eq hheld]
    exact List.getElem?_concat_length
  have hnewlt := (List.getElem?_eq_some_iff.1 hnew).1
  have hlt : error < pool.links.length := by
    apply h.held_lt
    rw [hheld]
    exact List.mem_cons_of_mem _ List.mem_cons_self
  have hold : pool.addContext.faults error = pool.faults error :=
    faults_congr h fun n hn => links_addContext hheld (Nat.lt_of_le_of_lt hn hlt)
  rw [faults_toError hafter hnewlt, faults_eq hafter hnew, faults_toError h hlt]
  exact congrArg _ hold

/-- With context, an error has the root that it had. -/
theorem rootOf_addContext (h : pool.Ordered) (hheld : pool.held = context :: error :: others) :
    pool.addContext.rootOf pool.links.length = pool.rootOf error := by
  have hafter : pool.addContext.Ordered := h.apply .addContext
  have hcause : pool.addContext.causeOf pool.links.length = some error := by
    unfold causeOf
    rw [addContext_eq hheld]
    show ((pool.links ++ [_])[pool.links.length]?).bind ErrorLink.cause = some error
    rw [List.getElem?_concat_length]
    rfl
  have hlt : error < pool.links.length := by
    apply h.held_lt
    rw [hheld]
    exact List.mem_cons_of_mem _ List.mem_cons_self
  have hold : pool.addContext.chain error = pool.chain error :=
    chain_congr h fun n hn => links_addContext hheld (Nat.lt_of_le_of_lt hn hlt)
  unfold rootOf
  rw [chain_of_cause hafter hcause, hold, chain_eq h error, List.getLast?_cons_cons]
  rcases hlast : (error :: (pool.causeOf error).elim [] pool.chain).getLast? with _ | root
  · cases List.getLast?_eq_none_iff.1 hlast
  · rfl

end

/-- What adding context to an error does, where the context, the error and others were held. -/
structure ContextAdded (before after : ErrorPool) (context error : Nat) (others : List Nat)
    (result : Nat) : Prop where
  held : after.held = result :: others
  display : (after.toError result).display =
    (before.toError context).display ++ ": " ++ (before.toError error).display
  root : after.toError (after.rootOf result) = before.toError (before.rootOf error)
  keeps : ∀ category, (before.toError error).is category = true →
    (after.toError result).is category = true
  adds : ∀ category, (before.toError context).is category = true →
    (before.toError error).is category = false →
    ((after.toError result).is category = true ↔
      ¬before.ReachedBy (error :: others) context ∧
        ∃ fault, before.links[context]? = some ⟨fault, none⟩ ∧ fault.category? = some category)
  unchanged : ∀ other ∈ error :: others, ∀ link ∈ before.chain other,
    after.toError link = before.toError link ∧ after.rootOf link = before.rootOf link

/-- In every program, context comes in front of the words of an error and leaves it its root and its
categories. It adds a category of its own only as a single link that no other held error reaches,
and changes none of the other errors. -/
theorem addContext_of_run (steps : List ErrorStep) (context error : Nat) (others : List Nat)
    (hheld : (run steps).held = context :: error :: others) :
    ContextAdded (run steps) (run (steps ++ [.addContext])) context error others
      (run steps).links.length := by
  have hstep : run (steps ++ [.addContext]) = (run steps).addContext := by
    unfold run
    rw [List.foldl_append]
    rfl
  have h : (run steps).Ordered := ordered_run steps
  rw [hstep]
  generalize run steps = pool at hheld h
  have hheldlt : ∀ link ∈ error :: others, link < pool.links.length := by
    intro link hlink
    apply h.held_lt
    rw [hheld]
    exact List.mem_cons_of_mem _ hlink
  have hfaults := faults_addContext h hheld
  have hunchanged : ∀ link < pool.links.length, ∀ n ≤ link,
      pool.addContext.links[n]? = pool.links[n]? := by
    intro link hlink n hn
    exact links_addContext hheld (Nat.lt_of_le_of_lt hn hlink)
  refine ⟨?_, ?_, ?_, ?_, ?_, ?_⟩
  · rw [addContext_eq hheld]
    rfl
  · have hmessage : (pool.contextFault context).message = (pool.toError context).display :=
      message_contextFault h
    unfold Error.display at hmessage ⊢
    rw [hfaults, ← hmessage]
    rfl
  · have hroot : pool.rootOf error ≤ error := le_of_mem_chain h (rootOf_mem_chain h error)
    have herror : error < pool.links.length := hheldlt error List.mem_cons_self
    rw [rootOf_addContext h hheld]
    exact toError_congr h (hunchanged _ (by omega))
  · intro category his
    unfold Error.is at his ⊢
    rw [hfaults, List.any_cons, his, Bool.or_true]
  · intro category _ hnot
    unfold Error.is at hnot ⊢
    rw [hfaults, List.any_cons, hnot, Bool.or_false, decide_eq_true_eq]
    exact category?_contextFault h hheld category
  · intro other hother link hlink
    have hle : link ≤ other := le_of_mem_chain h hlink
    have hlt : other < pool.links.length := hheldlt other hother
    have hlinks := hunchanged link (by omega)
    exact ⟨toError_congr h hlinks, rootOf_congr h hlinks⟩

/-- Context that is cloned before it is added. -/
theorem addContext_of_run_cloned :
    (run [.push (.output "html"), .duplicate, .push (.definition .blankName), .swap]).held =
        [0, 1, 0] ∧
      ContextAdded (run [.push (.output "html"), .duplicate, .push (.definition .blankName), .swap])
        (run [.push (.output "html"), .duplicate, .push (.definition .blankName), .swap,
          .addContext]) 0 1 [0] 2 :=
  ⟨rfl, addContext_of_run
    [.push (.output "html"), .duplicate, .push (.definition .blankName), .swap] 0 1 [0] rfl⟩

/-- The clone keeps the category of the context from the result. -/
example : ((run [.push (.output "html"), .duplicate, .push (.definition .blankName), .swap,
    .addContext]).toError 2).category? = some .definition := by decide

end ErrorPool

end SchemaCompiler
