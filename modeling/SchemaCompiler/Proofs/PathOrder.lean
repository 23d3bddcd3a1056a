import SchemaCompiler.Proofs.Search.Found

namespace SchemaCompiler.Path

/-! # The order of paths

Texts are ordered by their characters, components by their kind and text, and paths by their
components, each of them the order of a dictionary. So paths are ordered totally
(`Path.noLater_trans`, `Path.noLater_total`), and sorted paths with different components are in
strict order (`Path.pairwise_before_iff`).
-/

/-! ## Comparisons -/

theorem compareText_eq (a b : Text) : compareText a b = compare a b := by
  induction a generalizing b with
  | nil => cases b <;> rfl
  | cons c cs ih =>
      cases b with
      | nil => rfl
      | cons d ds =>
          have hcons : compare (c :: cs) (d :: ds) = (compare c d).then (compare cs ds) := by
            change List.compareLex compare (c :: cs) (d :: ds) = _
            rw [List.compareLex]
            cases compare c d <;> rfl
          have hcompare : compare c d = if c < d then .lt else if c = d then .eq else .gt := rfl
          rw [compareText, hcons, ← ih, hcompare]
          by_cases hlt : c < d
          · rw [if_pos hlt, if_pos hlt]
            rfl
          · by_cases hgt : d < c
            · have hne : c ≠ d := fun heq => hlt (heq ▸ hgt)
              rw [if_neg hlt, if_pos hgt, if_neg hlt, if_neg hne]
              rfl
            · have heq : c = d := Char.le_antisymm (Char.not_lt.1 hgt) (Char.not_lt.1 hlt)
              rw [if_neg hlt, if_neg hgt, if_neg hlt, if_pos heq]
              rfl

theorem Component.compare_eq (a b : Component) : a.compare b =
    compareLex (compareOn Component.compare.rank) (compareOn FileTree.spelling) a b := by
  cases a <;> cases b <;> first | rfl | exact compareText_eq _ _

instance : Std.TransCmp Component.compare := by
  rw [funext fun a => funext (Component.compare_eq a)]
  infer_instance

instance : Std.LawfulEqCmp Component.compare where
  eq_of_compare {a b} h := by
    cases a <;> cases b
    case name.name a b =>
      rw [Component.compare, compareText_eq] at h
      rw [Std.LawfulEqCmp.eq_of_compare h]
    all_goals first | rfl | cases h

theorem compareComponents_eq (a b : List Component) :
    compareComponents a b = List.compareLex Component.compare a b := by
  induction a generalizing b with
  | nil => cases b <;> rfl
  | cons c cs ih =>
      cases b with
      | nil => rfl
      | cons d ds =>
          rw [compareComponents, List.compareLex, ih]
          cases c.compare d <;> rfl

/-! ## Orders -/

/-- A list of components comes no later than another. -/
def noLater (a b : List Component) : Bool := compareComponents a b != .gt

theorem noLater_eq (a b : List Component) :
    noLater a b = (List.compareLex Component.compare a b).isLE := by
  rw [noLater, compareComponents_eq]
  cases List.compareLex Component.compare a b <;> rfl

theorem noLater_trans {a b c : List Component} (hab : noLater a b = true)
    (hbc : noLater b c = true) : noLater a c = true := by
  rw [noLater_eq] at hab hbc ⊢
  exact Std.TransCmp.isLE_trans hab hbc

theorem noLater_total (a b : List Component) : (noLater a b || noLater b a) = true := by
  have hswap : List.compareLex Component.compare a b =
      (List.compareLex Component.compare b a).swap := Std.OrientedCmp.eq_swap
  rw [noLater_eq, noLater_eq, hswap]
  cases List.compareLex Component.compare b a <;> rfl

theorem noLater_antisymm {a b : List Component} (hab : noLater a b = true)
    (hba : noLater b a = true) : a = b := by
  rw [noLater_eq] at hab hba
  exact Std.LawfulEqCmp.eq_of_compare (Std.OrientedCmp.isLE_antisymm hab hba)

/-- A path comes before another. -/
def Before (a b : Text) : Prop := compareComponents (components a) (components b) = .lt

theorem before_iff {a b : Text} :
    Before a b ↔ le a b = true ∧ components a ≠ components b := by
  have hne : components a ≠ components b ↔
      compareComponents (components a) (components b) ≠ .eq := by
    rw [compareComponents_eq, Ne, Ne, Std.LawfulEqCmp.compare_eq_iff_eq]
  rw [hne, Before, le]
  cases compareComponents (components a) (components b) <;> decide

/-- Sorting puts no path ahead of one that comes before it. -/
theorem pairwise_mergeSort (paths : List Text) :
    (paths.mergeSort le).Pairwise fun a b => le a b = true :=
  @List.pairwise_mergeSort Text le (fun _ _ _ hab hbc => noLater_trans hab hbc)
    (fun _ _ => noLater_total _ _) paths

/-- Sorted paths are in strict order exactly if no two have the same components. -/
theorem pairwise_before_iff {paths : List Text} (h : paths.Pairwise fun a b => le a b = true) :
    paths.Pairwise Before ↔ (paths.map components).Nodup := by
  rw [List.Nodup, List.pairwise_map]
  constructor
  · exact fun hbefore => hbefore.imp fun hab => (before_iff.1 hab).2
  · exact fun hne => (h.and hne).imp fun hab => before_iff.2 hab

end SchemaCompiler.Path

namespace SchemaCompiler.Glob

/-- The order of a walk does not depend on the order in which the ways are given. -/
theorem mergeSort_isWalkedBy {ways others : List (List Text)} (h : ways.Perm others) :
    ways.mergeSort isWalkedBy = others.mergeSort isWalkedBy := by
  have hsorted (ways : List (List Text)) :
      (ways.mergeSort isWalkedBy).Pairwise fun a b => isWalkedBy a b = true :=
    @List.pairwise_mergeSort (List Text) isWalkedBy
      (fun _ _ _ hab hbc => Path.noLater_trans hab hbc) (fun _ _ => Path.noLater_total _ _) ways
  have hperm := ((List.mergeSort_perm ways isWalkedBy).trans h).trans
    (List.mergeSort_perm others isWalkedBy).symm
  refine List.Perm.eq_of_pairwise (fun a b _ _ hab hba => ?_) (hsorted ways) (hsorted others) hperm
  exact List.map_injective_iff.2 (fun _ _ => Path.Component.name.inj)
    (Path.noLater_antisymm hab hba)

end SchemaCompiler.Glob
