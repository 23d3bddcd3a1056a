import Mathlib.Data.List.Nodup
import SchemaCompiler.Proofs.Search.Found

namespace SchemaCompiler.Glob

/-! # Paths that are found once

A search can find a path more than once. It takes two components that stand for more or fewer steps
in turn: a double star, or a pattern that starts with a dot and matches the single one. All others
are rigid (`Glob.IsRigid`): they always make the same number of steps, so paths that differ stay
different behind them. Main statement: `Glob.apart_follow`, a search with at most one component that
is not rigid finds no path twice.
-/

variable {tree : FileTree} {working : Place}

/-! ## Paths with different steps -/

/-- No two of the paths make the same steps. -/
def Apart (paths : List Text) : Prop := (paths.map Path.steps).Nodup

/-- The paths make `n` steps behind the given ones, no two of them the same. -/
structure Spread (n : Nat) (steps : List Path.Component) (paths : List Text) : Prop where
  behind : ∀ path ∈ paths, ∃ more, more.length = n ∧ Path.steps path = steps ++ more
  apart : Apart paths

/-- Different paths stay different if each is followed by the same number of steps. -/
theorem Apart.flatMap {paths : List Text} (h : Apart paths) {n : Nat} {next : Text → List Text}
    (hnext : ∀ path ∈ paths, Spread n (Path.steps path) (next path)) :
    Apart (paths.flatMap next) := by
  rw [Apart, List.Nodup, List.pairwise_map] at h ⊢
  refine List.pairwise_flatMap.2 ⟨fun path hpath => ?_, ?_⟩
  · exact List.pairwise_map.1 (hnext path hpath).apart
  · refine h.imp_of_mem fun {a b} ha hb hab x hx y hy hxy => ?_
    obtain ⟨more, hmore, hx⟩ := (hnext a ha).behind x hx
    obtain ⟨other, hother, hy⟩ := (hnext b hb).behind y hy
    rw [hx, hy] at hxy
    exact hab (List.append_inj_left' hxy (hmore.trans hother.symm))

theorem Spread.flatMap {paths : List Text} {m n : Nat} {steps : List Path.Component}
    (h : Spread m steps paths) {next : Text → List Text}
    (hnext : ∀ path ∈ paths, Spread n (Path.steps path) (next path)) :
    Spread (m + n) steps (paths.flatMap next) := by
  refine ⟨fun found hfound => ?_, h.apart.flatMap hnext⟩
  obtain ⟨path, hpath, hfound⟩ := List.mem_flatMap.1 hfound
  obtain ⟨more, hmore, hsteps⟩ := h.behind path hpath
  obtain ⟨other, hother, hfound⟩ := (hnext path hpath).behind found hfound
  refine ⟨more ++ other, by rw [List.length_append, hmore, hother], ?_⟩
  rw [hfound, hsteps, List.append_assoc]

/-- Paths behind different steps of one number are different, however they go on. -/
theorem Spread.flatMap_apart {paths : List Text} {n : Nat} {steps : List Path.Component}
    (h : Spread n steps paths) {next : Text → List Text}
    (hbehind : ∀ path, ∀ found ∈ next path, Path.steps path <+: Path.steps found)
    (hnext : ∀ path ∈ paths, Apart (next path)) : Apart (paths.flatMap next) := by
  have hapart := h.apart
  rw [Apart, List.Nodup, List.pairwise_map] at hapart ⊢
  refine List.pairwise_flatMap.2 ⟨fun path hpath => List.pairwise_map.1 (hnext path hpath), ?_⟩
  refine hapart.imp_of_mem fun {a b} ha hb hab x hx y hy hxy => ?_
  obtain ⟨more, hmore, ha⟩ := h.behind a ha
  obtain ⟨other, hother, hb⟩ := h.behind b hb
  have hxstarts := hbehind a x hx
  have hystarts := hbehind b y hy
  rw [hxy] at hxstarts
  have hlength : (Path.steps a).length = (Path.steps b).length := by
    rw [ha, hb, List.length_append, List.length_append, hmore, hother]
  have hstarts := List.prefix_of_prefix_length_le hxstarts hystarts (Nat.le_of_eq hlength)
  exact hab (hstarts.eq_of_length hlength)

/-! ## One component -/

theorem nodup_below (path : Text) : (below tree working path).Nodup := by
  rw [below]
  split
  · exact List.nodup_nil
  · rename_i place hplace
    refine (List.mergeSort_perm _ _).nodup_iff.2 (tree.entries.nodup_keys.filterMap ?_)
    intro a b way ha hb
    rw [Option.mem_ite_none_right] at ha hb
    obtain ⟨⟨ha, -⟩, hway⟩ := ha
    obtain ⟨⟨hb, -⟩, hway'⟩ := hb
    obtain ⟨more, rfl⟩ := List.isPrefixOf_iff_prefix.1 ha
    obtain ⟨other, rfl⟩ := List.isPrefixOf_iff_prefix.1 hb
    rw [List.drop_left, Option.mem_some_iff] at hway hway'
    rw [hway, hway']

/-- Ways below a directory lead to different places. -/
theorem apart_ways (hnamed : tree.Named) (path : Text) {ways : List (List Text)}
    (hways : ways.Sublist (below tree working path)) :
    Apart (ways.map fun way => inside path (Text.join ['/'] way)) := by
  rw [Apart, List.map_map]
  refine ((nodup_below path).sublist hways).map_on fun a ha b hb hab => ?_
  have hsteps {way : List Text} (hway : way ∈ ways) :
      Path.steps (inside path (Text.join ['/'] way)) = Path.steps path ++ way.map .name := by
    obtain ⟨hne, hnames⟩ := names_of_mem_below hnamed (hways.subset hway)
    rw [steps_inside path (isAbsolute_way hne hnames), steps_way hne hnames]
  rw [Function.comp_apply, Function.comp_apply, hsteps ha, hsteps hb] at hab
  exact List.map_injective_iff.2 (fun _ _ => Path.Component.name.inj) (List.append_cancel_left hab)

theorem steps_entry (hnamed : tree.Named) {path name : Text}
    (h : [name] ∈ below tree working path) :
    Path.steps (inside path name) = Path.steps path ++ [.name name] := by
  obtain ⟨hne, hnames⟩ := names_of_mem_below hnamed h
  have hsteps : Path.steps name = [.name name] := steps_way hne hnames
  have hrelative : Path.isAbsolute name = false := isAbsolute_way hne hnames
  rw [steps_inside path hrelative, hsteps]

theorem apart_dotPaths (pattern : Pattern) (path : Text) : Apart (dotPaths pattern path) := by
  rw [Apart, List.Nodup, List.pairwise_map, dotPaths]
  split
  · refine List.Pairwise.sublist (List.filter_sublist.map _) ?_
    rw [List.map_cons, List.map_cons, List.map_nil, List.pairwise_pair, Path.steps_join path rfl,
      Path.steps_join path rfl]
    intro h
    cases List.append_cancel_left h
  · exact .nil

theorem apart_entries (hnamed : tree.Named) (pattern : Pattern) (path : Text) :
    Apart ((below tree working path).filterMap (entryPath? pattern path)) := by
  rw [Apart, List.Nodup, List.pairwise_map]
  refine List.pairwise_filterMap.2 ((nodup_below path).imp_of_mem ?_)
  intro a b ha hb hab x hx y hy hxy
  obtain ⟨name, rfl, -, rfl⟩ := entryPath?_eq_some hx
  obtain ⟨other, rfl, -, rfl⟩ := entryPath?_eq_some hy
  rw [steps_entry hnamed ha, steps_entry hnamed hb] at hxy
  cases List.append_cancel_left hxy
  exact hab rfl

/-- A component leads to different places: its text, or dots and names. -/
theorem apart_step (hnamed : tree.Named) (pattern : Pattern) (path : Text) :
    Apart (follow.step tree working pattern path) := by
  cases hliteral : pattern.literalText? with
  | some name =>
      rw [follow.step, hliteral]
      dsimp only
      generalize (if name = ['.'] ∨ name = ['.', '.'] then tree.isDirectory working path
        else tree.exists? working (inside path name)) = isThere
      cases isThere
      · exact List.nodup_nil
      · exact List.nodup_singleton _
  | none =>
      rw [step_eq hliteral]
      cases tree.isDirectory working path with
      | false => exact List.nodup_nil
      | true =>
          rw [if_pos rfl, Apart, List.map_append]
          refine List.nodup_append.2
            ⟨apart_dotPaths pattern path, apart_entries hnamed pattern path, ?_⟩
          -- the last step is a name for entries, and none for dots
          intro x hx y hy hxy
          obtain ⟨dotPath, hdotPath, rfl⟩ := List.mem_map.1 hx
          obtain ⟨entryPath, hentryPath, rfl⟩ := List.mem_map.1 hy
          obtain ⟨dots, hdots, -, -, rfl⟩ := mem_dotPaths hdotPath
          obtain ⟨way, hway, hentry⟩ := List.mem_filterMap.1 hentryPath
          obtain ⟨name, rfl, -, rfl⟩ := entryPath?_eq_some hentry
          rw [steps_entry hnamed hway] at hxy
          rcases hdots with rfl | rfl
          · rw [Path.steps_join path rfl] at hxy
            cases List.append_cancel_left hxy
          · rw [Path.steps_join path rfl] at hxy
            cases List.append_cancel_left hxy

/-- The component always makes the same number of steps. -/
def IsRigid (pattern : Pattern) : Prop :=
  isRecursive pattern = false ∧
    (pattern.literalText? = none → pattern.head? = some (.literal '.') →
      pattern.matchesName ['.'] = false)

theorem spread_step (hnamed : tree.Named) {pattern : Pattern} (h : IsRigid pattern)
    (hrelative : ∀ name, pattern.literalText? = some name → Path.isAbsolute name = false) :
    ∃ n, ∀ path, Spread n (Path.steps path) (follow.step tree working pattern path) := by
  have hcount : ∃ n, ∀ path, ∀ found ∈ follow.step tree working pattern path,
      ∃ more, more.length = n ∧ Path.steps found = Path.steps path ++ more := by
    cases hliteral : pattern.literalText? with
    | some name =>
        refine ⟨(Path.steps name).length, fun path found hfound => ⟨Path.steps name, rfl, ?_⟩⟩
        rcases step_cases hfound with ⟨other, hother, rfl⟩ | ⟨hnone, -⟩
        · rw [hliteral, Option.some.injEq] at hother
          rw [← hother, steps_inside path (hrelative name hliteral)]
        · rw [hliteral] at hnone
          cases hnone
    | none =>
        refine ⟨1, fun path found hfound => ?_⟩
        rcases step_cases hfound with ⟨other, hother, -⟩ |
          ⟨-, ⟨dots, hdots, hhead, hmatch, rfl⟩ | ⟨name, hway, -, rfl⟩⟩
        · rw [hliteral] at hother
          cases hother
        · rcases hdots with rfl | rfl
          · exact ⟨[.parent], rfl, Path.steps_join path rfl⟩
          · rw [h.2 hliteral hhead] at hmatch
            cases hmatch
        · exact ⟨[.name name], rfl, steps_entry hnamed hway⟩
  obtain ⟨n, hn⟩ := hcount
  exact ⟨n, fun path => ⟨hn path, apart_step hnamed pattern path⟩⟩

/-! ## All components -/

theorem spread_follow (hnamed : tree.Named) {patterns : List Pattern}
    (h : ∀ pattern ∈ patterns, IsRigid pattern) (hrelative : Relative patterns) :
    ∃ n, ∀ path, Spread n (Path.steps path) (follow tree working patterns path) := by
  induction patterns with
  | nil =>
      refine ⟨0, fun path => ⟨fun found hfound => ⟨[], rfl, ?_⟩, List.nodup_singleton _⟩⟩
      rw [List.mem_singleton.1 hfound, List.append_nil]
  | cons pattern rest ih =>
      obtain ⟨hpattern, hrest⟩ := List.forall_mem_cons.1 h
      obtain ⟨hfirst, hothers⟩ := List.forall_mem_cons.1 hrelative
      obtain ⟨m, hm⟩ := spread_step hnamed hpattern hfirst
      obtain ⟨n, hn⟩ := ih hrest hothers
      refine ⟨m + n, fun path => ?_⟩
      rw [follow_cons hpattern.1]
      exact (hm path).flatMap fun next _ => hn next

theorem follow_append {front : List Pattern} (h : ∀ pattern ∈ front, isRecursive pattern = false)
    (back : List Pattern) (path : Text) : follow tree working (front ++ back) path =
      (follow tree working front path).flatMap (follow tree working back) := by
  induction front generalizing path with
  | nil => exact (List.append_nil _).symm
  | cons pattern rest ih =>
      obtain ⟨hpattern, hrest⟩ := List.forall_mem_cons.1 h
      rw [List.cons_append, follow_cons hpattern, follow_cons hpattern, List.flatMap_assoc,
        funext (ih hrest)]

theorem steps_starts_of_follow (hnamed : tree.Named) {patterns : List Pattern}
    (hrelative : Relative patterns) {path found : Text}
    (h : found ∈ follow tree working patterns path) : Path.steps path <+: Path.steps found := by
  have hlasting : Lasting fun other => Path.steps path <+: Path.steps other := by
    refine ⟨fun before part hbefore hpart => ?_, fun before part hbefore hhere hpart => ?_⟩
    · rw [Path.steps_join before hpart]
      exact hbefore.trans (List.prefix_append _ _)
    · rw [isHere, decide_eq_true_iff] at hhere
      rw [← Path.filter_components before, hhere] at hbefore
      exact hbefore.trans List.nil_prefix
  exact lasting_follow hlasting hnamed patterns hrelative path (List.prefix_refl _) found h

/-- Behind a double star each way down is taken once. -/
theorem apart_follow_recursive (hnamed : tree.Named) {pattern : Pattern}
    (h : isRecursive pattern = true) {back : List Pattern} (hback : ∀ p ∈ back, IsRigid p)
    (hrelative : Relative back) (path : Text) :
    Apart (follow tree working (pattern :: back) path) := by
  cases back with
  | nil =>
      rw [follow, if_pos h]
      exact (apart_ways hnamed path (List.Sublist.refl _)).sublist (List.filter_sublist.map _)
  | cons next others =>
      obtain ⟨hnext, hothers⟩ := List.forall_mem_cons.1 hback
      obtain ⟨n, hn⟩ := spread_follow hnamed hothers (List.forall_mem_cons.1 hrelative).2
      rw [follow, if_pos h, if_neg (by simp [hnext.1]), ← List.flatMap_map]
      exact (apart_ways hnamed path List.filter_sublist).flatMap fun next _ => hn next

theorem apart_follow_middle (hnamed : tree.Named) {middle back : List Pattern}
    (hmiddle : middle.length ≤ 1 ∨ ∀ pattern ∈ middle, isRecursive pattern = true)
    (hback : ∀ pattern ∈ back, IsRigid pattern) (hrelative : Relative back) (path : Text) :
    Apart (follow tree working (middle ++ back) path) := by
  obtain ⟨n, hn⟩ := spread_follow hnamed hback hrelative
  induction middle with
  | nil => exact (hn path).apart
  | cons pattern rest ih =>
      cases rest with
      | nil =>
          cases hrecursive : isRecursive pattern with
          | true => exact apart_follow_recursive hnamed hrecursive hback hrelative path
          | false =>
              rw [List.singleton_append, follow_cons hrecursive]
              exact (apart_step hnamed pattern path).flatMap fun next _ => hn next
      | cons next others =>
          -- of double stars in a row only the last one counts
          have hall := hmiddle.resolve_left (by simp)
          obtain ⟨hpattern, hrest⟩ := List.forall_mem_cons.1 hall
          rw [List.cons_append, List.cons_append, follow, if_pos hpattern,
            if_pos (hrest next List.mem_cons_self)]
          exact ih (.inr hrest) hn

/-- All components are rigid, but for a single one or some double stars in a row. -/
structure Unambiguous (patterns front middle back : List Pattern) : Prop where
  eq_append : patterns = front ++ (middle ++ back)
  front : ∀ pattern ∈ front, IsRigid pattern
  middle : middle.length ≤ 1 ∨ ∀ pattern ∈ middle, isRecursive pattern = true
  back : ∀ pattern ∈ back, IsRigid pattern

/-- A search with at most one component that is not rigid finds no path twice. -/
theorem apart_follow (hnamed : tree.Named) {patterns front middle back : List Pattern}
    (h : Unambiguous patterns front middle back) (hrelative : Relative patterns) (path : Text) :
    Apart (follow tree working patterns path) := by
  obtain ⟨rfl, hfront, hmiddle, hback⟩ := h
  obtain ⟨hfirst, hrest⟩ := List.forall_mem_append.1 hrelative
  obtain ⟨-, hlast⟩ := List.forall_mem_append.1 hrest
  obtain ⟨n, hn⟩ := spread_follow hnamed hfront hfirst
  rw [follow_append fun pattern hpattern => (hfront pattern hpattern).1]
  exact (hn path).flatMap_apart (fun _ _ => steps_starts_of_follow hnamed hrest)
    fun next _ => apart_follow_middle hnamed hmiddle hback hlast next

/-! ## Searches -/

theorem isRigid_exact (t : Text) : IsRigid (Pattern.exact t) := by
  refine ⟨Pattern.isRecursive_exact t, fun hliteral _ => ?_⟩
  rw [← Bool.not_eq_true, Pattern.matchesName_exact]
  rintro rfl
  cases hliteral

/-- The parts of a directory add no component that is not rigid. -/
theorem Unambiguous.exact_append {patterns front middle back : List Pattern}
    (h : Unambiguous patterns front middle back) (ts : List Text) :
    Unambiguous (ts.map Pattern.exact ++ patterns) (ts.map Pattern.exact ++ front) middle back := by
  refine ⟨by rw [h.eq_append, List.append_assoc], ?_, h.middle, h.back⟩
  refine List.forall_mem_append.2 ⟨fun pattern hpattern => ?_, h.front⟩
  obtain ⟨t, -, rfl⟩ := List.mem_map.1 hpattern
  exact isRigid_exact t

/-- A search from a directory finds no file twice if its pattern is unambiguous. -/
theorem apart_of_search (hnamed : tree.Named) {directory pattern : Text} {found : List Text}
    (h : search tree working (Path.join (Pattern.escape directory) pattern) = .ok found)
    {patterns front middle back : List Pattern}
    (hpatterns : (parts pattern).mapM Pattern.parse = .ok patterns)
    (hunambiguous : Unambiguous patterns front middle back) :
    Apart (found.filter (tree.isFile working)) := by
  have hfiles : found.filter (tree.isFile working) = [] ∨ Apart found := by
    cases habsolute : Path.isAbsolute pattern with
    | true =>
        rw [Path.join_of_isAbsolute _ habsolute] at h
        rcases follow_of_search h with hnone | ⟨others, hothers, hfound⟩
        · exact .inl (List.filter_eq_nil_iff.2 fun file hfile => by simp [hnone file hfile])
        · cases hpatterns.symm.trans hothers
          have hrelative := relative_of_parse (fun t => not_mem_of_mem_parts) hpatterns
          exact .inr (hfound ▸ apart_follow hnamed hunambiguous hrelative _)
    | false =>
        rcases follow_of_search_from habsolute h with hnone | ⟨others, hothers, hrelative, hfound⟩
        · exact .inl (List.filter_eq_nil_iff.2 fun file hfile => by simp [hnone file hfile])
        · rw [parts, habsolute, if_neg Bool.false_ne_true] at hpatterns
          cases hpatterns.symm.trans hothers
          exact .inr (hfound ▸ apart_follow hnamed (hunambiguous.exact_append _) hrelative _)
  rcases hfiles with hnil | hapart
  · rw [hnil]
    exact List.nodup_nil
  · exact hapart.sublist (List.filter_sublist.map _)

end SchemaCompiler.Glob
