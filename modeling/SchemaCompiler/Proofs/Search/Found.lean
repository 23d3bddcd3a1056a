import SchemaCompiler.Proofs.Search.Patterns

namespace SchemaCompiler

/-! # Where searches lead

A search goes through the parts of its pattern. What is put behind a path by a part lasts through
the later ones (`Glob.lasting_follow`), so every path is found behind the one where the search
started. An escaped directory leads one way (`Glob.follow_exact`); a search from it finds files
behind its steps (`Glob.behind_of_search`). A search fails for its pattern or for a directory that
cannot be listed (`Glob.cases_of_search_eq_error`).
-/

namespace Glob

/-! ## Parts of patterns -/

theorem pieces_append_slash (a b : Text) :
    pieces (a ++ '/' :: b) = Text.splitOn '/' a ++ pieces b := by
  have hne := Text.splitOn_ne_nil '/' b
  simp only [pieces, Text.splitOn_append_sep, List.getLast?_append_of_ne_nil _ hne]
  split
  · exact List.dropLast_append_of_ne_nil hne
  · rfl

theorem pieces_escape (t : Text) : pieces (Pattern.escape t) = (pieces t).map Pattern.escape := by
  have hlast : ((Text.splitOn '/' t).map Pattern.escape).getLast? = some [] ↔
      (Text.splitOn '/' t).getLast? = some [] := by
    rw [List.getLast?_map, Option.map_eq_some_iff]
    simp [Pattern.escape_eq_nil_iff]
  simp only [pieces, Pattern.splitOn_escape, hlast]
  split
  · exact List.map_dropLast.symm
  · rfl

/-- The last piece is empty only behind a slash. -/
theorem getLast?_splitOn {t : Text} (hne : t ≠ []) (h : t.getLast? ≠ some '/') :
    (Text.splitOn '/' t).getLast? ≠ some [] := by
  induction t with
  | nil => exact absurd rfl hne
  | cons c cs ih =>
      cases cs with
      | nil =>
          have hslash : c ≠ '/' := fun hc => h (congrArg some hc)
          simp [Text.splitOn, hslash]
      | cons d ds =>
          rw [List.getLast?_cons_cons] at h
          have hlast := ih (List.cons_ne_nil d ds) h
          obtain ⟨p, ps, hpieces⟩ := List.exists_cons_of_ne_nil (Text.splitOn_ne_nil '/' (d :: ds))
          rw [hpieces] at hlast
          rw [Text.splitOn, hpieces]
          split
          · rwa [List.getLast?_cons_cons]
          · rw [List.modifyHead_cons]
            cases ps with
            | nil => simp
            | cons q qs =>
                rw [List.getLast?_cons_cons] at hlast ⊢
                exact hlast

/-- A path seen from a base has its pieces behind those of the base. -/
theorem pieces_join (base : Text) {path : Text} (h : Path.isAbsolute path = false) :
    pieces (Path.join base path) = pieces base ++ pieces path := by
  rw [Path.join_of_relative base h]
  split
  · rename_i hbase
    rcases hbase with rfl | hslash
    · rfl
    · obtain ⟨front, rfl⟩ := List.getLast?_eq_some_iff.1 hslash
      have hfront := pieces_append_slash front []
      rw [List.append_assoc, List.singleton_append, pieces_append_slash, hfront]
      rw [show pieces [] = [] from rfl, List.append_nil]
  · rename_i hbase
    rw [not_or] at hbase
    rw [List.append_assoc, List.singleton_append, pieces_append_slash]
    simp only [pieces, if_neg (getLast?_splitOn hbase.1 hbase.2)]

theorem parts_join (base : Text) {path : Text} (h : Path.isAbsolute path = false) :
    parts (Path.join base path) = parts base ++ pieces path := by
  rw [parts, parts, Path.isAbsolute_join base h]
  split
  · rename_i habsolute
    rw [Path.isAbsolute, decide_eq_true_iff] at habsolute
    obtain ⟨rest, rfl⟩ := List.head?_eq_some_iff.1 habsolute
    rw [Path.join_slash rest h]
    exact pieces_join rest h
  · exact pieces_join base h

end Glob

namespace FileTree

/-- The entries of the tree are under names: no dots, no slashes, nothing empty. -/
def Named (tree : FileTree) : Prop :=
  ∀ place ∈ tree.entries.keys, ∀ name ∈ place, isNoName name = false ∧ '/' ∉ name

instance (tree : FileTree) : Decidable tree.Named :=
  inferInstanceAs (Decidable (∀ place ∈ tree.entries.keys, ∀ name ∈ place, _ ∧ _))

end FileTree

namespace Glob

variable {tree : FileTree} {working : Place}

/-! ## Found paths -/

/-- The names on a way below a directory. -/
theorem names_of_mem_below (hnamed : tree.Named) {path : Text} {way : List Text}
    (h : way ∈ below tree working path) :
    way ≠ [] ∧ ∀ name ∈ way, FileTree.isNoName name = false ∧ '/' ∉ name := by
  rw [below] at h
  split at h
  · cases h
  · rename_i place hplace
    rw [List.mem_mergeSort, List.mem_filterMap] at h
    obtain ⟨other, hother, hway⟩ := h
    split at hway
    · rename_i hbehind
      cases hway
      obtain ⟨behind, rfl⟩ := List.isPrefixOf_iff_prefix.1 hbehind.1
      rw [List.drop_left]
      refine ⟨?_, fun name hname => hnamed _ hother name (List.mem_append_right _ hname)⟩
      rintro rfl
      exact hbehind.2 (List.append_nil place)
    · cases hway

/-- Names make the steps of the path that they are joined to. -/
theorem splitOn_way {way : List Text} (hne : way ≠ [])
    (h : ∀ name ∈ way, FileTree.isNoName name = false ∧ '/' ∉ name) :
    Text.splitOn '/' (Text.join ['/'] way) = way :=
  Text.splitOn_join hne fun name hname => (h name hname).2

theorem steps_way {way : List Text} (hne : way ≠ [])
    (h : ∀ name ∈ way, FileTree.isNoName name = false ∧ '/' ∉ name) :
    Path.steps (Text.join ['/'] way) = way.map .name := by
  have hcomponent : ∀ name ∈ way, Path.component? name = (some ∘ Path.Component.name) name := by
    intro name hname
    have hno := (h name hname).1
    rw [FileTree.isNoName, Bool.or_eq_false_iff, decide_eq_false_iff_not] at hno
    rw [Path.component?, if_neg (by simp [hno.1]), if_neg hno.2]
    rfl
  rw [Path.steps, splitOn_way hne h, List.filterMap_congr hcomponent, List.filterMap_eq_map]

theorem isAbsolute_way {way : List Text} (hne : way ≠ [])
    (h : ∀ name ∈ way, FileTree.isNoName name = false ∧ '/' ∉ name) :
    Path.isAbsolute (Text.join ['/'] way) = false := by
  rw [← Bool.not_eq_true]
  intro habsolute
  have hway := splitOn_way hne h
  rw [Path.splitOn_of_isAbsolute habsolute] at hway
  have hempty := (h [] (by rw [← hway]; exact List.mem_cons_self)).1
  exact absurd hempty (by decide)

/-- A component other than a double star is followed on its own. -/
theorem follow_cons {pattern : Pattern} (h : isRecursive pattern = false) (rest : List Pattern)
    (path : Text) : follow tree working (pattern :: rest) path =
      (follow.step tree working pattern path).flatMap (follow tree working rest) := by
  cases rest with
  | nil =>
      rw [follow, if_neg (by simp [h])]
      exact (List.flatMap_singleton' _).symm
  | cons next rest => rw [follow, if_neg (by simp [h])]

theorem steps_inside (path : Text) {part : Text} (h : Path.isAbsolute part = false) :
    Path.steps (inside path part) = Path.steps path ++ Path.steps part := by
  rw [inside]
  split
  · rename_i hhere
    rw [isHere, decide_eq_true_iff] at hhere
    rw [← Path.filter_components path, hhere]
    rfl
  · exact Path.steps_join path h

/-- A property of paths that lasts as long as parts are put behind them. -/
structure Lasting (P : Text → Prop) : Prop where
  join : ∀ path part, P path → Path.isAbsolute part = false → P (Path.join path part)
  here : ∀ path part, P path → isHere path = true → Path.isAbsolute part = false → P part

theorem Lasting.inside {P : Text → Prop} (h : Lasting P) {path part : Text} (hpath : P path)
    (hpart : Path.isAbsolute part = false) : P (inside path part) := by
  rw [Glob.inside]
  split
  · rename_i hhere
    exact h.here path part hpath hhere hpart
  · exact h.join path part hpath hpart

/-- The texts that the patterns spell stand behind other paths. -/
def Relative (patterns : List Pattern) : Prop :=
  ∀ pattern ∈ patterns, ∀ name, pattern.literalText? = some name → Path.isAbsolute name = false

/-- The paths of the dots that match a component. -/
def dotPaths (pattern : Pattern) (path : Text) : List Text :=
  if pattern.head? = some (.literal '.') then
    ([['.', '.'], ['.']].filter fun name => pattern.matchesName name).map (Path.join path)
  else []

/-- The path that a way leads to, if it is that of an entry that matches a component. -/
def entryPath? (pattern : Pattern) (path : Text) : List Text → Option Text
  | [name] => if pattern.matchesName name then some (inside path name) else none
  | _ => none

/-- A component with wildcards leads out of a directory to dots and entries. -/
theorem step_eq {pattern : Pattern} (h : pattern.literalText? = none) (path : Text) :
    follow.step tree working pattern path =
      if tree.isDirectory working path then
        dotPaths pattern path ++ (below tree working path).filterMap (entryPath? pattern path)
      else [] := by
  rw [follow.step, h]
  rfl

theorem mem_dotPaths {pattern : Pattern} {path found : Text} (h : found ∈ dotPaths pattern path) :
    ∃ dots, (dots = ['.', '.'] ∨ dots = ['.']) ∧ pattern.head? = some (.literal '.') ∧
      pattern.matchesName dots = true ∧ found = Path.join path dots := by
  rw [dotPaths, List.mem_ite_nil_right] at h
  obtain ⟨hhead, h⟩ := h
  obtain ⟨dots, hdots, rfl⟩ := List.mem_map.1 h
  obtain ⟨hdots, hmatch⟩ := List.mem_filter.1 hdots
  exact ⟨dots, List.mem_pair.1 hdots, hhead, hmatch, rfl⟩

theorem entryPath?_eq_some {pattern : Pattern} {path found : Text} {way : List Text}
    (h : entryPath? pattern path way = some found) :
    ∃ name, way = [name] ∧ pattern.matchesName name = true ∧ found = inside path name := by
  rw [entryPath?.eq_def] at h
  split at h
  · rename_i name
    rw [Option.ite_none_right_eq_some] at h
    exact ⟨name, rfl, h.1, (Option.some.inj h.2).symm⟩
  · cases h

/-- A component leads to the text that it spells, or to dots and names that match it. -/
theorem step_cases {pattern : Pattern} {path found : Text}
    (h : found ∈ follow.step tree working pattern path) :
    (∃ name, pattern.literalText? = some name ∧ found = inside path name) ∨
      pattern.literalText? = none ∧
        ((∃ dots, (dots = ['.', '.'] ∨ dots = ['.']) ∧ pattern.head? = some (.literal '.') ∧
            pattern.matchesName dots = true ∧ found = Path.join path dots) ∨
          ∃ name, [name] ∈ below tree working path ∧ pattern.matchesName name = true ∧
            found = inside path name) := by
  cases hliteral : pattern.literalText? with
  | some name =>
      rw [follow.step, hliteral] at h
      dsimp only at h
      rw [List.mem_ite_nil_right, List.mem_singleton] at h
      exact .inl ⟨name, rfl, h.2⟩
  | none =>
      rw [step_eq hliteral, List.mem_ite_nil_right, List.mem_append] at h
      refine .inr ⟨rfl, h.2.imp mem_dotPaths fun h => ?_⟩
      obtain ⟨way, hway, h⟩ := List.mem_filterMap.1 h
      obtain ⟨name, rfl, hmatch, hfound⟩ := entryPath?_eq_some h
      exact ⟨name, hway, hmatch, hfound⟩

theorem lasting_step {P : Text → Prop} (hlasting : Lasting P) (hnamed : tree.Named)
    {pattern : Pattern}
    (hpattern : ∀ name, pattern.literalText? = some name → Path.isAbsolute name = false)
    {path : Text} (hpath : P path) : ∀ found ∈ follow.step tree working pattern path, P found := by
  intro found hfound
  rcases step_cases hfound with ⟨name, hname, rfl⟩ |
    ⟨-, ⟨dots, hdots, -, -, rfl⟩ | ⟨name, hway, -, rfl⟩⟩
  · exact hlasting.inside hpath (hpattern name hname)
  · refine hlasting.join path dots hpath ?_
    rcases hdots with rfl | rfl <;> rfl
  · have hslash := ((names_of_mem_below hnamed hway).2 name List.mem_cons_self).2
    exact hlasting.inside hpath (Path.isAbsolute_of_not_mem hslash)

/-- What lasts holds for every path that patterns lead to. -/
theorem lasting_follow {P : Text → Prop} (hlasting : Lasting P) (hnamed : tree.Named)
    (patterns : List Pattern) (hpatterns : Relative patterns) (path : Text) (hpath : P path) :
    ∀ found ∈ follow tree working patterns path, P found := by
  have hbelow : ∀ path, P path → ∀ way ∈ below tree working path,
      P (inside path (Text.join ['/'] way)) := by
    intro path hpath way hway
    obtain ⟨hne, hnames⟩ := names_of_mem_below hnamed hway
    exact hlasting.inside hpath (isAbsolute_way hne hnames)
  match patterns with
  | [] =>
      intro found hfound
      rw [follow, List.mem_singleton] at hfound
      exact hfound ▸ hpath
  | pattern :: rest =>
      have hfirst := hpatterns pattern List.mem_cons_self
      have hrest : Relative rest := fun p hp => hpatterns p (List.mem_cons_of_mem _ hp)
      cases hrecursive : isRecursive pattern with
      | false =>
          intro found hfound
          rw [follow_cons hrecursive] at hfound
          obtain ⟨next, hnext, hfound⟩ := List.mem_flatMap.1 hfound
          exact lasting_follow hlasting hnamed rest hrest next
            (lasting_step hlasting hnamed hfirst hpath next hnext) found hfound
      | true =>
          match rest with
          | [] =>
              intro found hfound
              rw [follow, if_pos hrecursive] at hfound
              obtain ⟨way, hway, rfl⟩ := List.mem_map.1 (List.mem_filter.1 hfound).1
              exact hbelow path hpath way hway
          | next :: others =>
              rw [follow, if_pos hrecursive]
              split
              · exact lasting_follow hlasting hnamed (next :: others) hrest path hpath
              · intro found hfound
                obtain ⟨way, hway, hfound⟩ := List.mem_flatMap.1 hfound
                have hothers : Relative others := fun p hp => hrest p (List.mem_cons_of_mem _ hp)
                exact lasting_follow hlasting hnamed others hothers _
                  (hbelow path hpath way (List.mem_filter.1 hway).1) found hfound

/-- Paths are absolute or not like the one where the search started. -/
theorem isAbsolute_of_follow (hnamed : tree.Named) {patterns : List Pattern}
    (hpatterns : Relative patterns) {path found : Text}
    (h : found ∈ follow tree working patterns path) :
    Path.isAbsolute found = Path.isAbsolute path := by
  have hlasting : Lasting fun other => Path.isAbsolute other = Path.isAbsolute path := by
    refine ⟨fun before part hbefore hpart => ?_, fun before part hbefore hhere hpart => ?_⟩
    · rw [Path.isAbsolute_join before hpart, hbefore]
    · -- where a search starts is a relative path
      rw [isHere, decide_eq_true_iff] at hhere
      rw [hpart, ← hbefore, eq_comm, ← Bool.not_eq_true, Path.isAbsolute_iff_mem_components, hhere]
      decide
  exact lasting_follow hlasting hnamed patterns hpatterns path rfl found h

/-- A path that has left where the search started stays away from there. -/
theorem isHere_of_starts {base path : Text} (hbase : Path.components base ≠ [])
    (hhere : isHere base = false) (h : Path.components base <+: Path.components path) :
    isHere path = false := by
  rw [isHere, decide_eq_false_iff_not] at hhere ⊢
  intro hpath
  rw [hpath] at h
  rcases List.prefix_cons_iff.1 h with hnil | ⟨others, hothers, hstarts⟩
  · exact hbase hnil
  · rw [List.prefix_nil.1 hstarts] at hothers
    exact hhere hothers

theorem ne_nil_of_starts {base path : Text} (hbase : Path.components base ≠ [])
    (h : Path.components base <+: Path.components path) : path ≠ [] := by
  rintro rfl
  exact hbase (List.prefix_nil.1 h)

/-- A path behind a base starts with the components of the base. -/
theorem starts_of_follow (hnamed : tree.Named) {patterns : List Pattern}
    (hpatterns : Relative patterns) {base found : Text} (hbase : Path.components base ≠ [])
    (hhere : isHere base = false) (h : found ∈ follow tree working patterns base) :
    Path.components base <+: Path.components found := by
  have hlasting : Lasting fun other => Path.components base <+: Path.components other := by
    refine ⟨fun before part hbefore hpart => ?_, fun before part hbefore hstart hpart => ?_⟩
    · rw [Path.components_join (ne_nil_of_starts hbase hbefore) hpart]
      exact hbefore.trans (List.prefix_append _ _)
    · rw [isHere_of_starts hbase hhere hbefore] at hstart
      cases hstart
  exact lasting_follow hlasting hnamed patterns hpatterns base (List.prefix_refl _) found h

/-! ## Escaped directories -/

theorem step_exact {t path found : Text}
    (h : found ∈ follow.step tree working (Pattern.exact t) path) : found = inside path t := by
  rcases step_cases h with ⟨name, hname, rfl⟩ |
    ⟨hliteral, ⟨dots, hdots, -, hmatch, -⟩ | ⟨name, -, hmatch, rfl⟩⟩
  · rw [Pattern.eq_of_literalText?_exact hname]
  · -- dots need no escape, so they would be spelled
    rw [← Pattern.matchesName_exact.1 hmatch] at hliteral
    rcases hdots with rfl | rfl <;> cases hliteral
  · rw [Pattern.matchesName_exact.1 hmatch]

/-- Escaped parts lead one way. -/
theorem follow_exact {ts : List Text} {rest : List Pattern} {path found : Text}
    (h : found ∈ follow tree working (ts.map Pattern.exact ++ rest) path) :
    found ∈ follow tree working rest (ts.foldl inside path) := by
  induction ts generalizing path with
  | nil => exact h
  | cons t ts ih =>
      rw [List.map_cons, List.cons_append, follow_cons (Pattern.isRecursive_exact t)] at h
      obtain ⟨next, hnext, h⟩ := List.mem_flatMap.1 h
      rw [step_exact hnext] at h
      exact ih h

/-- Parts put behind a path make their steps behind it. -/
theorem components_foldl_inside {ts : List Text} (hslash : ∀ t ∈ ts, '/' ∉ t) {path : Text}
    (hpath : Path.components path ≠ []) (hhere : isHere path = false) :
    Path.components (ts.foldl inside path) =
      Path.components path ++ ts.filterMap Path.component? := by
  induction ts generalizing path with
  | nil => exact (List.append_nil _).symm
  | cons t ts ih =>
      have ht := hslash t List.mem_cons_self
      have hjoin : Path.components (Path.join path t) =
          Path.components path ++ (Path.component? t).toList := by
        rw [Path.components_join (ne_nil_of_starts hpath (List.prefix_refl _))
          (Path.isAbsolute_of_not_mem ht), Path.steps_of_not_mem ht]
      have hstarts : Path.components path <+: Path.components (Path.join path t) := by
        rw [hjoin]
        exact List.prefix_append _ _
      have hne : Path.components (Path.join path t) ≠ [] := fun hnil =>
        hpath (List.prefix_nil.1 (hnil ▸ hstarts))
      rw [List.foldl_cons, inside, if_neg (by simp [hhere]),
        ih (fun u hu => hslash u (List.mem_cons_of_mem _ hu)) hne
          (isHere_of_starts hpath hhere hstarts),
        hjoin, List.append_assoc, filterMap_cons_toList]

/-- Behind the start of a search, the first part that makes a step is where the path begins. -/
theorem components_foldl_inside_here {ts : List Text} (hslash : ∀ t ∈ ts, '/' ∉ t)
    (hsteps : ts.filterMap Path.component? ≠ []) {path : Text} (hpath : path = ['.'] ∨ path = []) :
    Path.components (ts.foldl inside path) = ts.filterMap Path.component? := by
  induction ts generalizing path with
  | nil => exact absurd rfl hsteps
  | cons t ts ih =>
      have ht := hslash t List.mem_cons_self
      have hts : ∀ u ∈ ts, '/' ∉ u := fun u hu => hslash u (List.mem_cons_of_mem _ hu)
      have hinside : inside path t = t := by
        rcases hpath with rfl | rfl
        · rfl
        · rw [inside, if_neg (by decide), Path.join_of_relative _ (Path.isAbsolute_of_not_mem ht),
            if_pos (.inl rfl)]
          rfl
      rw [List.foldl_cons, hinside]
      cases hidle : Path.isIdle t with
      | true =>
          rw [List.filterMap_cons_none (Path.component?_of_isIdle hidle)] at hsteps ⊢
          refine ih hts hsteps ?_
          rw [Path.isIdle, Bool.or_eq_true, decide_eq_true_iff, decide_eq_true_iff] at hidle
          exact hidle.symm
      | false =>
          obtain ⟨c, hc⟩ := Path.component?_ne_none hidle
          have hcomponents : Path.components t = [c] := by
            rw [Path.components_of_not_mem ht hidle, Path.steps_of_not_mem ht, hc]
            rfl
          have hhere : isHere t = false := by
            rw [isHere, decide_eq_false_iff_not, Path.components_of_not_mem ht hidle]
            intro hstart
            exact Path.not_mem_steps (.inr rfl) t (hstart ▸ List.mem_cons_self)
          rw [components_foldl_inside hts (by simp [hcomponents]) hhere, hcomponents,
            List.filterMap_cons_some hc]
          rfl

/-! ## Searches -/

theorem exists_refusal?_of_ofNames {fault : SearchFault} {pattern : Pattern} {path : Text}
    (h : refused?.ofNames tree working pattern path = some fault) :
    ∃ directory, refusal? tree working directory = some fault := by
  rw [refused?.ofNames] at h
  split at h
  · cases h
  · exact ⟨path, h⟩

/-- A search that is refused is refused by a directory. -/
theorem exists_refusal?_of_refused? {fault : SearchFault} {patterns : List Pattern} {path : Text}
    (h : refused? tree working patterns path = some fault) :
    ∃ directory, refusal? tree working directory = some fault := by
  induction patterns using List.twoStepInduction generalizing path with
  | nil => cases h
  | singleton pattern =>
      rw [refused?] at h
      split at h
      · obtain ⟨directory, -, h⟩ := List.exists_of_findSome?_eq_some h
        exact ⟨directory, h⟩
      · exact exists_refusal?_of_ofNames h
  | cons_cons pattern next rest ih ihnext =>
      rw [refused?] at h
      split at h
      · split at h
        · exact ihnext next h
        · -- the directory itself, one that the patterns behind lead to, or one below it
          rcases Option.or_eq_some_iff.1 h with h | ⟨-, h⟩
          · exact ⟨path, h⟩
          · obtain ⟨way, -, h⟩ := List.exists_of_findSome?_eq_some h
            rcases Option.or_eq_some_iff.1 h with h | ⟨-, h⟩
            · rw [Option.ite_none_right_eq_some] at h
              exact ih h.2
            · exact ⟨_, h⟩
      · rcases Option.or_eq_some_iff.1 h with h | ⟨-, h⟩
        · exact exists_refusal?_of_ofNames h
        · obtain ⟨found, -, h⟩ := List.exists_of_findSome?_eq_some h
          exact ihnext next h

/-- A search follows the components of its pattern, all of which it can list. -/
theorem exists_of_search {pattern : Text} {found : List Text}
    (h : search tree working pattern = .ok found) :
    ∃ patterns, components pattern = .ok patterns ∧
      refused? tree working patterns (root (Path.isAbsolute pattern)) = none ∧
      found =
        let found := follow tree working patterns (root (Path.isAbsolute pattern))
        if pattern.getLast? = some '/' then found.filter (tree.isDirectory working) else found := by
  obtain ⟨patterns, hpatterns, h⟩ := exists_of_bind_eq_ok h
  refine ⟨patterns, eq_ok_of_mapError_eq_ok hpatterns, ?_⟩
  dsimp only at h
  split at h
  · cases h
  · rename_i hrefused
    exact ⟨hrefused, (Except.ok.inj h).symm⟩

/-- A search fails for its pattern or is refused by a directory. -/
theorem cases_of_search_eq_error {pattern : Text} {fault : SearchFault}
    (h : search tree working pattern = .error fault) :
    (∃ f, fault = .pattern f) ∨ ∃ directory, refusal? tree working directory = some fault := by
  rcases bind_eq_error_iff.1 h with h | ⟨patterns, -, h⟩
  · left
    cases hpatterns : components pattern with
    | error f =>
        rw [hpatterns] at h
        cases h
        exact ⟨f, rfl⟩
    | ok patterns =>
        rw [hpatterns] at h
        cases h
  · right
    dsimp only at h
    split at h
    · rename_i hrefused
      cases h
      exact exists_refusal?_of_refused? hrefused
    · cases h

/-- A search that leads to files follows the parts of its pattern. -/
theorem follow_of_search {pattern : Text} {found : List Text}
    (h : search tree working pattern = .ok found) :
    (∀ file ∈ found, tree.isFile working file = false) ∨
      ∃ patterns, (parts pattern).mapM Pattern.parse = .ok patterns ∧
        found = follow tree working patterns (root (Path.isAbsolute pattern)) := by
  obtain ⟨all, hall, -, hfound⟩ := exists_of_search h
  by_cases hslash : pattern.getLast? = some '/'
  · -- behind a slash only directories are found
    rw [if_pos hslash] at hfound
    refine .inl fun file hfile => ?_
    rw [hfound] at hfile
    have hdirectory := (List.mem_filter.1 hfile).2
    rw [FileTree.isDirectory, decide_eq_true_iff] at hdirectory
    rw [FileTree.isFile, hdirectory]
  · rw [if_neg hslash] at hfound
    by_cases hempty : pattern = []
    · -- the empty pattern leads nowhere
      subst hempty
      cases hall
      refine .inl fun file hfile => ?_
      rw [hfound] at hfile
      cases hfile
    · have hroot : ¬(pattern = [] ∨ pattern = ['/']) := by
        rintro (rfl | rfl)
        · exact hempty rfl
        · exact hslash rfl
      obtain ⟨-, -, hall⟩ := exists_of_bind_eq_ok hall
      obtain ⟨patterns, hpatterns, hall⟩ := exists_of_bind_eq_ok hall
      rw [if_neg hroot] at hall
      cases hall
      exact .inr ⟨_, hpatterns, hfound⟩

theorem not_mem_of_mem_pieces {t piece : Text} (h : piece ∈ pieces t) : '/' ∉ piece := by
  have hmem : piece ∈ Text.splitOn '/' t := by
    simp only [pieces] at h
    split at h
    · exact (List.dropLast_sublist _).subset h
    · exact h
  exact Text.not_mem_of_mem_splitOn hmem

theorem filterMap_pieces (t : Text) : (pieces t).filterMap Path.component? = Path.steps t := by
  simp only [pieces]
  split
  · rename_i hlast
    obtain ⟨front, hfront⟩ := List.getLast?_eq_some_iff.1 hlast
    rw [Path.steps, hfront, List.dropLast_concat, List.filterMap_append]
    exact (List.append_nil _).symm
  · rfl

/-- The parts of a path make its steps. -/
theorem filterMap_parts (path : Text) :
    (parts path).filterMap Path.component? = Path.steps path := by
  rw [parts]
  split
  · rename_i habsolute
    rw [filterMap_pieces, Path.steps, Path.steps, Path.splitOn_of_isAbsolute habsolute]
    rfl
  · exact filterMap_pieces path

theorem parts_escape (path : Text) :
    parts (Pattern.escape path) = (parts path).map Pattern.escape := by
  rw [parts, parts, Pattern.isAbsolute_escape]
  split
  · rename_i habsolute
    rw [Path.isAbsolute, decide_eq_true_iff] at habsolute
    obtain ⟨rest, rfl⟩ := List.head?_eq_some_iff.1 habsolute
    exact pieces_escape rest
  · exact pieces_escape path

/-- Patterns without slashes spell texts that stand behind other paths. -/
theorem relative_of_parse {ts : List Text} {patterns : List Pattern}
    (hslash : ∀ t ∈ ts, '/' ∉ t) (h : ts.mapM Pattern.parse = .ok patterns) :
    Relative patterns := by
  induction ts generalizing patterns with
  | nil =>
      cases h
      exact nofun
  | cons t ts ih =>
      rw [List.mapM_cons] at h
      obtain ⟨pattern, hparse, h⟩ := exists_of_bind_eq_ok h
      obtain ⟨others, hothers, h⟩ := exists_of_bind_eq_ok h
      cases h
      refine List.forall_mem_cons.2 ⟨fun name hname => Path.isAbsolute_of_not_mem fun hmem => ?_,
        ih (fun u hu => hslash u (List.mem_cons_of_mem _ hu)) hothers⟩
      exact hslash t List.mem_cons_self (Pattern.mem_of_literalText? hparse hname hmem)

theorem mapM_parse_escape (ts : List Text) :
    (ts.map Pattern.escape).mapM Pattern.parse = .ok (ts.map Pattern.exact) := by
  rw [List.mapM_map]
  exact (congrArg ts.mapM (funext Pattern.parse_escape)).trans (List.mapM_pure ..)

theorem not_mem_of_mem_parts {path t : Text} (h : t ∈ parts path) : '/' ∉ t :=
  not_mem_of_mem_pieces h

/-- Absolute patterns lead to files by absolute paths, other patterns by relative ones. -/
theorem isAbsolute_of_search (hnamed : tree.Named) {pattern : Text} {found : List Text}
    (h : search tree working pattern = .ok found) {file : Text} (hmem : file ∈ found)
    (hfile : tree.isFile working file = true) :
    Path.isAbsolute file = Path.isAbsolute pattern := by
  rcases follow_of_search h with hnone | ⟨patterns, hpatterns, hfound⟩
  · rw [hnone file hmem] at hfile
    cases hfile
  · rw [hfound] at hmem
    have hrelative := relative_of_parse (fun t => not_mem_of_mem_parts) hpatterns
    rw [isAbsolute_of_follow hnamed hrelative hmem]
    cases Path.isAbsolute pattern <;> rfl

/-- A search from a directory, whose parts are taken as they are spelled, that leads to files. -/
theorem follow_of_search_from {directory pattern : Text} {found : List Text}
    (hpattern : Path.isAbsolute pattern = false)
    (h : search tree working (Path.join (Pattern.escape directory) pattern) = .ok found) :
    (∀ file ∈ found, tree.isFile working file = false) ∨
      ∃ patterns, (pieces pattern).mapM Pattern.parse = .ok patterns ∧
        Relative ((parts directory).map Pattern.exact ++ patterns) ∧
        found = follow tree working ((parts directory).map Pattern.exact ++ patterns)
          (root (Path.isAbsolute directory)) := by
  rcases follow_of_search h with hnone | ⟨all, hall, hfound⟩
  · exact .inl hnone
  · have hrelative := relative_of_parse (fun t => not_mem_of_mem_parts) hall
    rw [parts_join _ hpattern, parts_escape, List.mapM_append, mapM_parse_escape, ok_bind] at hall
    obtain ⟨patterns, hpatterns, hall⟩ := exists_of_bind_eq_ok hall
    cases hall
    rw [Path.isAbsolute_join _ hpattern, Pattern.isAbsolute_escape] at hfound
    exact .inr ⟨patterns, hpatterns, hrelative, hfound⟩

/-- Where a search from a directory finds files: behind the steps of the directory. -/
structure Behind (directory file : Text) : Prop where
  isAbsolute_eq : Path.isAbsolute file = Path.isAbsolute directory
  of_absolute : Path.isAbsolute directory = true →
    Path.components directory <+: Path.components file
  of_relative : Path.isAbsolute directory = false → Path.steps directory ≠ [] →
    Path.steps directory <+: Path.components file

theorem behind_of_search (hnamed : tree.Named) {directory pattern : Text} {found : List Text}
    (hpattern : Path.isAbsolute pattern = false)
    (h : search tree working (Path.join (Pattern.escape directory) pattern) = .ok found)
    {file : Text} (hmem : file ∈ found) (hfile : tree.isFile working file = true) :
    Behind directory file := by
  have hstart := isAbsolute_of_search hnamed h hmem hfile
  rw [Path.isAbsolute_join _ hpattern, Pattern.isAbsolute_escape] at hstart
  rcases follow_of_search_from hpattern h with hnone | ⟨patterns, -, hall, hfound⟩
  · rw [hnone file hmem] at hfile
    cases hfile
  · have hslash : ∀ t ∈ parts directory, '/' ∉ t := fun t => not_mem_of_mem_parts
    have hrelative : Relative patterns := (List.forall_mem_append.1 hall).2
    rw [hfound] at hmem
    have hbehind := follow_exact hmem
    refine ⟨hstart, fun habsolute => ?_, fun habsolute hsteps => ?_⟩
    · rw [habsolute] at hbehind
      have hbase : Path.components ((parts directory).foldl inside ['/']) =
          Path.components directory := by
        rw [components_foldl_inside hslash (by decide) (by decide), filterMap_parts,
          Path.components_eq directory, Path.opening_of_isAbsolute habsolute]
        rfl
      have hroot : Path.Component.root ∈ Path.components directory :=
        Path.isAbsolute_iff_mem_components.1 habsolute
      rw [← hbase]
      refine starts_of_follow hnamed hrelative ?_ ?_ hbehind
      · rw [hbase]
        exact List.ne_nil_of_mem hroot
      · rw [isHere, hbase, decide_eq_false_iff_not]
        intro hhere
        rw [hhere] at hroot
        cases List.mem_singleton.1 hroot
    · rw [habsolute] at hbehind
      rw [← filterMap_parts] at hsteps ⊢
      have hbase := components_foldl_inside_here hslash hsteps (.inl rfl)
      rw [← hbase] at hsteps ⊢
      refine starts_of_follow hnamed hrelative hsteps ?_ hbehind
      rw [isHere, hbase, filterMap_parts, decide_eq_false_iff_not]
      intro hhere
      exact Path.not_mem_steps (.inr rfl) directory (hhere ▸ List.mem_cons_self)

end Glob

end SchemaCompiler
