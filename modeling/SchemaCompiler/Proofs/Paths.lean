import SchemaCompiler.Proofs.FileTree

namespace SchemaCompiler

/-! # Paths and where they lead

A path has an opening, the root or a single dot, and behind it the steps that lead from place to
place (`Path.components_eq`). Main statements:

* `Path.components_join`: a path seen from a base makes its steps behind those of the base;
* `Path.rest_of_stripBase?`: what is left of a path behind a base makes the steps behind the base;
* `FileTree.resolve_of_steps`: two paths that start alike and make the same steps lead to one place,
  whatever slashes and dots they are spelled with.
-/

namespace Path

/-! ## Openings and steps -/

/-- The components of a path that lead from one place to another. -/
def steps (path : Text) : List Component := (Text.splitOn '/' path).filterMap component?

/-- The component that a path starts with, if that is no step. -/
def opening (path : Text) : List Component :=
  if isAbsolute path then [.root]
  else if (Text.splitOn '/' path).head? = some ['.'] then [.current] else []

theorem opening_of_isAbsolute {path : Text} (h : isAbsolute path = true) :
    opening path = [.root] := by
  rw [opening, if_pos h]

theorem opening_of_relative {path : Text} (h : isAbsolute path = false) :
    opening path = [] ∨ opening path = [.current] := by
  rw [opening, h, if_neg Bool.false_ne_true]
  split
  · exact .inr rfl
  · exact .inl rfl

/-- Text without slashes is no absolute path. -/
theorem isAbsolute_of_not_mem {path : Text} (h : '/' ∉ path) : isAbsolute path = false := by
  rw [isAbsolute, decide_eq_false_iff_not]
  exact fun hslash => h (List.mem_of_head? hslash)

theorem component?_nil : component? [] = none := rfl

theorem component?_of_isIdle {piece : Text} (h : isIdle piece = true) :
    component? piece = none := by
  rw [component?, if_pos h]

theorem component?_ne_none {piece : Text} (h : isIdle piece = false) :
    ∃ c, component? piece = some c := by
  rw [component?, if_neg (by simp [h])]
  split
  · exact ⟨_, rfl⟩
  · exact ⟨_, rfl⟩

/-- An absolute path starts with an empty piece. -/
theorem splitOn_of_isAbsolute {path : Text} (h : isAbsolute path = true) :
    Text.splitOn '/' path = [] :: Text.splitOn '/' (path.drop 1) := by
  rw [isAbsolute, decide_eq_true_iff] at h
  obtain ⟨rest, rfl⟩ := List.head?_eq_some_iff.1 h
  exact Text.splitOn_append_cons List.not_mem_nil rest

/-- A path consists of its opening and its steps. -/
theorem components_eq (path : Text) : components path = opening path ++ steps path := by
  by_cases habsolute : isAbsolute path = true
  · simp only [components, opening, steps, splitOn_of_isAbsolute habsolute, habsolute, if_true,
      List.filterMap_cons, component?_nil]
  · obtain ⟨first, rest, hpieces⟩ := List.exists_cons_of_ne_nil (Text.splitOn_ne_nil '/' path)
    simp only [components, opening, steps, hpieces, habsolute, List.head?_cons, Option.some.injEq,
      Bool.false_eq_true, if_false]
    split
    · rename_i hdot
      rw [hdot, List.filterMap_cons_none (component?_of_isIdle rfl)]
    · rw [filterMap_cons_toList]
      rfl

theorem not_mem_steps {c : Component} (h : c = .root ∨ c = .current) (path : Text) :
    c ∉ steps path := by
  intro hmem
  obtain ⟨piece, -, hpiece⟩ := List.mem_filterMap.1 hmem
  rw [component?] at hpiece
  split at hpiece
  · cases hpiece
  · split at hpiece <;> cases hpiece <;> simp at h

theorem filter_steps (path : Text) :
    (steps path).filter (fun c => c ≠ .root ∧ c ≠ .current) = steps path := by
  refine List.filter_eq_self.2 fun c hc => ?_
  rw [decide_eq_true_iff]
  exact ⟨fun h => not_mem_steps (.inl h) path hc, fun h => not_mem_steps (.inr h) path hc⟩

/-- The steps are the components apart from the root and the single dot. -/
theorem filter_components (path : Text) :
    (components path).filter (fun c => c ≠ .root ∧ c ≠ .current) = steps path := by
  have hopening : (opening path).filter (fun c => c ≠ .root ∧ c ≠ .current) = [] := by
    cases h : isAbsolute path with
    | true =>
        rw [opening_of_isAbsolute h]
        rfl
    | false =>
        rcases opening_of_relative h with hopening | hopening
        · rw [hopening]
          rfl
        · rw [hopening]
          rfl
  rw [components_eq, List.filter_append, hopening, filter_steps, List.nil_append]

theorem isAbsolute_iff_mem_components {path : Text} :
    isAbsolute path = true ↔ .root ∈ components path := by
  have hsteps := not_mem_steps (.inl rfl) path
  cases h : isAbsolute path with
  | true => simp [components_eq, opening_of_isAbsolute h]
  | false =>
      rcases opening_of_relative h with hopening | hopening
      · simp [components_eq, hopening, hsteps]
      · simp [components_eq, hopening, hsteps]

/-! ## Joined paths -/

theorem steps_append_slash (a b : Text) : steps (a ++ '/' :: b) = steps a ++ steps b := by
  rw [steps, Text.splitOn_append_sep, List.filterMap_append]
  rfl

theorem steps_of_not_mem {piece : Text} (h : '/' ∉ piece) :
    steps piece = (component? piece).toList := by
  rw [steps, Text.splitOn_of_not_mem h, filterMap_cons_toList, List.filterMap_nil, List.append_nil]

/-- A single piece that makes a step is all that its path consists of. -/
theorem components_of_not_mem {piece : Text} (h : '/' ∉ piece) (hidle : isIdle piece = false) :
    components piece = steps piece := by
  have hdot : piece ≠ ['.'] := by
    rintro rfl
    cases hidle
  rw [components_eq, opening, isAbsolute_of_not_mem h, if_neg Bool.false_ne_true, Text.splitOn_of_not_mem h,
    List.head?_cons, if_neg (by simpa using hdot), List.nil_append]

theorem opening_append_slash {a : Text} (h : a ≠ []) (b : Text) :
    opening (a ++ '/' :: b) = opening a := by
  obtain ⟨c, cs, rfl⟩ := List.exists_cons_of_ne_nil h
  have hhead : (Text.splitOn '/' ((c :: cs) ++ '/' :: b)).head? =
      (Text.splitOn '/' (c :: cs)).head? := by
    rw [Text.splitOn_append_sep, List.head?_append_of_ne_nil _ (Text.splitOn_ne_nil '/' _)]
  rw [opening, opening, hhead]
  rfl

theorem join_of_relative (base : Text) {path : Text} (h : isAbsolute path = false) :
    join base path =
      if base = [] ∨ base.getLast? = some '/' then base ++ path else base ++ ['/'] ++ path := by
  rw [join, if_neg (by simp [h])]

/-- A path seen from a base is the base, a slash unless it has one already, and the path. -/
theorem join_eq {base path : Text} (hbase : base ≠ []) (hpath : isAbsolute path = false) :
    ∃ front, (base = front ∨ base = front ++ ['/']) ∧ join base path = front ++ '/' :: path := by
  rw [join_of_relative base hpath]
  split
  · rename_i h
    obtain ⟨front, rfl⟩ := List.getLast?_eq_some_iff.1 (h.resolve_left hbase)
    exact ⟨front, .inr rfl, by simp⟩
  · exact ⟨base, .inl rfl, by simp⟩

/-- A path seen from a base makes its steps behind those of the base. -/
theorem components_join {base path : Text} (hbase : base ≠ []) (hpath : isAbsolute path = false) :
    components (join base path) = components base ++ steps path := by
  obtain ⟨front, hfront, hjoin⟩ := join_eq hbase hpath
  rw [hjoin]
  rcases hfront with rfl | rfl
  · rw [components_eq, components_eq, opening_append_slash hbase, steps_append_slash,
      List.append_assoc]
  · rw [components_eq, components_eq, steps_append_slash, steps_append_slash]
    cases front with
    | nil => rfl
    | cons c cs =>
        have hne := List.cons_ne_nil c cs
        rw [opening_append_slash hne, opening_append_slash hne]
        simp [steps, Text.splitOn, component?_nil]

theorem steps_join (base : Text) {path : Text} (hpath : isAbsolute path = false) :
    steps (join base path) = steps base ++ steps path := by
  by_cases hbase : base = []
  · rw [hbase, join_of_relative _ hpath, if_pos (.inl rfl)]
    rfl
  · obtain ⟨front, hfront, hjoin⟩ := join_eq hbase hpath
    rw [hjoin, steps_append_slash]
    rcases hfront with rfl | rfl
    · rfl
    · rw [steps_append_slash]
      simp [steps, Text.splitOn, component?_nil]

theorem isAbsolute_join (base : Text) {path : Text} (hpath : isAbsolute path = false) :
    isAbsolute (join base path) = isAbsolute base := by
  rw [join_of_relative base hpath]
  cases base with
  | nil =>
      rw [if_pos (.inl rfl), List.nil_append, hpath]
      rfl
  | cons c cs => split <;> rfl

theorem join_slash (base : Text) {path : Text} (hpath : isAbsolute path = false) :
    join ('/' :: base) path = '/' :: join base path := by
  rw [join_of_relative _ hpath, join_of_relative _ hpath]
  cases base with
  | nil => rfl
  | cons c cs =>
      rw [List.getLast?_cons_cons]
      simp only [List.cons_ne_nil, false_or]
      split <;> rfl

theorem join_of_isAbsolute (base : Text) {path : Text} (h : isAbsolute path = true) :
    join base path = path := by
  rw [join, if_pos h]

/-! ## The rest behind a base -/

/-- The path is spelled with a single dot ahead of its steps. -/
def LedByDot (path : Text) : Prop := opening path = [.current] ∧ steps path ≠ []

theorem LedByDot.relative {path : Text} (h : LedByDot path) : isAbsolute path = false := by
  have hopening := h.1
  rw [← Bool.not_eq_true]
  intro habsolute
  rw [opening_of_isAbsolute habsolute] at hopening
  cases hopening

/-- The last piece of the path makes a step. -/
def EndsInStep (path : Text) : Prop :=
  ∀ last ∈ (Text.splitOn '/' path).getLast?, isIdle last = false

theorem EndsInStep.ne_nil {path : Text} (h : EndsInStep path) : path ≠ [] := by
  rintro rfl
  exact absurd (h [] rfl) (by decide)

theorem EndsInStep.join {path : Text} (h : EndsInStep path) (base : Text) :
    EndsInStep (join base path) := by
  by_cases habsolute : isAbsolute path = true
  · rwa [join_of_isAbsolute base habsolute]
  · rw [Bool.not_eq_true] at habsolute
    by_cases hbase : base = []
    · rwa [hbase, join_of_relative _ habsolute, if_pos (.inl rfl)]
    · obtain ⟨front, -, hjoin⟩ := join_eq hbase habsolute
      rw [hjoin, EndsInStep, Text.splitOn_append_sep,
        List.getLast?_append_of_ne_nil _ (Text.splitOn_ne_nil '/' path)]
      exact h

theorem filterMap_dropWhile_isIdle (pieces : List Text) :
    (pieces.dropWhile isIdle).filterMap component? = pieces.filterMap component? := by
  induction pieces with
  | nil => rfl
  | cons piece rest ih =>
      rw [List.dropWhile_cons]
      split
      · rename_i h
        rw [ih, List.filterMap_cons_none (component?_of_isIdle h)]
      · rfl

theorem filterMap_trimPieces (pieces : List Text) :
    (trimPieces pieces).filterMap component? = pieces.filterMap component? := by
  rw [trimPieces, List.filterMap_reverse, filterMap_dropWhile_isIdle, List.filterMap_reverse,
    List.reverse_reverse]

/-- Pieces behind the next `n` steps make the steps behind them. -/
theorem filterMap_dropComponents (n : Nat) (pieces : List Text) :
    (dropComponents n pieces).filterMap component? = (pieces.filterMap component?).drop n := by
  induction n generalizing pieces with
  | zero => rfl
  | succ n ih =>
      have hnext : ((pieces.dropWhile isIdle).drop 1).filterMap component? =
          (pieces.filterMap component?).drop 1 := by
        rw [← filterMap_dropWhile_isIdle pieces]
        cases h : pieces.dropWhile isIdle with
        | nil => rfl
        | cons piece rest =>
            have hidle := List.head?_dropWhile_not isIdle pieces
            rw [h] at hidle
            obtain ⟨c, hc⟩ := component?_ne_none (by simpa using hidle)
            rw [List.filterMap_cons_some hc]
            rfl
      rw [dropComponents, ih, hnext, List.drop_drop, Nat.add_comm]

/-- The pieces behind the first one make the components behind the first one. -/
theorem filterMap_drop_splitOn (path : Text) :
    ((Text.splitOn '/' path).drop 1).filterMap component? = (components path).drop 1 := by
  obtain ⟨first, rest, hpieces⟩ := List.exists_cons_of_ne_nil (Text.splitOn_ne_nil '/' path)
  simp only [components, hpieces, List.drop_succ_cons, List.drop_zero]
  split
  · rfl
  · rename_i habsolute
    split
    · rfl
    · rename_i hdot
      cases hfirst : component? first with
      | some c => rfl
      | none =>
          -- an empty first piece ahead of a slash would be the root
          have hempty : first = [] := by
            by_contra hne
            have hidle : isIdle first = false := by simp [isIdle, hne, hdot]
            obtain ⟨c, hc⟩ := component?_ne_none hidle
            rw [hfirst] at hc
            cases hc
          cases path with
          | nil =>
              cases hpieces
              rfl
          | cons c cs =>
              have hc : c ≠ '/' := by
                rintro rfl
                exact habsolute rfl
              obtain ⟨piece, pieces, hcs⟩ := List.exists_cons_of_ne_nil (Text.splitOn_ne_nil '/' cs)
              rw [Text.splitOn, if_neg hc, hcs, List.modifyHead_cons, hempty] at hpieces
              cases hpieces

/-- The last piece that is left by trimming makes a step. -/
theorem isIdle_getLast_trimPieces {pieces : List Text} {last : Text}
    (h : last ∈ (trimPieces pieces).getLast?) : isIdle last = false := by
  rw [trimPieces, List.getLast?_reverse] at h
  have hidle := List.head?_dropWhile_not isIdle pieces.reverse
  rw [Option.mem_def.1 h] at hidle
  simpa using hidle

theorem trimPieces_starts (pieces : List Text) : trimPieces pieces <+: pieces := by
  rw [trimPieces, ← List.reverse_suffix, List.reverse_reverse]
  exact List.dropWhile_suffix isIdle

theorem mem_of_mem_dropComponents {n : Nat} {pieces : List Text} {piece : Text}
    (h : piece ∈ dropComponents n pieces) : piece ∈ pieces := by
  induction n generalizing pieces with
  | zero => exact h
  | succ n ih => exact (List.dropWhile_sublist _).subset (List.mem_of_mem_drop (ih h))

/-- What is left of a path behind a base. -/
structure Rest (base path rest : Text) : Prop where
  components_eq : components path = components base ++ steps rest
  relative : isAbsolute rest = false
  endsInStep : steps rest ≠ [] → EndsInStep rest

theorem Rest.steps_eq {base path rest : Text} (h : Rest base path rest) :
    steps path = steps base ++ steps rest := by
  rw [← filter_components, h.components_eq, List.filter_append, filter_components, filter_steps]

theorem Rest.isAbsolute_eq {base path rest : Text} (h : Rest base path rest) :
    isAbsolute path = isAbsolute base := by
  rw [Bool.eq_iff_iff, isAbsolute_iff_mem_components, isAbsolute_iff_mem_components,
    h.components_eq, List.mem_append]
  exact or_iff_left (not_mem_steps (.inl rfl) rest)

/-- Pieces that make steps at both ends are the rest if they make the steps that are left. -/
theorem rest_join {base path : Text} {pieces : List Text}
    (hcomponents : components path = components base ++ pieces.filterMap component?)
    (hslash : ∀ piece ∈ pieces, '/' ∉ piece)
    (hhead : ∀ piece ∈ pieces.head?, isIdle piece = false)
    (hlast : ∀ piece ∈ pieces.getLast?, isIdle piece = false) :
    Rest base path (Text.join ['/'] pieces) := by
  by_cases hne : pieces = []
  · subst hne
    exact ⟨hcomponents, rfl, fun hsteps => absurd rfl hsteps⟩
  · have hsplit := Text.splitOn_join hne hslash
    refine ⟨?_, ?_, fun _ last hmem => ?_⟩
    · rw [steps, hsplit, hcomponents]
    · rw [← Bool.not_eq_true]
      intro habsolute
      -- an absolute rest would start with an empty piece
      rw [splitOn_of_isAbsolute habsolute] at hsplit
      rw [← hsplit] at hhead
      exact absurd (hhead [] rfl) (by decide)
    · rw [hsplit] at hmem
      exact hlast last hmem

/-- What is left of a path behind a base are the steps behind the base. -/
theorem rest_of_stripBase? {base path rest : Text} (hbase : components base ≠ [])
    (h : stripBase? base path = some rest) : Rest base path rest := by
  simp only [stripBase?] at h
  split at h
  · rename_i hstart
    obtain ⟨behind, hbehind⟩ := List.isPrefixOf_iff_prefix.1 hstart
    split at h
    · rename_i hzero
      exact absurd (List.length_eq_zero_iff.1 hzero) hbase
    · rename_i n hlength
      rw [← Option.some.inj h]
      obtain ⟨left, hleft⟩ : ∃ left, dropComponents n ((Text.splitOn '/' path).drop 1) = left :=
        ⟨_, rfl⟩
      rw [hleft]
      have hstarts := trimPieces_starts (left.dropWhile isIdle)
      refine rest_join ?_ (fun piece hpiece => ?_) (fun piece hpiece => ?_)
        fun piece hpiece => isIdle_getLast_trimPieces hpiece
      · rw [filterMap_trimPieces, filterMap_dropWhile_isIdle, ← hleft, filterMap_dropComponents,
          filterMap_drop_splitOn, ← hbehind, List.drop_drop, Nat.add_comm 1 n,
          List.drop_left' hlength]
      · have hmem := (List.dropWhile_sublist _).subset (hstarts.subset hpiece)
        rw [← hleft] at hmem
        exact Text.not_mem_of_mem_splitOn (List.mem_of_mem_drop (mem_of_mem_dropComponents hmem))
      · obtain ⟨after, hafter⟩ := hstarts
        have hidle := List.head?_dropWhile_not isIdle left
        rw [← hafter, List.head?_append, Option.mem_def.1 hpiece] at hidle
        simpa using hidle
  · cases h

/-- There is nothing left of a path that does not start with the base. -/
theorem stripBase?_eq_none_iff {base path : Text} :
    stripBase? base path = none ↔ ¬components base <+: components path := by
  simp only [stripBase?, ← List.isPrefixOf_iff_prefix]
  split
  · split <;> simp_all
  · simp_all

end Path

namespace FileTree

/-! ## Paths to one place -/

/-- What a component is spelled like as a piece of a path. -/
def spelling : Path.Component → Text
  | .root => []
  | .current => ['.']
  | .parent => ['.', '.']
  | .name name => name

/-- The pieces that make the steps of a path are given by the steps. -/
theorem map_spelling (pieces : List Text) :
    (pieces.filterMap Path.component?).map spelling = pieces.filter fun p => !Path.isIdle p := by
  induction pieces with
  | nil => rfl
  | cons piece rest ih =>
      cases hidle : Path.isIdle piece with
      | true =>
          rw [List.filterMap_cons_none (Path.component?_of_isIdle hidle), ih,
            List.filter_cons_of_neg (by simp [hidle])]
      | false =>
          obtain ⟨c, hc⟩ := Path.component?_ne_none hidle
          have hspelling : spelling c = piece := by
            rw [Path.component?, if_neg (by simp [hidle])] at hc
            split at hc
            · rename_i hup
              cases hc
              exact hup.symm
            · cases hc
              rfl
          rw [List.filterMap_cons_some hc, List.map_cons, ih, hspelling,
            List.filter_cons_of_pos (by simp [hidle])]

theorem step_of_isIdle {piece : Text} (h : Path.isIdle piece = true) (place : Place) :
    step place piece = place := by
  rw [step, if_pos h]

/-- Pieces that make no step can be left out of a walk. -/
theorem walk_filter {tree : FileTree} {place p : Place} {pieces : List Text}
    (h : tree.walk place pieces = .ok p) :
    tree.walk place (pieces.filter fun piece => !Path.isIdle piece) = .ok p := by
  induction pieces generalizing place with
  | nil => exact h
  | cons piece rest ih =>
      obtain ⟨hdirectory, henter, hrest⟩ := walk_cons_eq_ok_iff.1 h
      cases hidle : Path.isIdle piece with
      | true =>
          rw [List.filter_cons_of_neg (by simp [hidle])]
          rw [step_of_isIdle hidle] at hrest
          exact ih hrest
      | false =>
          rw [List.filter_cons_of_pos (by simp [hidle])]
          exact walk_cons_eq_ok_iff.2 ⟨hdirectory, henter, ih hrest⟩

/-- Pieces that make no step can be put into a walk anywhere ahead of its last piece. -/
theorem walk_of_filter {tree : FileTree} {place p : Place} {pieces : List Text}
    (h : tree.walk place (pieces.filter fun piece => !Path.isIdle piece) = .ok p)
    (hlast : ∀ last ∈ pieces.getLast?, Path.isIdle last = false) :
    tree.walk place pieces = .ok p := by
  induction pieces generalizing place with
  | nil => exact h
  | cons piece rest ih =>
      have hrest : ∀ last ∈ rest.getLast?, Path.isIdle last = false := by
        intro last hmem
        refine hlast last ?_
        rw [List.getLast?_cons, Option.mem_def.1 hmem]
        rfl
      cases hidle : Path.isIdle piece with
      | false =>
          rw [List.filter_cons_of_pos (by simp [hidle])] at h
          obtain ⟨hdirectory, henter, h⟩ := walk_cons_eq_ok_iff.1 h
          exact walk_cons_eq_ok_iff.2 ⟨hdirectory, henter, ih h hrest⟩
      | true =>
          rw [List.filter_cons_of_neg (by simp [hidle])] at h
          refine walk_cons_eq_ok_iff.2 ⟨?_, .inl (by simp [isNoName, hidle]), ?_⟩
          · -- the step that is still to be made starts in a directory
            cases hleft : rest.filter fun piece => !Path.isIdle piece with
            | nil =>
                rw [List.filter_eq_nil_iff] at hleft
                cases hend : rest.getLast? with
                | none =>
                    rw [List.getLast?_eq_none_iff.1 hend] at hlast
                    rw [hlast piece rfl] at hidle
                    cases hidle
                | some last =>
                    have hmem := List.mem_of_getLast? hend
                    exact absurd (hrest last hend) (by simpa using hleft last hmem)
            | cons next others =>
                rw [hleft] at h
                exact (walk_cons_eq_ok_iff.1 h).1
          · rw [step_of_isIdle hidle]
            exact ih h hrest

theorem foldl_step_filter (place : Place) (pieces : List Text) :
    (pieces.filter fun piece => !Path.isIdle piece).foldl step place = pieces.foldl step place := by
  induction pieces generalizing place with
  | nil => rfl
  | cons piece rest ih =>
      cases hidle : Path.isIdle piece with
      | true =>
          rw [List.filter_cons_of_neg (by simp [hidle]), ih, List.foldl_cons, step_of_isIdle hidle]
      | false =>
          rw [List.filter_cons_of_pos (by simp [hidle]), List.foldl_cons, List.foldl_cons, ih]

/-- The pieces that make the steps of two paths with the same steps are the same. -/
theorem filter_splitOn_of_steps {path file : Text} (h : Path.steps path = Path.steps file) :
    ((Text.splitOn '/' path).filter fun piece => !Path.isIdle piece) =
      (Text.splitOn '/' file).filter fun piece => !Path.isIdle piece := by
  rw [← map_spelling, ← map_spelling]
  exact congrArg (List.map spelling) h

theorem placeOf_of_steps {path file : Text}
    (hstart : Path.isAbsolute path = Path.isAbsolute file) (h : Path.steps path = Path.steps file)
    (working : Place) : placeOf working path = placeOf working file := by
  rw [placeOf, placeOf, start, start, hstart, ← foldl_step_filter, filter_splitOn_of_steps h,
    foldl_step_filter]

/-- A character other than slashes and dots stands in one of the pieces that make steps. -/
theorem mem_of_steps {path file : Text} (h : Path.steps path = Path.steps file) {c : Char}
    (hslash : c ≠ '/') (hdot : c ≠ '.') (hc : c ∈ path) : c ∈ file := by
  obtain ⟨piece, hpiece, hc⟩ := (Text.mem_iff_mem_splitOn hslash path).1 hc
  have hidle : Path.isIdle piece = false := by
    rw [← Bool.not_eq_true]
    intro hidle
    simp only [Path.isIdle, Bool.or_eq_true, decide_eq_true_iff] at hidle
    rcases hidle with rfl | rfl
    · cases hc
    · exact hdot (List.mem_singleton.1 hc)
  have hmem : piece ∈ (Text.splitOn '/' path).filter fun piece => !Path.isIdle piece :=
    List.mem_filter.2 ⟨hpiece, by simp [hidle]⟩
  rw [filter_splitOn_of_steps h] at hmem
  exact (Text.mem_iff_mem_splitOn hslash file).2 ⟨piece, (List.mem_filter.1 hmem).1, hc⟩

/-- Two paths that start alike and make the same steps lead to one place. -/
theorem resolve_of_steps {tree : FileTree} {working place : Place} {path file : Text}
    (hstart : Path.isAbsolute path = Path.isAbsolute file)
    (hsteps : Path.steps path = Path.steps file)
    (hends : Path.EndsInStep path) (hlength : byteLength path ≤ maxPathLength)
    (h : tree.resolve working file = .ok place) : tree.resolve working path = .ok place := by
  rw [resolve] at h
  split at h
  · cases h
  · rename_i hfault
    have hzero : '\x00' ∉ path := by
      intro hmem
      have hfile := mem_of_steps hsteps (by decide) (by decide) hmem
      rw [pathFault?, if_pos (by simpa using hfile)] at hfault
      cases hfault
    rw [resolve, pathFault?, if_neg (by simpa using hzero), if_neg hends.ne_nil,
      if_neg (Nat.not_lt.2 hlength)]
    refine walk_of_filter ?_ hends
    rw [filter_splitOn_of_steps hsteps, start, hstart]
    exact walk_filter h

/-- The path of a file ends in a step. -/
theorem endsInStep_of_file {tree : FileTree} {working place : Place} {path : Text}
    {contents : Contents} (h : tree.resolve working path = .ok place)
    (hfile : tree.node? place = some (.file contents)) : Path.EndsInStep path := by
  intro last hlast
  rw [resolve] at h
  split at h
  · cases h
  · obtain ⟨front, hfront⟩ := List.getLast?_eq_some_iff.1 hlast
    rw [hfront, walk_concat_eq_ok_iff] at h
    obtain ⟨directory, -, hdirectory, -, hstep⟩ := h
    rw [← Bool.not_eq_true]
    intro hidle
    rw [step_of_isIdle hidle] at hstep
    rw [hstep, hfile] at hdirectory
    cases hdirectory

end FileTree

end SchemaCompiler
