import SchemaCompiler.Files.Tree
import SchemaCompiler.Proofs.OrderedMap
import SchemaCompiler.Proofs.Results
import SchemaCompiler.Proofs.Text

namespace SchemaCompiler

/-! # Files that are written

A path that can be followed leads to a place that its parts alone give (`FileTree.placeOf`). A text
that is written stands in that place and can be read (`FileTree.readText_writeText`), and every text
in another place can still be read (`FileTree.readText_writeText_of_ne`), also behind new directories
(`FileTree.Grows`).
-/

namespace FileTree

/-! ## Places -/

/-- Where a part of a path leads to from a place. -/
def step (place : Place) (piece : Text) : Place :=
  if Path.isIdle piece then place
  else if piece = ['.', '.'] then place.dropLast
  else place ++ [piece]

theorem step_of_isName {piece : Text} (h : ¬isNoName piece = true)
    (place : Place) :
    step place piece = place ++ [piece] := by
  rw [isNoName, Bool.or_eq_true, not_or, decide_eq_true_iff] at h
  rw [step, if_neg h.1, if_neg h.2]

/-- The place that a path leads to, if it can be followed. -/
def placeOf (working : Place) (path : Text) : Place :=
  (Text.splitOn '/' path).foldl step (start working path)

/-- A part can be followed if it is no name, or a name that is not too long and holds something. -/
def CanEnter (tree : FileTree) (place : Place) (piece : Text) : Prop :=
  isNoName piece ∨
    byteLength piece ≤ maxNameLength ∧ (tree.node? (place ++ [piece])).isSome

/-- A walk follows its first part, out of a directory, and then the others. -/
theorem walk_cons_eq_ok_iff {tree : FileTree} {place p : Place} {piece : Text} {rest : List Text} :
    tree.walk place (piece :: rest) = .ok p ↔
      tree.node? place = some .directory ∧ tree.CanEnter place piece ∧
        tree.walk (step place piece) rest = .ok p := by
  rw [walk, step, CanEnter, isNoName]
  by_cases hdirectory : tree.node? place = some .directory
  · by_cases hidle : Path.isIdle piece = true
    · simp [hdirectory, hidle]
    · by_cases hup : piece = ['.', '.']
      · rw [hup] at hidle ⊢
        simp [hdirectory, hidle]
      · by_cases hlength : byteLength piece > maxNameLength
        · simp [hdirectory, hidle, hup, hlength, Nat.not_le.2 hlength]
        · by_cases hnone : tree.node? (place ++ [piece]) = none
          · simp [hdirectory, hidle, hup, hlength, hnone]
          · simp [hdirectory, hidle, hup, hlength, hnone, Option.isSome_iff_ne_none]
            omega
  · simp [hdirectory]

/-- A walk that succeeds ends where its parts lead to. -/
theorem eq_foldl_of_walk {tree : FileTree} {place p : Place} {pieces : List Text}
    (h : tree.walk place pieces = .ok p) : p = pieces.foldl step place := by
  induction pieces generalizing place with
  | nil =>
      cases h
      rfl
  | cons piece rest ih => exact ih (walk_cons_eq_ok_iff.1 h).2.2

/-- A walk follows its last part out of the directory that the others lead to. -/
theorem walk_concat_eq_ok_iff {tree : FileTree} {place p : Place} {pieces : List Text}
    {last : Text} :
    tree.walk place (pieces ++ [last]) = .ok p ↔
      ∃ directory, tree.walk place pieces = .ok directory ∧
        tree.node? directory = some .directory ∧ tree.CanEnter directory last ∧
        step directory last = p := by
  induction pieces generalizing place with
  | nil =>
      rw [List.nil_append, walk_cons_eq_ok_iff]
      simp [walk]
  | cons piece rest ih =>
      rw [List.cons_append, walk_cons_eq_ok_iff, ih]
      simp only [walk_cons_eq_ok_iff]
      constructor
      · rintro ⟨hplace, henter, directory, hwalk, hlast⟩
        exact ⟨directory, ⟨hplace, henter, hwalk⟩, hlast⟩
      · rintro ⟨directory, ⟨hplace, henter, hwalk⟩, hlast⟩
        exact ⟨hplace, henter, directory, hwalk, hlast⟩

theorem eq_placeOf_of_resolve {tree : FileTree} {working p : Place} {path : Text}
    (h : tree.resolve working path = .ok p) : p = placeOf working path := by
  rw [resolve] at h
  split at h
  · cases h
  · exact eq_foldl_of_walk h

/-! ## Changes -/

theorem permit_eq_ok_iff {tree : FileTree} {place : Place} {access : Access} :
    tree.permit place access = .ok () ↔ tree.refusal? place access = none := by
  rw [permit]
  cases tree.refusal? place access <;> simp

theorem node?_put (tree : FileTree) (place p : Place) (node : Node) :
    (tree.put place node).node? p =
      if p = [] then some .directory else if p = place then some node else tree.node? p := by
  rw [node?, node?]
  split
  · rfl
  · exact OrderedMap.get?_insert tree.entries place p node

/-- Every path that can be followed still can: directories stay directories, and what is there stays
there. -/
structure Passes (tree other : FileTree) : Prop where
  directory : ∀ p, tree.node? p = some .directory → other.node? p = some .directory
  present : ∀ p, (tree.node? p).isSome → (other.node? p).isSome

/-- A walk that succeeds succeeds wherever its directories are. -/
theorem Passes.walk {tree other : FileTree} (h : Passes tree other) {place p : Place}
    {pieces : List Text} (hwalk : tree.walk place pieces = .ok p) :
    other.walk place pieces = .ok p := by
  induction pieces generalizing place with
  | nil => exact hwalk
  | cons piece rest ih =>
      obtain ⟨hdirectory, henter, hrest⟩ := walk_cons_eq_ok_iff.1 hwalk
      refine walk_cons_eq_ok_iff.2 ⟨h.directory place hdirectory, ?_, ih hrest⟩
      exact henter.imp_right fun hname => ⟨hname.1, h.present _ hname.2⟩

theorem Passes.resolve {tree other : FileTree} (h : Passes tree other) {working p : Place}
    {path : Text} (hresolve : tree.resolve working path = .ok p) :
    other.resolve working path = .ok p := by
  rw [FileTree.resolve] at hresolve ⊢
  split at hresolve
  · cases hresolve
  · exact h.walk hresolve

/-- Nothing has changed, but there may be more; the same places refuse. -/
structure Grows (tree other : FileTree) : Prop where
  node? : ∀ p node, tree.node? p = some node → other.node? p = some node
  refusal? : other.refusal? = tree.refusal?

theorem Grows.refl (tree : FileTree) : Grows tree tree := ⟨fun _ _ h => h, rfl⟩

theorem Grows.trans {a b c : FileTree} (hab : Grows a b) (hbc : Grows b c) : Grows a c where
  node? p node h := hbc.node? p node (hab.node? p node h)
  refusal? := hbc.refusal?.trans hab.refusal?

theorem Grows.passes {tree other : FileTree} (h : Grows tree other) : Passes tree other where
  directory p := h.node? p .directory
  present p hp := by
    obtain ⟨node, hnode⟩ := Option.isSome_iff_exists.1 hp
    rw [h.node? p node hnode]
    rfl

/-- What stands in a place can be read over every path that leads there, unless it refuses. -/
theorem readText_eq_ok_iff {tree : FileTree} {working : Place} {path t : Text} :
    tree.readText working path = .ok t ↔
      tree.resolve working path = .ok (placeOf working path) ∧
        tree.refusal? (placeOf working path) .opening = none ∧
          tree.node? (placeOf working path) = some (.file (.text t)) := by
  rw [readText]
  constructor
  · intro h
    obtain ⟨place, hresolve, h⟩ := exists_of_bind_eq_ok h
    obtain ⟨_, hpermit, h⟩ := exists_of_bind_eq_ok h
    have hplace : place = placeOf working path := eq_placeOf_of_resolve hresolve
    subst hplace
    refine ⟨hresolve, permit_eq_ok_iff.1 hpermit, ?_⟩
    split at h
    · rename_i hnode
      cases h
      exact hnode
    · cases h
    · cases h
    · cases h
  · rintro ⟨hresolve, hrefusal, hnode⟩
    rw [hresolve, ok_bind, permit_eq_ok_iff.2 hrefusal, ok_bind, hnode]

/-! ## New directories -/

theorem grows_put {tree : FileTree} {place : Place} (h : tree.node? place = none) (node : Node) :
    Grows tree (tree.put place node) := by
  refine ⟨fun p other hp => ?_, rfl⟩
  rw [node?_put]
  split
  · rename_i hroot
    rw [hroot] at hp
    exact hp
  · split
    · rename_i hplace
      rw [hplace, h] at hp
      cases hp
    · exact hp

theorem grows_makeDirectory {tree other : FileTree} {working : Place} {path : Text}
    (h : tree.makeDirectory working path = .ok other) : Grows tree other := by
  obtain ⟨⟨directory, last, slashes⟩, -, h⟩ := exists_of_bind_eq_ok h
  dsimp only at h
  split at h
  · cases h
  · split at h
    · cases h
    · split at h
      · cases h
      · rename_i hnew
        obtain ⟨-, -, h⟩ := exists_of_bind_eq_ok h
        cases h
        exact grows_put (by simpa using hnew) .directory

/-- Making directories changes nothing that is there, whether it succeeds or not. -/
theorem grows_makeDirectoriesFrom (working : Place) (paths : List Text) (tree : FileTree) :
    Grows tree (makeDirectoriesFrom working paths tree).1 := by
  induction paths generalizing tree with
  | nil => exact Grows.refl tree
  | cons path above ih =>
      rw [makeDirectoriesFrom]
      split
      · exact Grows.refl tree
      · split
        · rename_i hmake
          exact grows_makeDirectory hmake
        · have habove := ih tree
          split
          · rename_i hfault
            rw [hfault] at habove
            exact habove
          · rename_i hdone
            rw [hdone] at habove
            split
            · rename_i hmake
              exact habove.trans (grows_makeDirectory hmake)
            · exact habove
        · exact Grows.refl tree

theorem grows_makeDirectories (tree : FileTree) (working : Place) (path : Text) :
    Grows tree (tree.makeDirectories working path).1 :=
  grows_makeDirectoriesFrom working (Path.ancestors path) tree

/-! ## Written files -/

/-- A new file keeps every way through the tree, unless it stands in the place of a directory. -/
theorem passes_put {tree : FileTree} {place : Place} (h : tree.node? place ≠ some .directory)
    (node : Node) : Passes tree (tree.put place node) where
  directory p hp := by
    rw [node?_put]
    split
    · rfl
    · split
      · rename_i hplace
        rw [hplace] at hp
        exact absurd hp h
      · exact hp
  present p hp := by
    rw [node?_put]
    split
    · rfl
    · split
      · rfl
      · exact hp

/-- A path that can be located is cut ahead of its last part, with nothing but slashes behind it. -/
theorem walk_of_locate {tree : FileTree} {working directory : Place} {path last : Text}
    (h : tree.locate working path = .ok (directory, last, false)) :
    ∃ pieces, Text.splitOn '/' path = pieces ++ [last] ∧ pathFault? path = none ∧
      tree.walk (start working path) pieces = .ok directory ∧
      tree.node? directory = some .directory := by
  rw [locate] at h
  cases hfault : pathFault? path with
  | some fault =>
      rw [hfault] at h
      cases h
  | none =>
      rw [hfault] at h
      obtain ⟨-, -, h⟩ := exists_of_bind_eq_ok h
      obtain ⟨place, hwalk, h⟩ := exists_of_bind_eq_ok h
      split at h
      · cases h
      · rename_i hdirectory
        have hresult := Except.ok.inj h
        simp only [Prod.mk.injEq, decide_eq_false_iff_not, Nat.not_lt] at hresult
        obtain ⟨rfl, hlast, hlength⟩ := hresult
        -- no slash is dropped at the end, so the parts are the bare ones
        have hbare : (Text.splitOn '/' path).reverse.dropWhile (· = []) =
            (Text.splitOn '/' path).reverse := by
          refine (List.dropWhile_suffix _).eq_of_length_le ?_
          simpa using hlength
        rw [hbare, List.reverse_reverse] at hwalk hlast
        refine ⟨_, ?_, rfl, hwalk, not_not.1 hdirectory⟩
        have hne : Text.splitOn '/' path ≠ [] := Text.splitOn_ne_nil '/' path
        rw [List.getLast?_eq_some_getLast hne, Option.getD_some] at hlast
        rw [← hlast, List.dropLast_append_getLast hne]

/-- What a text that is written does to the tree. -/
structure Written (tree : FileTree) (working : Place) (path contents : Text)
    (other : FileTree) : Prop where
  eq_put : other = tree.put (placeOf working path) (.file (.text contents))
  permitted : tree.refusal? (placeOf working path) .opening = none
  not_directory : tree.node? (placeOf working path) ≠ some .directory
  resolve : other.resolve working path = .ok (placeOf working path)

theorem written_of_writeText {tree other : FileTree} {working : Place} {path contents : Text}
    (h : tree.writeText working path contents = .ok other) :
    Written tree working path contents other := by
  obtain ⟨⟨directory, last, slashes⟩, hlocate, h⟩ := exists_of_bind_eq_ok h
  dsimp only at h
  split at h
  · cases h
  · rename_i hname
    rw [not_or] at hname
    split at h
    · cases h
    · rename_i hlength
      split at h
      · cases h
      · rename_i hfile
        obtain ⟨_, hpermit, h⟩ := exists_of_bind_eq_ok h
        obtain ⟨-, -, h⟩ := exists_of_bind_eq_ok h
        cases h
        obtain ⟨hslashes, hname⟩ := hname
        rw [Bool.not_eq_true] at hslashes
        subst hslashes
        obtain ⟨pieces, hpieces, hfault, hwalk, hdirectory⟩ := walk_of_locate hlocate
        have hstep := step_of_isName hname directory
        have hplace : placeOf working path = directory ++ [last] := by
          rw [placeOf, hpieces, List.foldl_append, ← eq_foldl_of_walk hwalk]
          exact hstep
        have hpasses := passes_put hfile (.file (.text contents))
        rw [← hplace] at hpermit hfile hpasses ⊢
        refine ⟨rfl, permit_eq_ok_iff.1 hpermit, hfile, ?_⟩
        rw [resolve, hfault, hpieces]
        refine walk_concat_eq_ok_iff.2 ⟨directory, hpasses.walk hwalk,
          hpasses.directory directory hdirectory, .inr ⟨by omega, ?_⟩, hstep.trans hplace.symm⟩
        rw [node?_put, hplace]
        simp

/-- A text that is written can be read. -/
theorem readText_writeText {tree other : FileTree} {working : Place} {path contents : Text}
    (h : tree.writeText working path contents = .ok other) :
    other.readText working path = .ok contents := by
  obtain ⟨rfl, hpermitted, hfile, hresolve⟩ := written_of_writeText h
  -- the root is a directory, so it is not the place of the file
  have hroot : placeOf working path ≠ [] := by
    intro hroot
    rw [hroot] at hfile
    exact hfile rfl
  refine readText_eq_ok_iff.2 ⟨hresolve, hpermitted, ?_⟩
  rw [node?_put, if_neg hroot, if_pos rfl]

/-- Writing a text loses no text in another place. -/
theorem readText_writeText_of_ne {tree other : FileTree} {working : Place}
    {path contents path' t : Text} (h : tree.writeText working path contents = .ok other)
    (hread : tree.readText working path' = .ok t)
    (hne : placeOf working path' ≠ placeOf working path) :
    other.readText working path' = .ok t := by
  obtain ⟨rfl, -, hfile, -⟩ := written_of_writeText h
  obtain ⟨hresolve, hrefusal, hnode⟩ := readText_eq_ok_iff.1 hread
  refine readText_eq_ok_iff.2 ⟨(passes_put hfile _).resolve hresolve, hrefusal, ?_⟩
  rw [node?_put, if_neg hne]
  split
  · rename_i hroot
    rw [hroot] at hnode
    exact hnode
  · exact hnode

/-- New directories lose no text. -/
theorem Grows.readText {tree other : FileTree} (h : Grows tree other) {working : Place}
    {path t : Text} (hread : tree.readText working path = .ok t) :
    other.readText working path = .ok t := by
  obtain ⟨hresolve, hrefusal, hnode⟩ := readText_eq_ok_iff.1 hread
  rw [← h.refusal?] at hrefusal
  exact readText_eq_ok_iff.2 ⟨h.passes.resolve hresolve, hrefusal, h.node? _ _ hnode⟩

end FileTree

end SchemaCompiler
