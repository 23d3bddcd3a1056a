import SchemaCompiler.Proofs.Effects
import SchemaCompiler.Proofs.FileTree

namespace SchemaCompiler

/-! # Runs that write files

A run that writes a text gets to the end only if the text can be read there
(`Run.readText_of_writeFile`), and it loses no text in another place. So of texts that are written
one after another, every one can be read that no later one goes over (`Run.readText_of_writeFiles`).
-/

namespace Run

variable {host : Host} {world w : World}

/-! ## One file -/

/-- Making the directory of a file changes nothing that is there. -/
theorem grows_makeParent {path : Text}
    (h : (makeParent path).execute host world = (.ok (), w)) :
    FileTree.Grows world.files w.files := by
  unfold makeParent at h
  obtain ⟨_, _, hread, h⟩ := exists_of_execute_bind_eq_ok h
  cases hread
  cases hparent : Path.parent? path with
  | none =>
      rw [hparent] at h
      cases h
      exact FileTree.Grows.refl _
  | some parent =>
      have hgrows := FileTree.grows_makeDirectories world.files host.working parent
      rw [hparent] at h
      obtain ⟨_, _, hget, h⟩ := exists_of_execute_bind_eq_ok h
      cases hget
      -- the tree is kept as it is then, and only then the result is looked at
      rcases hmake : world.files.makeDirectories host.working parent with ⟨files, fault | _⟩
      · rw [hmake] at h
        cases h
      · rw [hmake] at h hgrows
        cases h
        exact hgrows

/-- A text that is written first gets its directories and then its file. -/
theorem writeText_of_writeFile {path contents : Text}
    (h : (writeFile path contents).execute host world = (.ok (), w)) :
    ∃ tree, FileTree.Grows world.files tree ∧
      tree.writeText host.working path contents = .ok w.files := by
  obtain ⟨_, w', hparent, h⟩ := exists_of_execute_bind_eq_ok h
  refine ⟨w'.files, grows_makeParent hparent, ?_⟩
  obtain ⟨_, _, hread, h⟩ := exists_of_execute_bind_eq_ok h
  cases hread
  obtain ⟨_, _, hget, h⟩ := exists_of_execute_bind_eq_ok h
  cases hget
  cases hwrite : w'.files.writeText host.working path contents with
  | ok files =>
      rw [hwrite] at h
      cases h
      rfl
  | error fault =>
      rw [hwrite] at h
      cases h

/-- A text that is written can be read. -/
theorem readText_of_writeFile {path contents : Text}
    (h : (writeFile path contents).execute host world = (.ok (), w)) :
    w.files.readText host.working path = .ok contents := by
  obtain ⟨tree, -, hwrite⟩ := writeText_of_writeFile h
  exact FileTree.readText_writeText hwrite

/-- Writing a text loses no text in another place. -/
theorem readText_of_writeFile_of_ne {path contents path' t : Text}
    (h : (writeFile path contents).execute host world = (.ok (), w))
    (hread : world.files.readText host.working path' = .ok t)
    (hne : FileTree.placeOf host.working path' ≠ FileTree.placeOf host.working path) :
    w.files.readText host.working path' = .ok t := by
  obtain ⟨tree, hgrows, hwrite⟩ := writeText_of_writeFile h
  exact FileTree.readText_writeText_of_ne hwrite (hgrows.readText hread) hne

/-! ## One file after another -/

variable (path : Text → Text) {entries : List (Text × Text)}

/-- Writing texts loses none in other places. -/
theorem readText_of_writeFiles_of_ne {path' t : Text}
    (h : (entries.forM fun (name, text) => writeFile (path name) text).execute host world =
      (.ok (), w))
    (hread : world.files.readText host.working path' = .ok t)
    (hne : ∀ entry ∈ entries,
      FileTree.placeOf host.working path' ≠ FileTree.placeOf host.working (path entry.1)) :
    w.files.readText host.working path' = .ok t := by
  induction entries generalizing world with
  | nil =>
      cases h
      exact hread
  | cons entry rest ih =>
      obtain ⟨_, w', hwrite, hrest⟩ := exists_of_execute_bind_eq_ok h
      obtain ⟨hfirst, hne⟩ := List.forall_mem_cons.1 hne
      exact ih hrest (readText_of_writeFile_of_ne hwrite hread hfirst) hne

/-- Of texts that are written one after another, those can be read that no later one goes over. -/
theorem readText_of_writeFiles {before after : List (Text × Text)} {name text : Text}
    (h : (entries.forM fun (name, text) => writeFile (path name) text).execute host world =
      (.ok (), w))
    (hentries : entries = before ++ (name, text) :: after)
    (hne : ∀ entry ∈ after,
      FileTree.placeOf host.working (path name) ≠ FileTree.placeOf host.working (path entry.1)) :
    w.files.readText host.working (path name) = .ok text := by
  induction before generalizing entries world with
  | nil =>
      subst hentries
      obtain ⟨_, w', hwrite, hrest⟩ := exists_of_execute_bind_eq_ok h
      exact readText_of_writeFiles_of_ne path hrest (readText_of_writeFile hwrite) hne
  | cons entry before ih =>
      subst hentries
      obtain ⟨_, w', -, hrest⟩ := exists_of_execute_bind_eq_ok h
      exact ih hrest rfl

end Run

end SchemaCompiler
