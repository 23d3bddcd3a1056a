import Mathlib
import SchemaCompiler.Files.Assets
import SchemaCompiler.Proofs.Search.Found

namespace SchemaCompiler

/-! # Discovered files

A file that is found is named by its way from the source directory, if its path starts with the
components of that directory, and by its whole path otherwise (`Assets.nameOf_cases`). Such a name
gives the file back (`Assets.discover_readsBack`). The exception is a source directory that is
spelled with a single dot ahead of its steps (`Path.LedByDot`): the paths that a search finds have
lost the dot, so they are the names (`Assets.nameOf_of_ledByDot`). Discovery fails for its pattern,
or for a directory whose names cannot be listed (`Assets.cases_of_discover_eq_error`).
-/

namespace Assets

variable {tree : FileTree} {working : Place} {assets : Assets}

/-! ## Names of found files -/

/-- The name that a found file is given. -/
def nameOf (assets : Assets) (file : Text) : Text :=
  (Path.stripBase? assets.sourceDir file).getD file

/-- Some found files are discovered, each as often as it is found. -/
theorem exists_of_discover {pattern : Text} {names : List Text}
    (h : assets.discover tree working pattern = .ok names) :
    ∃ found, Glob.search tree working
        (Path.join (Pattern.escape assets.sourceDir) pattern) = .ok found ∧
      names = ((found.filter (tree.isFile working)).map assets.nameOf).mergeSort Path.le := by
  rw [discover] at h
  split at h
  · cases h
  · cases h
  · rename_i found hfound
    cases h
    exact ⟨found, hfound, rfl⟩

/-- Discovery fails for its pattern, or for a directory whose names cannot be listed. -/
theorem cases_of_discover_eq_error {pattern : Text} {e : Error}
    (h : assets.discover tree working pattern = .error e) :
    (∃ fault, e = .configuration (.badPattern pattern fault)) ∨
      ∃ path fault, e = .file path fault ∧ tree.listingFault? working path = some fault := by
  rw [discover] at h
  split at h
  · cases h
    exact .inl ⟨_, rfl⟩
  · rename_i path fault hsearch
    cases h
    rcases Glob.cases_of_search_eq_error hsearch with ⟨_, hpattern⟩ | ⟨directory, hrefusal⟩
    · cases hpattern
    · obtain ⟨f, hlisting, hfault⟩ := Option.map_eq_some_iff.1 hrefusal
      cases hfault
      exact .inr ⟨_, _, rfl, hlisting⟩
  · cases h

/-- Only a pattern with wildcards calls for the names in a directory. -/
example :
    let denied : FileFault := .other "Permission denied (os error 13)"
    let tree := (FileTree.empty.put ["src"] .directory).refuse ["src"] .opening denied
    discover tree [] ⟨"src"⟩ "*.dbdef" = .error (.file "src" denied) ∧
      discover tree [] ⟨"src"⟩ "queue.dbdef" = .ok [] := by
  decide +kernel

/-- A name gives back the file that it was given to. -/
structure ReadsBack (tree : FileTree) (working : Place) (assets : Assets) (file name : Text) :
    Prop where
  resolve : tree.resolve working (assets.path name) = tree.resolve working file
  hasFile : assets.hasFile tree working name = true
  read : assets.read tree working name =
    ((tree.readText working file).map Text.dropMark).mapError (.file (assets.path name))

theorem readsBack_of_resolve {file name : Text} (hfile : tree.isFile working file = true)
    (h : tree.resolve working (assets.path name) = tree.resolve working file) :
    ReadsBack tree working assets file name := by
  refine ⟨h, ?_, ?_⟩
  · rw [hasFile, FileTree.isFile, FileTree.find?, h]
    exact hfile
  · rw [read, FileTree.readText, h, ← FileTree.readText]
    cases tree.readText working file <;> rfl

/-- The place and the contents of a file. -/
theorem exists_of_isFile {file : Text} (h : tree.isFile working file = true) :
    ∃ place contents, tree.resolve working file = .ok place ∧
      tree.node? place = some (.file contents) := by
  rw [FileTree.isFile, FileTree.find?] at h
  cases hresolve : tree.resolve working file with
  | error fault =>
      rw [hresolve] at h
      cases h
  | ok place =>
      rw [hresolve] at h
      dsimp only at h
      split at h
      · rename_i contents hnode
        exact ⟨place, contents, rfl, hnode⟩
      · cases h

/-- A name that makes the steps of the file behind those of the source directory. -/
theorem readsBack_of_steps {file name : Text} (hfile : tree.isFile working file = true)
    (hstart : Path.isAbsolute (assets.path name) = Path.isAbsolute file)
    (hsteps : Path.steps (assets.path name) = Path.steps file) (hends : Path.EndsInStep name)
    (hlength : FileTree.byteLength (assets.path name) ≤ FileTree.maxPathLength) :
    ReadsBack tree working assets file name := by
  obtain ⟨place, contents, hresolve, -⟩ := exists_of_isFile hfile
  refine readsBack_of_resolve hfile ?_
  rw [hresolve]
  exact FileTree.resolve_of_steps hstart hsteps (hends.join assets.sourceDir) hlength hresolve

/-- The rest of a path behind the source directory. -/
theorem readsBack_of_rest {file name : Text} (hfile : tree.isFile working file = true)
    (hsource : ∀ contents,
      tree.node? (FileTree.placeOf working assets.sourceDir) ≠ some (.file contents))
    (hrest : Path.Rest assets.sourceDir file name)
    (hlength : FileTree.byteLength (assets.path name) ≤ FileTree.maxPathLength) :
    ReadsBack tree working assets file name := by
  refine readsBack_of_steps hfile ?_ ?_ (hrest.endsInStep fun hnil => ?_) hlength
  · rw [path, Path.isAbsolute_join _ hrest.relative, hrest.isAbsolute_eq]
  · rw [path, Path.steps_join _ hrest.relative, hrest.steps_eq]
  · -- otherwise the source directory would lead to the file itself
    obtain ⟨place, contents, hresolve, hnode⟩ := exists_of_isFile hfile
    have hsteps := hrest.steps_eq
    rw [hnil, List.append_nil] at hsteps
    rw [FileTree.eq_placeOf_of_resolve hresolve,
      FileTree.placeOf_of_steps hrest.isAbsolute_eq hsteps working] at hnode
    exact hsource contents hnode

/-- A name is the rest of the path behind the source directory or the whole path. -/
theorem nameOf_cases (assets : Assets) (file : Text) :
    Path.Rest assets.sourceDir file (assets.nameOf file) ∨
      assets.nameOf file = file ∧ (Path.components assets.sourceDir = [] ∨
        ¬Path.components assets.sourceDir <+: Path.components file) := by
  by_cases hbase : Path.components assets.sourceDir = []
  · refine .inr ⟨?_, .inl hbase⟩
    simp [nameOf, Path.stripBase?, hbase]
  · cases hstrip : Path.stripBase? assets.sourceDir file with
    | none =>
        refine .inr ⟨?_, .inr (Path.stripBase?_eq_none_iff.1 hstrip)⟩
        rw [nameOf, hstrip]
        rfl
    | some rest =>
        left
        rw [nameOf, hstrip]
        exact Path.rest_of_stripBase? hbase hstrip

/-- A path found from the source directory is the whole name only if the directory is spelled
without steps or with a single dot ahead of them. -/
theorem nameOf_of_behind {file : Text} (hbehind : Glob.Behind assets.sourceDir file) :
    Path.Rest assets.sourceDir file (assets.nameOf file) ∨
      assets.nameOf file = file ∧ Path.isAbsolute assets.sourceDir = false ∧
        (Path.steps assets.sourceDir = [] ∨ Path.LedByDot assets.sourceDir) := by
  refine (nameOf_cases assets file).imp_right fun ⟨hname, hsource⟩ => ⟨hname, ?_⟩
  rcases hsource with hnil | hstarts
  · have hsteps : Path.steps assets.sourceDir = [] := by
      rw [← Path.filter_components, hnil]
      rfl
    refine ⟨?_, .inl hsteps⟩
    rw [← Bool.not_eq_true, Path.isAbsolute_iff_mem_components, hnil]
    exact List.not_mem_nil
  · have habsolute : Path.isAbsolute assets.sourceDir = false := by
      rw [← Bool.not_eq_true]
      exact fun habsolute => hstarts (hbehind.of_absolute habsolute)
    refine ⟨habsolute, ?_⟩
    by_cases hsteps : Path.steps assets.sourceDir = []
    · exact .inl hsteps
    · refine .inr ⟨?_, hsteps⟩
      refine (Path.opening_of_relative habsolute).resolve_left fun hopening => ?_
      rw [Path.components_eq, hopening, List.nil_append] at hstarts
      exact hstarts (hbehind.of_relative habsolute hsteps)

/-- From a source directory that is spelled with a single dot, files are named by whole paths. -/
theorem nameOf_of_ledByDot {file : Text} (hbehind : Glob.Behind assets.sourceDir file)
    (hdot : Path.LedByDot assets.sourceDir) : assets.nameOf file = file := by
  have habsolute := hdot.relative
  obtain ⟨hopening, hsteps⟩ := hdot
  have hstrip : Path.stripBase? assets.sourceDir file = none := by
    rw [Path.stripBase?_eq_none_iff]
    intro hstarts
    obtain ⟨c, cs, hcons⟩ := List.exists_cons_of_ne_nil hsteps
    obtain ⟨behind, hsteps⟩ := hbehind.of_relative habsolute hsteps
    -- the path starts with a step, but the source directory starts with the dot
    rw [Path.components_eq, hopening, ← hsteps, hcons] at hstarts
    have hdot : c = .current := (List.cons_prefix_cons.1 hstarts).1.symm
    exact Path.not_mem_steps (.inr hdot) assets.sourceDir (hcons ▸ List.mem_cons_self)
  rw [nameOf, hstrip]
  rfl

/-- Otherwise the name makes the steps that are left behind the source directory. -/
theorem steps_nameOf {file : Text} (hbehind : Glob.Behind assets.sourceDir file)
    (hdot : ¬Path.LedByDot assets.sourceDir) :
    Path.steps file = Path.steps assets.sourceDir ++ Path.steps (assets.nameOf file) := by
  rcases nameOf_of_behind hbehind with hrest | ⟨hname, -, hsteps | hled⟩
  · exact hrest.steps_eq
  · rw [hname, hsteps, List.nil_append]
  · exact absurd hled hdot

/-- What a discovered file has for a name. -/
structure Discovered (tree : FileTree) (working : Place) (assets : Assets) (pattern file : Text) :
    Prop where
  /-- Only absolute patterns lead to absolute names. -/
  relative : Path.isAbsolute pattern = false → Path.isAbsolute (assets.nameOf file) = false
  /-- The name gives the file back, unless the source directory makes it longer than any path. -/
  readsBack : Path.isAbsolute pattern = true ∨ ¬Path.LedByDot assets.sourceDir →
    FileTree.byteLength (assets.path (assets.nameOf file)) ≤ FileTree.maxPathLength →
      ReadsBack tree working assets file (assets.nameOf file)
  /-- Behind a single dot the name is the way from the working directory. -/
  ledByDot : Path.isAbsolute pattern = false → Path.LedByDot assets.sourceDir →
    assets.nameOf file = file

theorem discovered_of_absolute {pattern file : Text} (hpattern : Path.isAbsolute pattern = true)
    (hfile : tree.isFile working file = true) (habsolute : Path.isAbsolute file = true)
    (hsource : ∀ contents,
      tree.node? (FileTree.placeOf working assets.sourceDir) ≠ some (.file contents)) :
    Discovered tree working assets pattern file := by
  have hno {P : Prop} (h : Path.isAbsolute pattern = false) : P := by
    rw [hpattern] at h
    cases h
  refine ⟨hno, fun _ hlength => ?_, hno⟩
  rcases nameOf_cases assets file with hrest | ⟨hname, -⟩
  · exact readsBack_of_rest hfile hsource hrest hlength
  · rw [hname]
    exact readsBack_of_resolve hfile (by rw [path, Path.join_of_isAbsolute _ habsolute])

theorem discovered_of_behind {pattern file : Text} (hpattern : Path.isAbsolute pattern = false)
    (hfile : tree.isFile working file = true) (hbehind : Glob.Behind assets.sourceDir file)
    (hsource : ∀ contents,
      tree.node? (FileTree.placeOf working assets.sourceDir) ≠ some (.file contents)) :
    Discovered tree working assets pattern file := by
  refine ⟨fun _ => ?_, fun hdot hlength => ?_, fun _ hdot => nameOf_of_ledByDot hbehind hdot⟩
  · rcases nameOf_of_behind hbehind with hrest | ⟨hname, habsolute, -⟩
    · exact hrest.relative
    · rw [hname, hbehind.isAbsolute_eq, habsolute]
  · rcases nameOf_of_behind hbehind with hrest | ⟨hname, habsolute, hsteps | hled⟩
    · exact readsBack_of_rest hfile hsource hrest hlength
    · -- the source directory is where the search started, so the name makes all the steps
      have hrelative : Path.isAbsolute file = false := hbehind.isAbsolute_eq.trans habsolute
      obtain ⟨place, contents, hresolve, hnode⟩ := exists_of_isFile hfile
      rw [hname] at hlength ⊢
      refine readsBack_of_steps hfile ?_ ?_ (FileTree.endsInStep_of_file hresolve hnode) hlength
      · rw [path, Path.isAbsolute_join _ hrelative, hbehind.isAbsolute_eq]
      · rw [path, Path.steps_join _ hrelative, hsteps, List.nil_append]
    · rcases hdot with hdot | hdot
      · rw [hpattern] at hdot
        cases hdot
      · exact absurd hled hdot

/-! ## Reading discovered files -/

/-- Discovery finds files and names them so that the names give them back, unless the source
directory is spelled with a single dot ahead of its steps: then the names are ways from the working
directory, which a reader takes for ways from the source directory. -/
theorem discover_readsBack (hnamed : tree.Named)
    (hsource : ∀ contents,
      tree.node? (FileTree.placeOf working assets.sourceDir) ≠ some (.file contents))
    {pattern : Text} {names : List Text} (h : assets.discover tree working pattern = .ok names) :
    ∃ found, Glob.search tree working
        (Path.join (Pattern.escape assets.sourceDir) pattern) = .ok found ∧
      names.Perm ((found.filter (tree.isFile working)).map assets.nameOf) ∧
      ∀ file ∈ found, tree.isFile working file = true →
        Discovered tree working assets pattern file := by
  obtain ⟨found, hfound, hnames⟩ := exists_of_discover h
  refine ⟨found, hfound, hnames ▸ List.mergeSort_perm _ _, fun file hmem hfile => ?_⟩
  cases hpattern : Path.isAbsolute pattern with
  | true =>
      rw [Path.join_of_isAbsolute _ hpattern] at hfound
      have habsolute := Glob.isAbsolute_of_search hnamed hfound hmem hfile
      exact discovered_of_absolute hpattern hfile (habsolute.trans hpattern) hsource
  | false =>
      exact discovered_of_behind hpattern hfile
        (Glob.behind_of_search hnamed hpattern hfound hmem hfile) hsource

/-! ### A directory with brackets, and one behind a dot -/

/-- Two directories that a pattern could confuse, with a file each. -/
def bracketsTree : FileTree :=
  ((((FileTree.empty.put ["sk"] .directory).put ["sk", "defs[1]"] .directory).put
    ["sk", "defs[1]", "queue.dbdef"] (.file (.text "TBL\nNAME:queue\n"))).put
      ["sk", "defs1"] .directory).put ["sk", "defs1", "other.dbdef"] (.file .binary)

theorem discover_readsBack_brackets :
    bracketsTree.Named ∧
      Assets.discover bracketsTree ["sk"] ⟨"defs[1]"⟩ "*.dbdef" = .ok ["queue.dbdef"] ∧
      ReadsBack bracketsTree ["sk"] ⟨"defs[1]"⟩ "defs[1]/queue.dbdef" "queue.dbdef" := by
  have hnamed : bracketsTree.Named := by decide
  have hdiscover : Assets.discover bracketsTree ["sk"] ⟨"defs[1]"⟩ "*.dbdef" =
      .ok ["queue.dbdef"] := by cbv
  have hsource : ∀ contents, bracketsTree.node?
      (FileTree.placeOf ["sk"] (⟨"defs[1]"⟩ : Assets).sourceDir) ≠ some (.file contents) := by
    intro contents h
    have hnode : bracketsTree.node? (FileTree.placeOf ["sk"] (⟨"defs[1]"⟩ : Assets).sourceDir) =
      some .directory := by decide
    rw [hnode] at h
    cases h
  obtain ⟨found, hfound, -, hall⟩ := discover_readsBack hnamed hsource hdiscover
  have hsearch : Glob.search bracketsTree ["sk"] (Path.join (Pattern.escape "defs[1]") "*.dbdef") =
      .ok ["defs[1]/queue.dbdef"] := by cbv
  rw [hsearch] at hfound
  cases hfound
  have hname : Assets.nameOf ⟨"defs[1]"⟩ "defs[1]/queue.dbdef" = "queue.dbdef" := by decide
  have hread := (hall _ List.mem_cons_self (by decide +kernel)).readsBack
    (.inr fun hdot => absurd hdot.1 (by decide)) (by decide)
  rw [hname] at hread
  exact ⟨hnamed, hdiscover, hread⟩

/-- A directory with one file. -/
def dotTree : FileTree :=
  ((FileTree.empty.put ["sk"] .directory).put ["sk", "src"] .directory).put
    ["sk", "src", "queue.dbdef"] (.file (.text "TBL\nNAME:queue\n"))

/-- From `./src` the file is named as from the working directory, and is not there for a reader. -/
theorem discovered_misnamed :
    (⟨"./src"⟩ : Assets).discover dotTree ["sk"] "*.dbdef" = .ok ["src/queue.dbdef"] ∧
      (⟨"./src"⟩ : Assets).hasFile dotTree ["sk"] "src/queue.dbdef" = false ∧
      (⟨"./src"⟩ : Assets).read dotTree ["sk"] "src/queue.dbdef" =
        .error (.file "./src/src/queue.dbdef" .notFound) ∧
      (⟨"./src"⟩ : Assets).read dotTree ["sk"] "queue.dbdef" = .ok "TBL\nNAME:queue\n" := by
  refine ⟨?_, ?_, ?_, ?_⟩ <;> decide +kernel

end Assets

end SchemaCompiler
