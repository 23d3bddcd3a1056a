import SchemaCompiler.Compile
import SchemaCompiler.Proofs.Effects
import SchemaCompiler.Proofs.Results

namespace SchemaCompiler.Compile

/-! # Projects that cannot be read

Reading a project has no effects and comes to what its files give (`reads_readProject`). The reading
has four phases: the makefile, the mapping, the search for definition files, and these files one
after another. `Unreadable` says in which of them a project fails, all before it having succeeded,
and with which error; `projectIn_eq_error_iff` says that projects fail in no other way.
-/

/-! ## What the files give -/

section

variable (config : Config)

/-- The makefile. -/
def makefileIn (host : Host) (files : FileTree) : Except Error Makefile :=
  config.assets.read files host.working config.makefile >>= fun contents =>
    during (.readingMakefile config.makefile) (Makefile.parse contents)

/-- The mapping that a makefile names. -/
def mappingIn (makefile : Makefile) (host : Host) (files : FileTree) : Except Error Mapping :=
  config.assets.read files host.working makefile.mappingFile >>= fun contents =>
    .ok (Mapping.parse contents)

/-- The definition files that a makefile leads to, of which there must be some. -/
def definitionsIn (makefile : Makefile) (host : Host) (files : FileTree) :
    Except Error (List Text) :=
  config.assets.discover files host.working makefile.definitions >>= fun found =>
    if found = [] then .error (.configuration (.noDefinitions makefile.definitions)) else .ok found

/-- The object in a definition file. -/
def definitionIn (mapping : Mapping) (file : Text) (host : Host) (files : FileTree) :
    Except Error Object :=
  config.assets.read files host.working file >>= parseDefinition mapping file

/-- The whole project. -/
def projectIn (host : Host) (files : FileTree) : Except Error Database := do
  let makefile ← makefileIn config host files
  let mapping ← mappingIn config makefile host files
  let found ← definitionsIn config makefile host files
  let objects ← found.mapM fun file => definitionIn config mapping file host files
  .ok (.ofObjects mapping makefile.outputs objects)

/-! ## Reading finds what the files give -/

theorem reads_readMakefile : (readMakefile config).Reads (makefileIn config) := by
  have h := (Run.reads_readAsset config.assets config.makefile).bind fun contents =>
    (Run.reads_ofResult (during (.readingMakefile config.makefile) (Makefile.parse contents))).bind
      fun makefile => (Run.reads_notifyAll (Makefile.notices contents)).bind fun _ =>
        (Run.reads_notify ⟨.info, "read makefile", [("makefile", .plain config.makefile),
          ("outputs", .number makefile.outputs.length)]⟩).bind fun _ => Run.reads_pure makefile
  simp only [ok_bind, bind_ok] at h
  exact h

theorem reads_readMapping (makefile : Makefile) :
    (readMapping config makefile).Reads (mappingIn config makefile) := by
  have h := (Run.reads_readAsset config.assets makefile.mappingFile).bind fun contents =>
    (Run.reads_notifyAll (Mapping.notices contents)).bind fun _ =>
      (Run.reads_notify ⟨.info, "read mapping",
        [("mapping", .plain makefile.mappingFile)]⟩).bind fun _ =>
          Run.reads_pure (Mapping.parse contents)
  exact h

theorem reads_findDefinitions (makefile : Makefile) :
    (findDefinitions config makefile).Reads (definitionsIn config makefile) := by
  refine (Run.reads_discoverAssets config.assets makefile.definitions).bind fun found => ?_
  by_cases h : found = []
  · simp only [if_pos h]
    exact fun _ world => ⟨world, rfl, rfl⟩
  · simp only [if_neg h]
    exact (Run.reads_notify _).bind fun _ => Run.reads_pure found

theorem reads_readDefinition (mapping : Mapping) (file : Text) :
    (readDefinition config mapping file).Reads (definitionIn config mapping file) := by
  have h := (Run.reads_readAsset config.assets file).bind fun contents =>
    (Run.reads_notifyAll (definitionNotices mapping contents)).bind fun _ =>
      (Run.reads_ofResult (parseDefinition mapping file contents)).bind fun object =>
        (Run.reads_notify ⟨.debug, "parsed definition", [("file", .plain file),
          ("ty", .quoted object.kind.label), ("name", .quoted object.name)]⟩).bind fun _ =>
            Run.reads_pure object
  simp only [ok_bind, bind_ok] at h
  exact h

/-- Reading a project has no effects and finds what the files give. -/
theorem reads_readProject : (readProject config).Reads (projectIn config) :=
  (reads_readMakefile config).bind fun makefile =>
    (reads_readMapping config makefile).bind fun mapping =>
      (reads_findDefinitions config makefile).bind fun found =>
        (Run.Reads.mapM (reads_readDefinition config mapping) found).bind fun objects =>
          Run.reads_pure (Database.ofObjects mapping makefile.outputs objects)

end

/-! ## Phases -/

/-- The project cannot be read, and fails with an error in the first phase that fails. -/
inductive Unreadable (config : Config) (host : Host) (files : FileTree) : Error → Prop
  /-- There is no makefile, or none that can be read. -/
  | makefile {e : Error} (h : makefileIn config host files = .error e) :
      Unreadable config host files e
  /-- The makefile names no mapping that can be read. -/
  | mapping {makefile : Makefile} {e : Error}
      (hmakefile : makefileIn config host files = .ok makefile)
      (h : mappingIn config makefile host files = .error e) : Unreadable config host files e
  /-- The makefile leads to no definition files, or through a directory that cannot be listed. -/
  | definitions {makefile : Makefile} {mapping : Mapping} {e : Error}
      (hmakefile : makefileIn config host files = .ok makefile)
      (hmapping : mappingIn config makefile host files = .ok mapping)
      (h : definitionsIn config makefile host files = .error e) : Unreadable config host files e
  /-- A definition file cannot be read, and all ahead of it can. -/
  | definition {makefile : Makefile} {mapping : Mapping} {before after : List Text} {file : Text}
      {e : Error} (hmakefile : makefileIn config host files = .ok makefile)
      (hmapping : mappingIn config makefile host files = .ok mapping)
      (hfound : definitionsIn config makefile host files = .ok (before ++ file :: after))
      (hbefore : ∀ f ∈ before, ∀ e', definitionIn config mapping f host files ≠ .error e')
      (h : definitionIn config mapping file host files = .error e) :
      Unreadable config host files e

/-- A project fails in the first phase that fails. -/
theorem projectIn_eq_error_iff {config : Config} {host : Host} {files : FileTree} {e : Error} :
    projectIn config host files = .error e ↔ Unreadable config host files e := by
  constructor
  · intro h
    rcases bind_eq_error_iff.1 h with h | ⟨makefile, hmakefile, h⟩
    · exact .makefile h
    rcases bind_eq_error_iff.1 h with h | ⟨mapping, hmapping, h⟩
    · exact .mapping hmakefile h
    rcases bind_eq_error_iff.1 h with h | ⟨found, hfound, h⟩
    · exact .definitions hmakefile hmapping h
    rcases bind_eq_error_iff.1 h with h | ⟨objects, -, h⟩
    · obtain ⟨before, file, after, rfl, hbefore, hfile⟩ := mapM_eq_error_iff.1 h
      exact .definition hmakefile hmapping hfound hbefore hfile
    · cases h
  · intro h
    cases h with
    | makefile h => rw [projectIn, h, error_bind]
    | mapping hmakefile h => rw [projectIn, hmakefile, ok_bind, h, error_bind]
    | definitions hmakefile hmapping h =>
        rw [projectIn, hmakefile, ok_bind, hmapping, ok_bind, h, error_bind]
    | @definition _ _ before after file _ hmakefile hmapping hfound hbefore h =>
        have hobjects := mapM_eq_error_iff.2 ⟨before, file, after, rfl, hbefore, h⟩
        rw [projectIn, hmakefile, ok_bind, hmapping, ok_bind, hfound, ok_bind, hobjects, error_bind]

end SchemaCompiler.Compile
