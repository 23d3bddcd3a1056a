import SchemaCompiler.Proofs.Discovery
import SchemaCompiler.Proofs.FailureCategories
import SchemaCompiler.Proofs.Grammar.File

namespace SchemaCompiler

/-! # Failures of readings and compilations

Main statement: `Compile.failures_classified`, for the reading of a project and for a compilation:

* every error belongs to exactly one category, and its words end with those of its cause;
* a definition file that gives no object is named in the words of the error;
* errors about the type of a constraint mean that a table has such a constraint ahead of any other
  offence (`Compile.StoppedAtConstraint`).
-/

/-! ## Definition files -/

namespace Grammar

open DefinitionLine (objectOf propertiesOf)
open Source (firstLine?)

variable {m : Mapping} {kind : ObjectKind} {marker : Marker} {rest contents : Text} {e : Error}

/-- The rest of a line names an object, but no type that a constraint can have. -/
def Untyped (rest : Text) : Prop :=
  objectOf rest ≠ [] ∧
    ∀ type, (propertiesOf rest).value? "type" = some type → ¬KnownType type

/-- The first line of a table that is not admissible is an untyped constraint. -/
def StopsAtConstraint (contents : Text) : Prop :=
  ∃ before line after rest, lines .table contents = before ++ line :: after ∧
    (∀ l ∈ before, LineAdmissible .table l) ∧ Marker.split? line = some (.constraint, rest) ∧
    Untyped rest

/-- The categories that definition files may be refused with. -/
def refusals : List Category := [.definition, .constraintType]

theorem Offence.among (h : Offence m kind marker rest e) : e.Among refusals := by
  cases h <;> exact Error.among_ofFault rfl (by decide)

/-- Only untyped constraints are refused for their type. -/
theorem Offence.constraintType_iff (h : Offence m kind marker rest e) :
    e.is .constraintType = true ↔ kind = .table ∧ marker = .constraint ∧ Untyped rest := by
  cases h with
  | untypedConstraint hobject htype =>
      refine iff_of_true rfl ⟨rfl, rfl, hobject, fun type hsome => ?_⟩
      rw [htype] at hsome
      cases hsome
  | unknownConstraintType hobject htype hunknown =>
      refine iff_of_true rfl ⟨rfl, rfl, hobject, fun type hsome => ?_⟩
      rw [htype] at hsome
      cases hsome
      exact hunknown
  | constraintWithoutColumns _ htype hknown _ =>
      refine iff_of_false nofun ?_
      rintro ⟨-, -, -, hunknown⟩
      exact hunknown _ htype hknown
  | blankObject _ hblank =>
      refine iff_of_false nofun ?_
      rintro ⟨-, -, hobject, -⟩
      exact hobject hblank
  | blankName => exact iff_of_false nofun nofun
  | unknownSortOrder _ _ _ _ => exact iff_of_false nofun nofun
  | indexWithoutColumns _ _ => exact iff_of_false nofun nofun
  | namelessParameter _ => exact iff_of_false nofun nofun
  | unknownDirection _ _ _ => exact iff_of_false nofun nofun
  | untypedReturn _ => exact iff_of_false nofun nofun
  | untypedReturnColumn _ _ _ => exact iff_of_false nofun nofun

theorem FirstOffence.among (h : FirstOffence m kind contents e) : e.Among refusals := by
  cases h with
  | wrongFirstLine _ => exact Error.among_ofFault rfl (by decide)
  | line _ _ _ h =>
      obtain ⟨_, _, _, h⟩ := h
      exact h.among.within _
  | openBody _ _ _ => exact Error.among_ofFault rfl (by decide)
  | nameless _ _ _ _ => exact Error.among_ofFault rfl (by decide)

/-- An untyped constraint is refused for its type, if no offence comes before. -/
theorem StopsAtConstraint.exists_firstOffence (m : Mapping)
    (hfirst : firstLine? contents = some ObjectKind.table.discriminator)
    (h : StopsAtConstraint contents) :
    ∃ e, FirstOffence m .table contents e ∧ e.is .constraintType = true := by
  obtain ⟨before, line, after, rest, hlines, hbefore, hsplit, huntyped⟩ := h
  have hnot : ¬Admissible .table .constraint rest := by
    rintro ⟨-, ⟨type, htype, hknown⟩, -⟩
    exact huntyped.2 type htype hknown
  obtain ⟨e, he⟩ := exists_offence m hnot
  have hoffence : LineOffence m .table line e := ⟨_, _, hsplit, he⟩
  exact ⟨_, .line hfirst hlines hbefore hoffence, he.constraintType_iff.2 ⟨rfl, rfl, huntyped⟩⟩

/-- Files are refused for the type of a constraint exactly if they are tables whose first offence is
an untyped constraint. -/
theorem FirstOffence.constraintType_iff (h : FirstOffence m kind contents e)
    (hfirst : firstLine? contents = some kind.discriminator) :
    e.is .constraintType = true ↔ kind = .table ∧ StopsAtConstraint contents := by
  constructor
  · intro his
    cases h with
    | wrongFirstLine _ => cases his
    | line _ hlines hbefore h =>
        obtain ⟨marker, rest, hsplit, h⟩ := h
        rw [Error.is_within, h.constraintType_iff] at his
        obtain ⟨rfl, rfl, huntyped⟩ := his
        exact ⟨rfl, _, _, _, rest, hlines, hbefore, hsplit, huntyped⟩
    | openBody _ _ _ => cases his
    | nameless _ _ _ _ => cases his
  · rintro ⟨rfl, hstops⟩
    -- a file has one first offence
    obtain ⟨e', he', his⟩ := hstops.exists_firstOffence m hfirst
    rw [← Object.parse_eq_error_iff] at h he'
    rw [h] at he'
    cases he'
    exact his

end Grammar

/-! ## Paths in words -/

/-- A path that is seen from a base is spelled out at the end. -/
theorem Path.suffix_join (base path : Text) : path <:+ join base path := by
  rw [join]
  split
  · exact List.suffix_refl path
  · split
    · exact List.suffix_append base path
    · exact List.suffix_append (base ++ ['/']) path

/-- A file that cannot be accessed is named. -/
theorem Error.infix_display_file (path : Text) (fault : FileFault) :
    path <:+: (Error.file path fault).display := by
  show path <:+: "failed to access `".toList ++ path ++ "`: ".toList ++ fault.message
  exact (List.infix_append "failed to access `".toList path "`: ".toList).trans
    (List.prefix_append _ _).isInfix

/-- A file of no kind is named. -/
theorem Error.infix_display_objectKind (found path : Text) :
    path <:+: (Error.ofFault (.objectKind found path)).display := by
  cases found with
  | nil => exact List.infix_append "definition file `".toList path _
  | cons c cs => exact List.infix_append ("unknown object type `".toList ++ (c :: cs) ++ _) path _

/-- A file that cannot be parsed is named. -/
theorem Error.infix_display_parsingFile (path : Text) (e : Error) :
    path <:+: (e.within (.parsingFile path)).display := by
  rw [Error.display_within, List.append_assoc]
  refine (List.infix_append "failed to parse definition file `".toList path "`".toList).trans ?_
  exact (List.prefix_append _ _).isInfix

namespace Compile

section

variable {config : Config} {host : Host} {files : FileTree} {mapping : Mapping} {file : Text}
  {makefile : Makefile} {e : Error}

/-! ## Phases of reading -/

/-- The categories that reading a project may fail with. -/
def failures : List Category := [.configuration, .constraintType, .definition, .objectKind, .file]

theorem among_of_makefileIn_eq_error (h : makefileIn config host files = .error e) :
    e.Among [.file, .configuration] := by
  rcases bind_eq_error_iff.1 h with h | ⟨contents, -, h⟩
  · obtain ⟨fault, rfl⟩ := Assets.exists_of_read_eq_error h
    exact Error.among_ofFault rfl (by decide)
  · obtain ⟨e', hparse, rfl⟩ := during_eq_error_iff.1 h
    rw [Makefile.parse] at hparse
    split at hparse
    · cases hparse
      exact (Error.among_ofFault rfl (by decide)).within _
    · cases hparse

theorem among_of_mappingIn_eq_error (h : mappingIn config makefile host files = .error e) :
    e.Among [.file] := by
  rcases bind_eq_error_iff.1 h with h | ⟨contents, -, h⟩
  · obtain ⟨fault, rfl⟩ := Assets.exists_of_read_eq_error h
    exact Error.among_ofFault rfl (by decide)
  · cases h

theorem among_of_definitionsIn_eq_error (h : definitionsIn config makefile host files = .error e) :
    e.Among [.configuration, .file] := by
  rcases bind_eq_error_iff.1 h with h | ⟨found, -, h⟩
  · rcases Assets.cases_of_discover_eq_error h with ⟨fault, rfl⟩ | ⟨path, fault, rfl, -⟩
    · exact Error.among_ofFault rfl (by decide)
    · exact Error.among_ofFault rfl (by decide)
  · split at h
    · cases h
      exact Error.among_ofFault rfl (by decide)
    · cases h

/-- Why a definition file gives no object. -/
inductive Refused (config : Config) (mapping : Mapping) (file : Text) (host : Host)
    (files : FileTree) : Error → Prop
  /-- There is no text to be read. -/
  | unreadable {e : Error} (hread : config.assets.read files host.working file = .error e) :
      Refused config mapping file host files e
  /-- The first line, if there is one, names no kind. -/
  | unknownKind {contents : Text}
      (hread : config.assets.read files host.working file = .ok contents)
      (hsniff : Object.sniff? contents = none) :
      Refused config mapping file host files
        (.ofFault (.objectKind ((Source.firstLine? contents).getD []) file))
  /-- The file is not as a file of its kind has to be. -/
  | offence {contents : Text} {kind : ObjectKind} {e : Error}
      (hread : config.assets.read files host.working file = .ok contents)
      (hsniff : Object.sniff? contents = some kind)
      (hoffence : Grammar.FirstOffence mapping kind contents e) :
      Refused config mapping file host files (e.within (.parsingFile file))

theorem definitionIn_eq_error_iff :
    definitionIn config mapping file host files = .error e ↔
      Refused config mapping file host files e := by
  constructor
  · intro h
    rcases bind_eq_error_iff.1 h with hread | ⟨contents, hread, hparse⟩
    · exact .unreadable hread
    · rw [parseDefinition] at hparse
      split at hparse
      · rename_i kind hsniff
        obtain ⟨e', hoffence, rfl⟩ := during_eq_error_iff.1 hparse
        exact .offence hread hsniff (Object.parse_eq_error_iff.1 hoffence)
      · rename_i hsniff
        cases hparse
        exact .unknownKind hread hsniff
  · intro h
    cases h with
    | unreadable hread => rw [definitionIn, hread, error_bind]
    | unknownKind hread hsniff => rw [definitionIn, hread, ok_bind, parseDefinition, hsniff]
    | offence hread hsniff hoffence =>
        rw [definitionIn, hread, ok_bind, parseDefinition, hsniff, during_eq_error_iff]
        exact ⟨_, Object.parse_eq_error_iff.2 hoffence, rfl⟩

theorem Refused.among (h : Refused config mapping file host files e) :
    e.Among [.file, .objectKind, .definition, .constraintType] := by
  cases h with
  | unreadable hread =>
      obtain ⟨fault, rfl⟩ := Assets.exists_of_read_eq_error hread
      exact Error.among_ofFault rfl (by decide)
  | unknownKind _ _ => exact Error.among_ofFault rfl (by decide)
  | offence _ _ hoffence => exact (hoffence.among.mono (by decide)).within _

/-- A file that gives no object is named by the error. -/
theorem Refused.infix_display (h : Refused config mapping file host files e) :
    file <:+: e.display := by
  cases h with
  | unreadable hread =>
      obtain ⟨fault, rfl⟩ := Assets.exists_of_read_eq_error hread
      exact (Path.suffix_join config.sourceDir file).isInfix.trans
        (Error.infix_display_file _ fault)
  | unknownKind _ _ => exact Error.infix_display_objectKind _ file
  | offence _ _ _ => exact Error.infix_display_parsingFile file _

/-- The kind that a file is read as is the one that its first line names. -/
theorem firstLine?_of_sniff? {contents : Text} {kind : ObjectKind}
    (h : Object.sniff? contents = some kind) :
    Source.firstLine? contents = some kind.discriminator := by
  obtain ⟨first, hfirst, hkind⟩ := Option.bind_eq_some_iff.1 h
  have hdiscriminator := List.find?_some hkind
  rw [decide_eq_true_eq] at hdiscriminator
  rw [hfirst, hdiscriminator]

/-- The file is a table whose first offence is an untyped constraint. -/
def StopsAtConstraint (config : Config) (host : Host) (files : FileTree) (file : Text) : Prop :=
  ∃ contents, config.assets.read files host.working file = .ok contents ∧
    Object.sniff? contents = some .table ∧ Grammar.StopsAtConstraint contents

/-- Files are refused for the type of a constraint exactly if they stop at one. -/
theorem exists_refused_constraintType_iff (mapping : Mapping) :
    (∃ e, Refused config mapping file host files e ∧ e.is .constraintType = true) ↔
      StopsAtConstraint config host files file := by
  constructor
  · rintro ⟨e, h, his⟩
    cases h with
    | unreadable hread =>
        obtain ⟨fault, rfl⟩ := Assets.exists_of_read_eq_error hread
        cases his
    | unknownKind _ _ => cases his
    | offence hread hsniff hoffence =>
        rw [Error.is_within, hoffence.constraintType_iff (firstLine?_of_sniff? hsniff)] at his
        obtain ⟨rfl, hstops⟩ := his
        exact ⟨_, hread, hsniff, hstops⟩
  · rintro ⟨contents, hread, hsniff, hstops⟩
    obtain ⟨e, he, his⟩ := hstops.exists_firstOffence mapping (firstLine?_of_sniff? hsniff)
    exact ⟨e.within (.parsingFile file), .offence hread hsniff he, his⟩

end

/-! ## Whole runs -/

section

variable (config : Config) (host : Host) (files : FileTree)

/-- Reading the project comes to a definition file: all before it has been read, and the mapping is
the one given. -/
def Reaches (mapping : Mapping) (file : Text) : Prop :=
  ∃ makefile before after, makefileIn config host files = .ok makefile ∧
    mappingIn config makefile host files = .ok mapping ∧
    definitionsIn config makefile host files = .ok (before ++ file :: after) ∧
    ∀ f ∈ before, ∀ e, definitionIn config mapping f host files ≠ .error e

/-- Reading the project comes to a table whose first offence is an untyped constraint. -/
def StoppedAtConstraint : Prop :=
  ∃ mapping file, Reaches config host files mapping file ∧ StopsAtConstraint config host files file

/-- How a reading or a compilation of a project fails. -/
structure FailsInOrder (result : Except Error Database) : Prop where
  /-- Every error has one category and ends with its cause. -/
  classified : ∀ e, result = .error e → e.Classified
  /-- A definition file that gives no object is named. -/
  named : ∀ mapping file e, Reaches config host files mapping file →
    definitionIn config mapping file host files = .error e → result = .error e ∧ file <:+: e.display
  /-- An error about the type of a constraint means that a table stops at one. -/
  constraintType : (∃ e, result = .error e ∧ e.is .constraintType = true) ↔
    StoppedAtConstraint config host files

variable {config host files}

/-- Reading a project fails with its configuration, its files and its definitions only. -/
theorem Unreadable.among {e : Error} (h : Unreadable config host files e) : e.Among failures := by
  cases h with
  | makefile h => exact (among_of_makefileIn_eq_error h).mono (by decide)
  | mapping _ h => exact (among_of_mappingIn_eq_error h).mono (by decide)
  | definitions _ _ h => exact (among_of_definitionsIn_eq_error h).mono (by decide)
  | definition _ _ _ _ h => exact (definitionIn_eq_error_iff.1 h).among.mono (by decide)

/-- A definition file that is reached and gives no object ends the reading. -/
theorem Reaches.unreadable {mapping : Mapping} {file : Text} {e : Error}
    (h : Reaches config host files mapping file)
    (hfile : definitionIn config mapping file host files = .error e) :
    Unreadable config host files e := by
  obtain ⟨makefile, before, after, hmakefile, hmapping, hfound, hbefore⟩ := h
  exact .definition hmakefile hmapping hfound hbefore hfile

/-- Readings fail for the type of a constraint exactly if they stop at one. -/
theorem exists_unreadable_constraintType_iff :
    (∃ e, Unreadable config host files e ∧ e.is .constraintType = true) ↔
      StoppedAtConstraint config host files := by
  constructor
  · rintro ⟨e, h, his⟩
    cases h with
    | makefile h => exact absurd his ((among_of_makefileIn_eq_error h).not_is (by decide))
    | mapping _ h => exact absurd his ((among_of_mappingIn_eq_error h).not_is (by decide))
    | definitions _ _ h => exact absurd his ((among_of_definitionsIn_eq_error h).not_is (by decide))
    | definition hmakefile hmapping hfound hbefore h =>
        have hreaches : Reaches config host files _ _ :=
          ⟨_, _, _, hmakefile, hmapping, hfound, hbefore⟩
        have hrefused := definitionIn_eq_error_iff.1 h
        have hstops := (exists_refused_constraintType_iff _).1 ⟨e, hrefused, his⟩
        exact ⟨_, _, hreaches, hstops⟩
  · rintro ⟨mapping, file, hreaches, hstops⟩
    obtain ⟨e, hrefused, his⟩ := (exists_refused_constraintType_iff mapping).2 hstops
    exact ⟨e, hreaches.unreadable (definitionIn_eq_error_iff.2 hrefused), his⟩

/-- A result that fails where the project is unreadable, and else for its outputs, fails in order.
-/
theorem failsInOrder_of_unreadable {result : Except Error Database}
    (hunreadable : ∀ e, Unreadable config host files e → result = .error e)
    (hresult : ∀ e, result = .error e →
      Unreadable config host files e ∨ e.Among Output.failures) :
    FailsInOrder config host files result where
  classified e he := by
    rcases hresult e he with h | h
    · exact h.among.classified
    · exact h.classified
  named mapping file e hreaches hfile :=
    ⟨hunreadable e (hreaches.unreadable hfile), (definitionIn_eq_error_iff.1 hfile).infix_display⟩
  constraintType := by
    rw [← exists_unreadable_constraintType_iff]
    constructor
    · rintro ⟨e, he, his⟩
      rcases hresult e he with h | h
      · exact ⟨e, h, his⟩
      · exact absurd his (h.not_is (by decide))
    · rintro ⟨e, h, his⟩
      exact ⟨e, hunreadable e h, his⟩

end

/-- Readings and compilations fail in order: with one category for every error, with the path of a
definition file that is at fault, and for the type of a constraint exactly where a table stops at
one. -/
theorem failures_classified (config : Config) (host : Host) (world : World) :
    FailsInOrder config host world.files ((readProject config).execute host world).1 ∧
      FailsInOrder config host world.files ((compile config).execute host world).1 := by
  obtain ⟨w, hread, -⟩ := reads_readProject config host world
  have hproject : ∀ e, Unreadable config host world.files e ↔
      projectIn config host world.files = .error e := fun e => projectIn_eq_error_iff.symm
  constructor
  · rw [hread]
    refine failsInOrder_of_unreadable (fun e h => (hproject e).1 h) fun e he => ?_
    exact .inl ((hproject e).2 he)
  · refine failsInOrder_of_unreadable (fun e h => ?_) fun e he => ?_
    · rw [(hproject e).1 h] at hread
      rw [compile, Run.execute_bind_of_error hread]
    · cases hresult : projectIn config host world.files with
      | error e' =>
          rw [hresult] at hread
          rw [compile, Run.execute_bind_of_error hread] at he
          cases he
          exact .inl ((hproject _).2 hresult)
      | ok db =>
          -- the project is read, so it is the outputs that fail
          rw [hresult] at hread
          rw [compile_of_project hread] at he
          rcases hwrite : (writeOutputs config db).execute host w with ⟨e' | _, w'⟩
          · rw [hwrite] at he
            cases he
            exact .inr (failsAmong_writeOutputs config db host w _ _ hwrite)
          · rw [hwrite] at he
            cases he

/-- A host that is never asked for anything. -/
def idle : Host := ⟨[], 2024, false, fun _ _ => .done, fun _ _ => .whole⟩

/-- A project of one table, of whose two offences the first is a foreign key. -/
def foreignKey : World where
  files := ⟨OrderedMap.ofList [
    (["makefile"], .file (.text "DEFINITIONS=jobs.dbdef\nOUTPUT=console")),
    (["sk_mapping.dbmap"], .file (.text [])),
    (["jobs.dbdef"], .file (.text "TBL\nNAME: jobs\nCONSTRAINT: fk(run);type=fk\nCOL:"))],
    OrderedMap.empty⟩
  prints := []
  notices := []
  exchanges := []

/-- What compiling it fails with. -/
def foreignKeyError : Error :=
  ((Error.ofFault (.constraintType (some "fk"))).within
    (.readingLine "CONSTRAINT: fk(run);type=fk")).within (.parsingFile "jobs.dbdef")

theorem failures_classified_foreignKey :
    ((compile .default).execute idle foreignKey).1 = .error foreignKeyError ∧
      foreignKeyError.Classified ∧ "jobs.dbdef".toList <:+: foreignKeyError.display ∧
      StoppedAtConstraint .default idle foreignKey.files := by
  have hreaches : Reaches .default idle foreignKey.files Mapping.default "jobs.dbdef" := by
    refine ⟨⟨"sk_mapping.dbmap", "jobs.dbdef", [OutputRequest.parse "console"]⟩, [], [], ?_⟩
    exact ⟨rfl, rfl, by decide +kernel, nofun⟩
  have hfile : definitionIn .default Mapping.default "jobs.dbdef" idle foreignKey.files =
      .error foreignKeyError := rfl
  have hfails := (failures_classified .default idle foreignKey).2
  obtain ⟨herror, hnamed⟩ := hfails.named _ _ _ hreaches hfile
  exact ⟨herror, hfails.classified _ herror, hnamed,
    hfails.constraintType.1 ⟨_, herror, rfl⟩⟩

/-- The same project, with a table that refuses to be opened. -/
example :
    let denied : FileFault := .other "Permission denied (os error 13)"
    let refusing := { foreignKey with
      files := foreignKey.files.refuse ["jobs.dbdef"] .opening denied }
    ((compile .default).execute idle refusing).1.map Database.size =
      .error (.file "./jobs.dbdef" denied) := by
  decide +kernel

end Compile

end SchemaCompiler
