import SchemaCompiler.Proofs.ScriptBook
import SchemaCompiler.Proofs.SentActions
import SchemaCompiler.Proofs.WrittenFiles

namespace SchemaCompiler

/-! # Scripts in files and in databases

Main statements:

* `Output.scripts_by_name`: one file of all scripts, and the scripts that a database is sent, hold
  the scripts by name, which is the order of the objects where those of one name stand together;
* `Output.scripts_kept`: every script can be read in a file at the end, unless each name has a file of
  its own and the file of a later name went to the same place.
-/

/-! ## Collected scripts -/

namespace ScriptOptions

/-- The file of a name. -/
def pathOf (options : ScriptOptions) (dir name : Text) : Text :=
  Path.join dir (options.fileName name)

/-- The place of the file of a name. -/
def placeOf (options : ScriptOptions) (working : Place) (dir name : Text) : Place :=
  FileTree.placeOf working (options.pathOf dir name)

/-- The script of a name is overtaken by the last one that goes to the same place. -/
def OvertakenBy (options : ScriptOptions) (working : Place) (dir : Text) (names : List Text)
    (name last : Text) : Prop :=
  ∃ before between after, names = before ++ name :: between ++ last :: after ∧
    options.placeOf working dir last = options.placeOf working dir name ∧
    ∀ later ∈ after, options.placeOf working dir last ≠ options.placeOf working dir later

end ScriptOptions

namespace Output

/-- The output takes in a database by adding scripts to a book. -/
structure Collects (make : ScriptBook → Output) : Prop where
  writeMapping : ∀ scripts mapping, (make scripts).writeMapping mapping = pure (make scripts)
  write : ∀ scripts object,
    (make scripts).write object = pure (make (ScriptBook.add scripts object))

theorem collects_sqlScript (options : ScriptOptions) (dir : Text) :
    Collects (.sqlScript options dir) where
  writeMapping _ _ := rfl
  write _ _ := rfl

theorem collects_createDatabase (options : DatabaseOptions) :
    Collects (.createDatabase options) where
  writeMapping _ _ := rfl
  write _ _ := rfl

namespace Collects

variable {make : ScriptBook → Output} (h : Collects make)
include h

theorem foldlM_write (scripts : ScriptBook) (objects : List Object) :
    objects.foldlM Output.write (make scripts) =
      pure (make (objects.foldl ScriptBook.add scripts)) := by
  induction objects generalizing scripts with
  | nil => rfl
  | cons o rest ih =>
      rw [List.foldlM_cons, h.write, pure_bind]
      exact ih (ScriptBook.add scripts o)

/-- Writing a database is committing the book of its objects. -/
theorem writeDatabase_eq_commit (db : Database) :
    (make OrderedMap.empty).writeDatabase db = (make (ScriptBook.ofObjects db.objects)).commit := by
  rw [writeDatabase, h.writeMapping, pure_bind, h.foldlM_write, pure_bind, ScriptBook.ofObjects]

end Collects

/-- The file of all scripts holds them by name. -/
theorem readText_of_commitScripts {options : ScriptOptions} {dir : Text} {objects : List Object}
    {host : Host} {world w : World} (hmode : options.mode = .consolidated)
    (h : (commitScripts options dir (ScriptBook.ofObjects objects)).execute host world =
      (.ok (), w)) :
    w.files.readText host.working (Path.join dir options.file) =
      .ok (ScriptBook.grouped objects) := by
  rw [commitScripts, hmode] at h
  obtain ⟨_, w', hwrite, h⟩ := Run.exists_of_execute_bind_eq_ok h
  have hread := Run.readText_of_writeFile hwrite
  rw [ScriptBook.text_ofObjects] at hread
  -- the notice behind the file changes no file
  cases h
  exact hread

/-- The file of a name holds the scripts of the name, if no later name has the same place. -/
theorem readText_page_of_commitScripts {options : ScriptOptions} {dir : Text}
    {objects : List Object} {host : Host} {world w : World} {before after : List Text}
    {name : Text} (hmode : options.mode = .single)
    (h : (commitScripts options dir (ScriptBook.ofObjects objects)).execute host world =
      (.ok (), w))
    (hnames : ScriptBook.names objects = before ++ name :: after)
    (hne : ∀ later ∈ after,
      options.placeOf host.working dir name ≠ options.placeOf host.working dir later) :
    w.files.readText host.working (options.pathOf dir name) =
      .ok (ScriptBook.page objects name) := by
  have hentries := ScriptBook.entries_ofObjects objects
  rw [hnames, List.map_append, List.map_cons] at hentries
  rw [commitScripts, hmode] at h
  obtain ⟨_, w', hfiles, h⟩ := Run.exists_of_execute_bind_eq_ok h
  have hread := Run.readText_of_writeFiles (options.pathOf dir) hfiles hentries
    (List.forall_mem_map.2 hne)
  cases h
  exact hread

end Output

/-! ## The order of scripts -/

/-- The scripts of all sequences, then of all tables and then of all functions. -/
def Database.script (db : Database) : Text :=
  (db.sequences.flatMap fun s => ScriptBook.scriptOf (.sequence s)) ++
    (db.tables.flatMap fun t => ScriptBook.scriptOf (.table t)) ++
    db.functions.flatMap fun f => ScriptBook.scriptOf (.function f)

theorem Database.script_eq (db : Database) : db.script = db.objects.flatMap ScriptBook.scriptOf := by
  simp [script, objects, List.flatMap_map]

namespace Output

/-- Scripts go out by name, to a file and to a database, in the order in which names first come up.
Where objects of the same name stand next to each other, that is all sequences, then all tables and
then all functions. -/
theorem scripts_by_name (db : Database) (host : Host) (world : World) :
    (∀ options dir w, options.mode = .consolidated →
      (writeDatabase (.sqlScript options dir OrderedMap.empty) db).execute host world =
        (.ok (), w) →
      w.files.readText host.working (Path.join dir options.file) =
        .ok (ScriptBook.grouped db.objects)) ∧
    (∀ options w,
      (writeDatabase (.createDatabase options OrderedMap.empty) db).execute host world =
        (.ok (), w) →
      ∃ (preparation : List Action) (scripts : List Text),
        (∀ a ∈ preparation, IsPreparation a) ∧
        w.actions = world.actions ++ preparation ++
          .connect options.connection (some options.connection.database) ::
            scripts.map .execute ∧
        scripts.flatten = ScriptBook.grouped db.objects) ∧
    (ScriptBook.Together db.objects → ScriptBook.grouped db.objects = db.script) := by
  refine ⟨?_, ?_, ?_⟩
  · intro options dir w hmode h
    rw [(collects_sqlScript options dir).writeDatabase_eq_commit] at h
    exact readText_of_commitScripts hmode h
  · intro options w h
    rw [(collects_createDatabase options).writeDatabase_eq_commit] at h
    obtain ⟨preparation, hpreparation, hactions⟩ := actions_of_commitDatabase h
    refine ⟨preparation, _, hpreparation, hactions, ?_⟩
    rw [← List.flatMap_def, ← ScriptBook.text_ofObjects, ScriptBook.text]
  · intro h
    rw [ScriptBook.grouped_of_together h, Database.script_eq]

/-- A sequence, and behind it a table and a function of one name. -/
def jobs : Database :=
  ⟨Mapping.default, [], [⟨"jobs", OrderedMap.empty, [], none, [], []⟩], [⟨"ids", OrderedMap.empty⟩],
    [⟨"jobs", OrderedMap.empty, [], Return.default, []⟩]⟩

/-- A host in the root directory, whose server and terminal do all they are told. -/
def willing : Host := ⟨[], 2024, false, fun _ _ => .done, fun _ _ => .whole⟩

/-- Nothing has happened in an empty tree. -/
def untouched : World := ⟨FileTree.empty, [], [], []⟩

/-- All scripts go to one file. -/
def oneFile : ScriptOptions := ⟨.consolidated, [], "all.sql"⟩

/-- A database on a local server. -/
def localDatabase : DatabaseOptions := ⟨⟨"localhost", 5432, "sa", [], "jobs"⟩, false⟩

/-- What writing a database to one file comes to. -/
def writtenToFile (db : Database) : Except Error Unit × World :=
  (writeDatabase (.sqlScript oneFile "out" OrderedMap.empty) db).execute willing untouched

/-- What creating a database comes to. -/
def created (db : Database) : Except Error Unit × World :=
  (writeDatabase (.createDatabase localDatabase OrderedMap.empty) db).execute willing untouched

theorem together_jobs : ScriptBook.Together jobs.objects := by
  intro before o between o' after heq hname x hx
  have hlength : 3 = (before ++ o :: between ++ o' :: after).length := congrArg List.length heq
  have hpos := List.length_pos_of_mem hx
  simp only [List.length_append, List.length_cons] at hlength
  -- so the two are the sequence and the function, and these have different names
  obtain rfl : before = [] := List.eq_nil_of_length_eq_zero (by omega)
  obtain rfl : after = [] := List.eq_nil_of_length_eq_zero (by omega)
  obtain ⟨y, rfl⟩ := List.length_eq_one_iff.1 (show between.length = 1 by omega)
  cases heq
  exact absurd hname (by decide)

theorem scripts_by_name_jobs :
    (writtenToFile jobs).1 = .ok () ∧ (created jobs).1 = .ok () ∧
      ScriptBook.Together jobs.objects ∧
      (writtenToFile jobs).2.files.readText [] "out/all.sql" = .ok jobs.script ∧
      ∃ (preparation : List Action) (scripts : List Text),
        (∀ a ∈ preparation, IsPreparation a) ∧
        (created jobs).2.actions = preparation ++
          .connect localDatabase.connection (some "jobs") :: scripts.map .execute ∧
        scripts.flatten = jobs.script := by
  have hwritten : (writeDatabase (.sqlScript oneFile "out" OrderedMap.empty) jobs).execute willing
      untouched = (.ok (), (writtenToFile jobs).2) := Prod.ext rfl rfl
  have hcreated : (writeDatabase (.createDatabase localDatabase OrderedMap.empty) jobs).execute
      willing untouched = (.ok (), (created jobs).2) := Prod.ext rfl rfl
  obtain ⟨hfile, hdatabase, horder⟩ := scripts_by_name jobs willing untouched
  have hjobs := horder together_jobs
  obtain ⟨preparation, scripts, hpreparation, hactions, hscripts⟩ := hdatabase _ _ hcreated
  refine ⟨rfl, rfl, together_jobs, ?_, preparation, scripts, hpreparation, hactions, ?_⟩
  · rw [← hjobs]
    exact hfile oneFile "out" _ rfl hwritten
  · rw [← hjobs, hscripts]

/-- A sequence and a function of one name, and a table. -/
def tangled : Database :=
  ⟨Mapping.default, [], [⟨"jobs", OrderedMap.empty, [], none, [], []⟩], [⟨"ids", OrderedMap.empty⟩],
    [⟨"ids", OrderedMap.empty, [], Return.default, []⟩]⟩

/-- The function goes out ahead of the table, behind the sequence of its name. -/
theorem scripts_of_shared_name :
    (writtenToFile tangled).1 = .ok () ∧
      (writtenToFile tangled).2.files.readText [] "out/all.sql" ≠ .ok tangled.script ∧
      (writtenToFile tangled).2.files.readText [] "out/all.sql" =
        .ok ((tangled.sequences.flatMap fun s => ScriptBook.scriptOf (.sequence s)) ++
          (tangled.functions.flatMap fun f => ScriptBook.scriptOf (.function f)) ++
          tangled.tables.flatMap fun t => ScriptBook.scriptOf (.table t)) := by
  have hread : (writtenToFile tangled).2.files.readText [] "out/all.sql" =
      .ok ((tangled.sequences.flatMap fun s => ScriptBook.scriptOf (.sequence s)) ++
        (tangled.functions.flatMap fun f => ScriptBook.scriptOf (.function f)) ++
        tangled.tables.flatMap fun t => ScriptBook.scriptOf (.table t)) := rfl
  refine ⟨rfl, ?_, hread⟩
  rw [hread]
  intro h
  exact absurd (Except.ok.inj h) (by decide)

end Output

/-! ## Scripts that are kept -/

/-- Of the elements with a property there is a last one. -/
theorem exists_last_of_mem {α : Type} {p : α → Prop} {x : α} {xs : List α} (hx : x ∈ xs)
    (h : p x) : ∃ before last after, xs = before ++ last :: after ∧ p last ∧ ∀ y ∈ after, ¬p y := by
  induction xs using List.reverseRecOn with
  | nil => cases hx
  | append_singleton xs y ih =>
      by_cases hy : p y
      · exact ⟨xs, y, [], rfl, hy, nofun⟩
      · have hmem : x ∈ xs := by
          rcases List.mem_append.1 hx with hx | hx
          · exact hx
          · exact absurd (List.mem_singleton.1 hx ▸ h) hy
        obtain ⟨before, last, after, rfl, hlast, hafter⟩ := ih hmem
        refine ⟨before, last, after ++ [y], by simp, hlast, fun z hz => ?_⟩
        rcases List.mem_append.1 hz with hz | hz
        · exact hafter z hz
        · exact List.mem_singleton.1 hz ▸ hy

namespace ScriptBook

theorem scriptOf_infix_page {objects : List Object} {o : Object} (h : o ∈ objects) :
    scriptOf o <:+: page objects o.name :=
  List.infix_of_mem_flatten (List.mem_map_of_mem (List.mem_filter.2 ⟨h, by simp⟩))

theorem page_infix_grouped {objects : List Object} {o : Object} (h : o ∈ objects) :
    page objects o.name <:+: grouped objects :=
  List.infix_of_mem_flatten (List.mem_map_of_mem (mem_names.2 ⟨o, h, rfl⟩))

end ScriptBook

namespace Output

/-- The script of every object is in some file, unless it was overtaken. -/
theorem kept_of_commitScripts {options : ScriptOptions} {dir : Text} {objects : List Object}
    {host : Host} {world w : World}
    (h : (commitScripts options dir (ScriptBook.ofObjects objects)).execute host world =
      (.ok (), w)) {o : Object} (ho : o ∈ objects) :
    (∃ path t, w.files.readText host.working path = .ok t ∧ ScriptBook.scriptOf o <:+: t) ∨
      options.mode = .single ∧ ∃ last,
        options.OvertakenBy host.working dir (ScriptBook.names objects) o.name last ∧
        w.files.readText host.working (options.pathOf dir last) =
          .ok (ScriptBook.page objects last) := by
  have hpage := ScriptBook.scriptOf_infix_page ho
  cases hmode : options.mode with
  | consolidated =>
      have hread := readText_of_commitScripts hmode h
      exact .inl ⟨_, _, hread, hpage.trans (ScriptBook.page_infix_grouped ho)⟩
  | single =>
      have hmem : o.name ∈ ScriptBook.names objects := ScriptBook.mem_names.2 ⟨o, ho, rfl⟩
      -- the last name that goes to the place of the object has its script there in the end
      obtain ⟨front, last, after, hnames, hplace, hafter⟩ := exists_last_of_mem
        (p := fun name =>
          options.placeOf host.working dir name = options.placeOf host.working dir o.name) hmem rfl
      have hne : ∀ later ∈ after,
          options.placeOf host.working dir last ≠ options.placeOf host.working dir later :=
        fun later hlater heq => hafter later hlater (heq.symm.trans hplace)
      have hread := readText_page_of_commitScripts hmode h hnames hne
      by_cases hlast : o.name = last
      · rw [← hlast] at hread
        exact .inl ⟨_, _, hread, hpage⟩
      · refine .inr ⟨rfl, last, ?_, hread⟩
        have hfront : o.name ∈ front := by
          rw [hnames] at hmem
          rcases List.mem_append.1 hmem with hmem | hmem
          · exact hmem
          · exact absurd rfl (hafter o.name (List.mem_of_ne_of_mem hlast hmem))
        obtain ⟨before, between, rfl⟩ := List.append_of_mem hfront
        exact ⟨before, between, after, hnames, hplace, hne⟩

/-- An export of scripts that succeeds leaves every script in a file, unless each name has a file of
its own: then the scripts of a name that were overtaken may be lost to those of a later one. -/
theorem scripts_kept {config : Config} {request : OutputRequest} {db : Database} {host : Host}
    {world w : World}
    (h : (create config .sqlScript request >>= fun output => output.writeDatabase db).execute host
      world = (.ok (), w)) :
    ∃ options, ScriptOptions.ofRequest request = .ok options ∧ ∀ o ∈ db.objects,
      (∃ path t, w.files.readText host.working path = .ok t ∧ ScriptBook.scriptOf o <:+: t) ∨
        options.mode = .single ∧ ∃ last,
          options.OvertakenBy host.working (Path.join config.outputDir options.dir)
            (ScriptBook.names db.objects) o.name last ∧
          w.files.readText host.working
              (options.pathOf (Path.join config.outputDir options.dir) last) =
            .ok (ScriptBook.page db.objects last) := by
  obtain ⟨output, w', hcreate, h⟩ := Run.exists_of_execute_bind_eq_ok h
  obtain ⟨_, _, -, hcreate⟩ := Run.exists_of_execute_bind_eq_ok hcreate
  rw [Run.execute_ofResult, Prod.mk.injEq] at hcreate
  cases hoptions : ScriptOptions.ofRequest request with
  | error e =>
      rw [ofRequest, hoptions] at hcreate
      cases hcreate.1
  | ok options =>
      rw [ofRequest, hoptions] at hcreate
      cases hcreate.1
      rw [(collects_sqlScript options _).writeDatabase_eq_commit] at h
      exact ⟨options, rfl, fun o ho => kept_of_commitScripts h ho⟩

/-- Two tables of different names. -/
def queues : Database :=
  ⟨Mapping.default, [], [⟨"jobs", OrderedMap.empty, [], none, [], []⟩,
    ⟨"runs", OrderedMap.empty, [], none, [], []⟩], [], []⟩

/-- A request for scripts in files of a name. -/
def scriptsIn (file : Text) : OutputRequest :=
  ⟨"sql_script", OrderedMap.ofList [("file", some file)]⟩

/-- What writing the two tables to files of a name comes to. -/
def exported (file : Text) : Except Error Unit × World :=
  (create Config.default .sqlScript (scriptsIn file) >>= fun output =>
    output.writeDatabase queues).execute willing untouched

theorem scripts_kept_queues :
    (exported "$db_object$.sql").1 = .ok () ∧ ∀ o ∈ queues.objects,
      ∃ path t, (exported "$db_object$.sql").2.files.readText [] path = .ok t ∧
        ScriptBook.scriptOf o <:+: t := by
  have hexported : (create Config.default .sqlScript (scriptsIn "$db_object$.sql") >>=
      fun output => output.writeDatabase queues).execute willing untouched =
        (.ok (), (exported "$db_object$.sql").2) := Prod.ext rfl rfl
  obtain ⟨options, hoptions, hkept⟩ := scripts_kept hexported
  obtain rfl : ⟨.single, [], "$db_object$.sql"⟩ = options := Except.ok.inj hoptions
  refine ⟨rfl, fun o ho => (hkept o ho).resolve_right ?_⟩
  rintro ⟨-, last, ⟨before, between, after, hnames, hplace, -⟩, -⟩
  have hlength : 2 = (before ++ o.name :: between ++ last :: after).length :=
    congrArg List.length hnames
  simp only [List.length_append, List.length_cons] at hlength
  -- so these are the two names, in order
  obtain rfl : before = [] := List.eq_nil_of_length_eq_zero (by omega)
  obtain rfl : between = [] := List.eq_nil_of_length_eq_zero (by omega)
  obtain rfl : after = [] := List.eq_nil_of_length_eq_zero (by omega)
  have hjobs : ["jobs".toList, "runs".toList] = [o.name, last] := hnames
  rw [← (List.cons.inj hjobs).1, ← (List.cons.inj (List.cons.inj hjobs).2).1] at hplace
  exact absurd hplace (by decide)

/-- Without a placeholder in the file name, the second table goes over the first one. -/
theorem script_lost :
    (exported "all.sql").1 = .ok () ∧
      ∃ o ∈ queues.objects, ∀ path t, (exported "all.sql").2.files.readText [] path = .ok t →
        ¬ScriptBook.scriptOf o <:+: t := by
  have hfiles : (exported "all.sql").2.files =
      FileTree.empty.put ["all.sql".toList]
        (.file (.text (ScriptBook.page queues.objects "runs"))) := rfl
  refine ⟨rfl, _, List.mem_cons_self, fun path t hread hcontains => ?_⟩
  rw [hfiles] at hread
  obtain ⟨-, -, hnode⟩ := FileTree.readText_eq_ok_iff.1 hread
  rw [FileTree.node?_put] at hnode
  split at hnode
  · cases hnode
  · split at hnode
    · cases hnode
      exact absurd (hcontains.eq_of_length rfl) (by decide)
    · rename_i hroot _
      rw [FileTree.node?, if_neg hroot] at hnode
      cases hnode

end Output

end SchemaCompiler
