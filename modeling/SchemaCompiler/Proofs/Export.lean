import SchemaCompiler.Output.Basic
import SchemaCompiler.Proofs.Effects

namespace SchemaCompiler

/-! # Exports call by call

An export is a row of calls to an output: the mapping, then every sequence, table and function, and
a commit at the end. `Provider.perform` makes such calls one by one and stops at the first one that
fails, so it can be said which calls have been made. Main statements, for any provider of an output:

* `Provider.execute_export`: an export makes the calls of a database (`Database.calls`);
* `Provider.made_prefix`, `Provider.made_eq_of_ok`: the calls made are the first ones, and all of them
  if nothing fails;
* `Provider.writes_ok_of_commit_mem`: a commit is made only behind writes that all succeeded;
* `Output.keeps_takeIn`: up to the commit, no output writes a file or turns to a server;
* `Output.prints_writeDatabase`: the terminal gets the reports of all objects, or the first part of
  them.
-/

/-! ## Calls -/

/-- A call that an output receives. -/
inductive Call where
  | writeMapping (mapping : Mapping)
  | write (object : Object)
  | commit

/-- The calls before the commit: the mapping, then every sequence, table and function. -/
def Database.writes (db : Database) : List Call :=
  .writeMapping db.mapping ::
    (db.sequences.map (fun s => .write (.sequence s)) ++
      db.tables.map (fun t => .write (.table t)) ++
      db.functions.map fun f => .write (.function f))

/-- The calls of an export. -/
def Database.calls (db : Database) : List Call := db.writes ++ [.commit]

theorem Database.commit_not_mem_writes (db : Database) : Call.commit ∉ db.writes := by
  simp [writes]

/-- What an output does when it is called; it collects what it needs in a state of its own. -/
structure Provider (σ : Type) where
  writeMapping : σ → Mapping → Run σ
  write : σ → Object → Run σ
  commit : σ → Run Unit

/-- What has come of some calls: those that were made, and the result and the world behind them. -/
structure Performance (σ : Type) where
  made : List Call
  result : Except Error σ
  world : World

namespace Provider

variable {σ : Type}

/-- Takes in a whole database and commits. -/
def exportDatabase (p : Provider σ) (db : Database) (s : σ) : Run Unit := do
  let s ← p.writeMapping s db.mapping
  let s ← db.objects.foldlM p.write s
  p.commit s

/-- Makes one call. -/
def call (p : Provider σ) (s : σ) : Call → Run σ
  | .writeMapping mapping => p.writeMapping s mapping
  | .write object => p.write s object
  | .commit => do
    p.commit s
    pure s

/-- Makes calls one by one, up to the first one that fails. -/
def perform (p : Provider σ) (host : Host) : List Call → σ → World → Performance σ
  | [], s, world => ⟨[], .ok s, world⟩
  | call :: rest, s, world =>
    match (p.call s call).execute host world with
    | (.ok s, w) =>
      let performance := perform p host rest s w
      { performance with made := call :: performance.made }
    | (.error e, w) => ⟨[call], .error e, w⟩

/-! ## An export makes the calls of a database -/

section

variable (p : Provider σ) (host : Host) (s : σ) (world : World)

theorem execute_foldlM_call (calls : List Call) :
    (calls.foldlM p.call s).execute host world =
      ((p.perform host calls s world).result, (p.perform host calls s world).world) := by
  induction calls generalizing s world with
  | nil => rfl
  | cons call rest ih =>
      rw [List.foldlM_cons, Run.execute_bind, perform]
      rcases (p.call s call).execute host world with ⟨e | s', w⟩
      · rfl
      · exact ih s' w

/-- An export is the run of its calls. -/
theorem exportDatabase_eq_foldlM (db : Database) :
    p.exportDatabase db s = db.calls.foldlM p.call s >>= fun _ => pure () := by
  -- behind the mapping, the calls are the writes of the objects in the order of the database
  have hwrites : db.writes = .writeMapping db.mapping :: db.objects.map .write := by
    simp [Database.writes, Database.objects, Function.comp_def]
  have hobjects : ∀ t, (db.objects.map Call.write).foldlM p.call t = db.objects.foldlM p.write t :=
    fun _ => List.foldlM_map
  rw [Database.calls, hwrites, List.foldlM_append, List.foldlM_cons]
  simp only [exportDatabase, call, hobjects, List.foldlM_cons, List.foldlM_nil, bind_assoc,
    pure_bind, bind_pure_unit]

/-- An export comes to what its calls come to. -/
theorem execute_exportDatabase (db : Database) :
    (p.exportDatabase db s).execute host world =
      ((p.perform host db.calls s world).result.map fun _ => (),
        (p.perform host db.calls s world).world) := by
  rw [exportDatabase_eq_foldlM, Run.execute_bind, execute_foldlM_call]
  cases (p.perform host db.calls s world).result <;> rfl

/-! ## Which calls are made -/

/-- The calls made are the first ones. -/
theorem made_prefix (calls : List Call) : (p.perform host calls s world).made <+: calls := by
  induction calls generalizing s world with
  | nil => exact List.prefix_rfl
  | cons call rest ih =>
      rw [perform]
      rcases (p.call s call).execute host world with ⟨e | s', w⟩
      · exact ⟨rest, rfl⟩
      · exact (List.prefix_cons_inj call).2 (ih s' w)

/-- All calls are made if none fails. -/
theorem made_eq_of_ok {calls : List Call} {s' : σ}
    (h : (p.perform host calls s world).result = .ok s') :
    (p.perform host calls s world).made = calls := by
  induction calls generalizing s world with
  | nil => rfl
  | cons call rest ih =>
      rw [perform] at h ⊢
      rcases hcall : (p.call s call).execute host world with ⟨e | t, w⟩
      · rw [hcall] at h
        cases h
      · rw [hcall] at h
        exact congrArg (call :: ·) (ih t w h)

/-- Calls behind others are made in the world that these left, unless one of them failed. -/
theorem perform_append (calls others : List Call) :
    p.perform host (calls ++ others) s world =
      match (p.perform host calls s world).result with
      | .ok s' =>
        let performance := p.perform host others s' (p.perform host calls s world).world
        { performance with made := calls ++ performance.made }
      | .error _ => p.perform host calls s world := by
  induction calls generalizing s world with
  | nil => rfl
  | cons call rest ih =>
      rw [List.cons_append, perform, perform]
      rcases (p.call s call).execute host world with ⟨e | t, w⟩
      · rfl
      · dsimp only
        rw [ih t w]
        obtain ⟨made, e | s', w'⟩ := p.perform host rest t w <;> rfl

/-- A commit is made only behind writes that all succeeded. -/
theorem writes_ok_of_commit_mem {db : Database}
    (h : Call.commit ∈ (p.perform host db.calls s world).made) :
    ∃ s', (p.perform host db.writes s world).result = .ok s' := by
  rw [Database.calls, perform_append] at h
  cases hresult : (p.perform host db.writes s world).result with
  | ok s' => exact ⟨s', rfl⟩
  | error e =>
      -- the calls made are then among the writes, and none of these is a commit
      rw [hresult] at h
      have hwrites := (p.made_prefix host s world db.writes).subset h
      exact absurd hwrites db.commit_not_mem_writes

/-- An export makes its calls in order and commits at the end, if nothing has failed before. -/
structure CallsInOrder (db : Database) : Prop where
  /-- The export comes to what the calls come to, made one by one. -/
  execute : (p.exportDatabase db s).execute host world =
    ((p.perform host db.calls s world).result.map fun _ => (),
      (p.perform host db.calls s world).world)
  /-- The calls made are the first ones of the database. -/
  made_prefix : (p.perform host db.calls s world).made <+: db.writes ++ [.commit]
  /-- All of them are made if the export succeeds. -/
  made_all : ∀ s', (p.perform host db.calls s world).result = .ok s' →
    (p.perform host db.calls s world).made = db.writes ++ [.commit]
  /-- There is one commit, at the end. -/
  commit_once : Call.commit ∉ db.writes
  /-- It is made only if all writes before it have succeeded. -/
  commit_behind : Call.commit ∈ (p.perform host db.calls s world).made →
    ∃ s', (p.perform host db.writes s world).result = .ok s'

theorem callsInOrder (db : Database) : p.CallsInOrder host s world db where
  execute := p.execute_exportDatabase host s world db
  made_prefix := p.made_prefix host s world db.calls
  made_all _ h := p.made_eq_of_ok host s world h
  commit_once := db.commit_not_mem_writes
  commit_behind h := p.writes_ok_of_commit_mem host s world h

end

end Provider

/-! ## Outputs as providers -/

namespace Output

/-- The five outputs, as providers of what they collect. -/
def provider : Provider Output := ⟨writeMapping, write, commit⟩

theorem writeDatabase_eq_exportDatabase (output : Output) (db : Database) :
    output.writeDatabase db = provider.exportDatabase db output := rfl

/-- What an output does with a database before it commits. -/
def takeIn (output : Output) (db : Database) : Run Output := do
  let output ← output.writeMapping db.mapping
  db.objects.foldlM write output

theorem writeDatabase_eq_takeIn (output : Output) (db : Database) :
    output.writeDatabase db = output.takeIn db >>= commit := (bind_assoc _ _ _).symm

theorem keeps_writeMapping (output : Output) (mapping : Mapping) :
    (output.writeMapping mapping).Keeps World.stored := by
  cases output with
  | mappingCode options assets path code =>
      refine (Run.reads_readAsset assets options.template).keeps.stored.bind fun template => ?_
      refine (Run.reads_readAsset assets options.license).keeps.stored.bind fun license => ?_
      refine Run.Keeps.bind (fun _ _ => rfl) fun host => ?_
      refine (Run.keeps_ofResult _).bind fun header => ?_
      refine (Run.keeps_ofResult _).bind fun code => ?_
      exact Run.keeps_pure _
  | _ => exact Run.keeps_pure _

/-- The report of an object, empty where the options ask for none. -/
def reportOf (host : Host) (options : ConsoleOptions) (object : Object) : Text :=
  (Report.object? host.colors options object).getD []

theorem prints_printReport (host : Host) (options : ConsoleOptions) (object : Object) :
    (printReport options object).Prints host (reportOf host options object) := by
  refine Run.prints_read_bind ?_
  rw [reportOf]
  cases Report.object? host.colors options object with
  | none => exact Run.prints_pure ()
  | some report => exact Run.prints_require (.text report)

theorem keeps_write (output : Output) (object : Object) :
    (output.write object).Keeps World.stored := by
  cases output with
  | console options =>
      have hprints := fun host => prints_printReport host options object
      exact (Run.keeps_of_prints hprints).bind fun _ => Run.keeps_pure _
  | _ => exact Run.keeps_pure _

/-- Up to the commit, no output writes a file or turns to a server. -/
theorem keeps_takeIn (output : Output) (db : Database) :
    (output.takeIn db).Keeps World.stored :=
  (keeps_writeMapping output db.mapping).bind fun output =>
    Run.keeps_foldlM keeps_write output db.objects

/-! ### The terminal -/

/-- The terminal collects nothing: its reports are printed one after another. -/
theorem foldlM_write_console (options : ConsoleOptions) (objects : List Object) :
    objects.foldlM write (.console options) =
      objects.forM (printReport options) >>= fun _ => pure (.console options) := by
  induction objects with
  | nil => rfl
  | cons object rest ih =>
      have hcons : (object :: rest).forM (printReport options) =
          printReport options object >>= fun _ => rest.forM (printReport options) := rfl
      rw [List.foldlM_cons, write, hcons]
      simp only [bind_assoc, pure_bind, ih]

/-- An export to the terminal prints the reports of the objects in order, as far as the terminal
takes them, and fails only for the terminal. -/
theorem prints_writeDatabase (host : Host) (options : ConsoleOptions) (db : Database) :
    ((Output.console options).writeDatabase db).Prints host
      (db.objects.flatMap (reportOf host options)) := by
  have hwrite : (Output.console options).writeDatabase db =
      db.objects.forM (printReport options) >>= fun _ => Run.flush := by
    simp only [writeDatabase, writeMapping, pure_bind, foldlM_write_console, bind_assoc, commit]
  have hflush : Run.flush.Prints host [] := Run.prints_require .flush
  have hreports := Run.prints_forM (prints_printReport host options) db.objects
  rw [hwrite, ← List.append_nil (db.objects.flatMap (reportOf host options))]
  exact hreports.bind fun _ => hflush

end Output

end SchemaCompiler
