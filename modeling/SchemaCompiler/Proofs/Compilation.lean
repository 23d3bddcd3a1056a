import SchemaCompiler.Proofs.Export
import SchemaCompiler.Proofs.Project
import SchemaCompiler.Proofs.Requests

namespace SchemaCompiler.Compile

/-! # Compilation has no partial effects

A compilation reads its project and makes all outputs before it writes any of them. Main statements:

* `reads_resolveOutputs`: up to this point nothing is written or sent, and nothing asked of the
  terminal;
* `execute_writeAll`: outputs are written one after another, up to the first one that fails;
* `compile_orderly`: a compilation that cannot read its project, or is asked for an output that
  cannot be made, fails without effects and with the first error; any other writes its outputs in the
  order of the makefile, and each export makes its calls in order, with the commit at the end.

Any of the outputs can fail: files and directories can refuse to be written, the server what it is
sent, and the terminal what it is to print.
-/

/-! ## Writing outputs -/

/-- The notice about an output that has committed. -/
def committed (request : OutputRequest) : Notice :=
  ⟨.info, "output committed", [("output", .plain request.name)]⟩

/-- The outputs have all taken in the database and committed, one after another, each in the world
that the one before it left. -/
inductive Exported (db : Database) (host : Host) :
    List (OutputRequest × Output) → World → World → Prop
  | nil {world : World} : Exported db host [] world world
  | cons {request : OutputRequest} {output filled : Output} {rest : List (OutputRequest × Output)}
      {world w₁ w₂ w₃ : World}
      (htake : (output.takeIn db).execute host world = (.ok filled, w₁))
      (hcommit : filled.commit.execute host w₁ = (.ok (), w₂))
      (hrest : Exported db host rest { w₂ with notices := w₂.notices ++ [committed request] } w₃) :
      Exported db host ((request, output) :: rest) world w₃

/-- The output has failed with an error: ahead of its commit, with nothing written or sent, or in
it. -/
inductive Failed (db : Database) (host : Host) (output : Output) :
    World → Error → World → Prop
  | ahead {world w : World} {e : Error}
      (htake : (output.takeIn db).execute host world = (.error e, w))
      (hstored : w.stored = world.stored) : Failed db host output world e w
  | committing {world w₁ w : World} {e : Error} {filled : Output}
      (htake : (output.takeIn db).execute host world = (.ok filled, w₁))
      (hcommit : filled.commit.execute host w₁ = (.error e, w)) : Failed db host output world e w

/-- An output is written whole, or fails ahead of its commit or in it. -/
theorem execute_writeOutput (db : Database) (request : OutputRequest) (output : Output)
    (host : Host) (world : World) :
    (∃ filled w₁ w₂, (output.takeIn db).execute host world = (.ok filled, w₁) ∧
      filled.commit.execute host w₁ = (.ok (), w₂) ∧
      (writeOutput db request output).execute host world =
        (.ok (), { w₂ with notices := w₂.notices ++ [committed request] })) ∨
    ∃ e w, Failed db host output world e w ∧
      (writeOutput db request output).execute host world =
        (.error (e.within (.writingOutput request.name)), w) := by
  have hstored := output.keeps_takeIn db host world
  have hwrite : (writeOutput db request output).execute host world =
      match (output.writeDatabase db).execute host world with
      | (.ok (), w) => (.ok (), { w with notices := w.notices ++ [committed request] })
      | (.error e, w) => (.error (e.within (.writingOutput request.name)), w) := by
    rw [writeOutput, Run.execute_bind, Run.execute_during]
    rcases (output.writeDatabase db).execute host world with ⟨e | u, w⟩ <;> rfl
  rw [hwrite, output.writeDatabase_eq_takeIn db, Run.execute_bind]
  rcases htake : (output.takeIn db).execute host world with ⟨e | filled, w₁⟩
  · rw [htake] at hstored
    exact .inr ⟨e, w₁, .ahead htake hstored, rfl⟩
  · dsimp only
    rcases hcommit : filled.commit.execute host w₁ with ⟨e | u, w₂⟩
    · exact .inr ⟨e, w₂, .committing htake hcommit, rfl⟩
    · exact .inl ⟨filled, w₁, w₂, rfl, hcommit, rfl⟩

/-- Writes outputs one after another. -/
def writeAll (db : Database) (pairs : List (OutputRequest × Output)) : Run Unit :=
  pairs.forM fun (request, output) => writeOutput db request output

/-- Outputs are written one after another, up to the first one that fails. -/
theorem execute_writeAll (db : Database) (host : Host)
    (pairs : List (OutputRequest × Output)) (world : World) :
    (∃ w, Exported db host pairs world w ∧
      (writeAll db pairs).execute host world = (.ok (), w)) ∨
    ∃ before request output after w₁ e w,
      pairs = before ++ (request, output) :: after ∧ Exported db host before world w₁ ∧
        Failed db host output w₁ e w ∧
        (writeAll db pairs).execute host world =
          (.error (e.within (.writingOutput request.name)), w) := by
  induction pairs generalizing world with
  | nil => exact .inl ⟨world, .nil, rfl⟩
  | cons pair rest ih =>
      obtain ⟨request, output⟩ := pair
      have hcons : writeAll db ((request, output) :: rest) =
          writeOutput db request output >>= fun _ => writeAll db rest := rfl
      rw [hcons]
      rcases execute_writeOutput db request output host world with
        ⟨filled, w₁, w₂, htake, hcommit, hwrite⟩ | ⟨e, w, hfailed, hwrite⟩
      · -- this output is through, the others go on from there
        rw [Run.execute_bind_of_ok hwrite]
        rcases ih { w₂ with notices := w₂.notices ++ [committed request] } with
          ⟨w, hrest, hexecute⟩ |
          ⟨before, request', output', after, w₃, e, w, rfl, hbefore, hfailed, hexecute⟩
        · exact .inl ⟨w, .cons htake hcommit hrest, hexecute⟩
        · exact .inr ⟨(request, output) :: before, request', output', after, w₃, e, w, rfl,
            .cons htake hcommit hbefore, hfailed, hexecute⟩
      · -- this output is the first that fails, and nothing runs behind it
        refine .inr ⟨[], request, output, rest, world, e, w, rfl, .nil, hfailed, ?_⟩
        rw [Run.execute_bind_of_error hwrite]

/-! ## Compilation -/

/-- What a compilation comes to, by how far it gets. -/
structure Orderly (config : Config) (host : Host) (world : World) : Prop where
  /-- A project that cannot be read ends the compilation without effects, and with the error of the
  first phase that fails. -/
  unreadable : ∀ e w, (readProject config).execute host world = (.error e, w) →
    Unreadable config host world.files e ∧
      (compile config).execute host world = (.error e, w) ∧ w.effects = world.effects
  /-- So does a project without outputs. -/
  noOutputs : ∀ db w, (readProject config).execute host world = (.ok db, w) → db.outputs = [] →
    (compile config).execute host world = (.error (.configuration .noOutputs), w) ∧
      w.effects = world.effects
  /-- So does the first output that cannot be made. -/
  refused : ∀ db w before request after e,
    (readProject config).execute host world = (.ok db, w) →
    db.outputs = before ++ request :: after →
    (∀ r ∈ before, ∀ e', ¬ r.Refused e') → request.Refused e →
    ∃ w', (compile config).execute host world = (.error e, w') ∧ w'.effects = world.effects
  /-- Otherwise the outputs are made without effects and exported in the order of the makefile, all
  of them or up to the first one that fails. -/
  exported : ∀ db w, (readProject config).execute host world = (.ok db, w) → db.outputs ≠ [] →
    (∀ r ∈ db.outputs, ∀ e, ¬ r.Refused e) →
    ∃ outputs w₁,
      List.Forall₂ (fun r output => Output.made config r = .ok output) db.outputs outputs ∧
      w₁.effects = world.effects ∧
      ((∃ w', Exported db host (db.outputs.zip outputs) w₁ w' ∧
          (compile config).execute host world = (.ok db, w')) ∨
        ∃ before request output after w₂ e w',
          db.outputs.zip outputs = before ++ (request, output) :: after ∧
            Exported db host before w₁ w₂ ∧ Failed db host output w₂ e w' ∧
            (compile config).execute host world =
              (.error (e.within (.writingOutput request.name)), w'))
  /-- What comes out of an export to the terminal are the reports of the objects in order, or the
  first part of them if the terminal refuses, which is all that the export can fail for. -/
  printed : ∀ (options : ConsoleOptions) (db : Database),
    ((Output.console options).writeDatabase db).Prints host
      (db.objects.flatMap (Output.reportOf host options))
  /-- What an output does to export a database is what any provider does, -/
  writeDatabase : ∀ (output : Output) (db : Database),
    output.writeDatabase db = Output.provider.exportDatabase db output
  /-- and every provider receives its calls in order, and its commit once and at the end. -/
  calls : ∀ {σ : Type} (p : Provider σ) (s : σ) (db : Database) (w : World),
    p.CallsInOrder host s w db

section

variable {config : Config} {host : Host} {world w : World} {db : Database}

/-- Reading a project comes to what its files give, and has had no effects. -/
theorem readProject_of_execute {result : Except Error Database}
    (h : (readProject config).execute host world = (result, w)) :
    projectIn config host world.files = result ∧ w.effects = world.effects := by
  obtain ⟨w', hread, heffects⟩ := reads_readProject config host world
  rw [h] at hread
  cases hread
  exact ⟨rfl, heffects⟩

theorem compile_of_project (h : (readProject config).execute host world = (.ok db, w)) :
    (compile config).execute host world =
      match (writeOutputs config db).execute host w with
      | (.ok (), w') => (.ok db, w')
      | (.error e, w') => (.error e, w') := by
  rw [compile, Run.execute_bind_of_ok h, Run.execute_bind]
  rcases (writeOutputs config db).execute host w with ⟨e | u, w'⟩ <;> rfl

/-- Making outputs has no effects; it fails with the first one that cannot be made. -/
theorem reads_resolveOutputs (config : Config) (db : Database) :
    (resolveOutputs config db).Reads fun _ _ => db.outputs.mapM (Output.made config) :=
  Run.Reads.mapM (Output.reads_resolve config) db.outputs

/-- With outputs to be written, all of them are made before the first one is written. -/
theorem writeOutputs_of_ne_nil (h : db.outputs ≠ []) :
    writeOutputs config db =
      resolveOutputs config db >>= fun outputs => writeAll db (db.outputs.zip outputs) := by
  rw [writeOutputs, if_neg h]
  rfl

/-- The first output that cannot be made ends the compilation, before any is written. -/
theorem compile_of_refused {before after : List OutputRequest} {request : OutputRequest} {e : Error}
    (hread : (readProject config).execute host world = (.ok db, w))
    (houtputs : db.outputs = before ++ request :: after)
    (hbefore : ∀ r ∈ before, ∀ e', ¬ r.Refused e') (hrefused : request.Refused e) :
    ∃ w', (compile config).execute host world = (.error e, w') ∧ w'.effects = world.effects := by
  have hne : db.outputs ≠ [] := by
    rw [houtputs]
    simp
  obtain ⟨w', hresolve, heffects⟩ := reads_resolveOutputs config db host w
  -- the requests ahead of this one can be met, so its error is the first one
  have hmade : db.outputs.mapM (Output.made config) = .error e := by
    refine mapM_eq_error_iff.2
      ⟨before, request, after, houtputs, ?_, Output.made_eq_error_iff.2 hrefused⟩
    intro r hr e' hmade
    exact hbefore r hr e' (Output.made_eq_error_iff.1 hmade)
  refine ⟨w', ?_, heffects.trans (readProject_of_execute hread).2⟩
  rw [hmade] at hresolve
  rw [compile_of_project hread, writeOutputs_of_ne_nil hne, Run.execute_bind_of_error hresolve]

/-- With all outputs made, a compilation is writing them, and has had no effects before. -/
theorem compile_of_made (hread : (readProject config).execute host world = (.ok db, w))
    (hne : db.outputs ≠ []) (hmet : ∀ r ∈ db.outputs, ∀ e, ¬ r.Refused e) :
    ∃ outputs w₁,
      List.Forall₂ (fun r output => Output.made config r = .ok output) db.outputs outputs ∧
      w₁.effects = world.effects ∧
      (compile config).execute host world =
        match (writeAll db (db.outputs.zip outputs)).execute host w₁ with
        | (.ok (), w') => (.ok db, w')
        | (.error e, w') => (.error e, w') := by
  obtain ⟨w₁, hresolve, heffects⟩ := reads_resolveOutputs config db host w
  have hmakeable : ∀ r ∈ db.outputs, ∀ e, Output.made config r ≠ .error e := by
    intro r hr e hmade
    exact hmet r hr e (Output.made_eq_error_iff.1 hmade)
  obtain ⟨outputs, hmade, houtputs⟩ := exists_mapM_eq_ok hmakeable
  refine ⟨outputs, w₁, houtputs, heffects.trans (readProject_of_execute hread).2, ?_⟩
  rw [hmade] at hresolve
  rw [compile_of_project hread, writeOutputs_of_ne_nil hne, Run.execute_bind_of_ok hresolve]

end

/-- No compilation has partial effects before all its outputs are made, and each export makes its
calls in order. -/
theorem compile_orderly (config : Config) (host : Host) (world : World) :
    Orderly config host world where
  unreadable e w hread := by
    obtain ⟨hproject, heffects⟩ := readProject_of_execute hread
    refine ⟨projectIn_eq_error_iff.1 hproject, ?_, heffects⟩
    rw [compile, Run.execute_bind_of_error hread]
  noOutputs db w hread hnil := by
    refine ⟨?_, (readProject_of_execute hread).2⟩
    rw [compile_of_project hread, writeOutputs, if_pos hnil]
    rfl
  refused db w before request after e hread houtputs hbefore hrefused :=
    compile_of_refused hread houtputs hbefore hrefused
  exported db w hread hne hmet := by
    obtain ⟨outputs, w₁, houtputs, heffects, hcompile⟩ := compile_of_made hread hne hmet
    refine ⟨outputs, w₁, houtputs, heffects, ?_⟩
    rw [hcompile]
    rcases execute_writeAll db host (db.outputs.zip outputs) w₁ with
      ⟨w', hexported, hwrite⟩ |
      ⟨before, request, output, after, w₂, e, w', hpairs, hbefore, hfailed, hwrite⟩
    · -- every output is through
      refine .inl ⟨w', hexported, ?_⟩
      rw [hwrite]
    · -- the outputs behind the one that fails are never touched
      refine .inr ⟨before, request, output, after, w₂, e, w', hpairs, hbefore, hfailed, ?_⟩
      rw [hwrite]
  printed options db := Output.prints_writeDatabase host options db
  writeDatabase output db := output.writeDatabase_eq_exportDatabase db
  calls p s db w := p.callsInOrder host s w db

/-- A host whose terminal leads to a closed pipe. -/
def unheard : Host :=
  ⟨[], 2024, false, fun _ _ => .done, fun _ _ => .cut 0 (.other "Broken pipe (os error 32)")⟩

/-- A project of one sequence, with the terminal as the second of three outputs. -/
def threeOutputs : World where
  files := ⟨OrderedMap.ofList [
    (["makefile"], .file (.text ("DEFINITIONS=ids.dbdef\nOUTPUT=sql_script(mode=consolidated)\n" ++
      "OUTPUT=console\nOUTPUT=markdown_docs"))),
    (["sk_mapping.dbmap"], .file (.text [])),
    (["ids.dbdef"], .file (.text "SEQ\nNAME: ids"))], OrderedMap.empty⟩
  prints := []
  notices := []
  exchanges := []

/-- The script is written, the report is refused, and the documentation is not begun. -/
example :
    let run := (compile .default).execute unheard threeOutputs
    run.1.map Database.size = .error
        ((Error.file Run.standardOutput (.other "Broken pipe (os error 32)")).within
          (.writingOutput "console")) ∧
      run.2.files.isFile [] "sk_db.sql" = true ∧ run.2.printed = [] ∧
      run.2.files.isFile [] "README-DB.md" = false := by
  decide +kernel

end SchemaCompiler.Compile
