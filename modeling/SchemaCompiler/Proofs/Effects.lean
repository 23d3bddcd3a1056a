import SchemaCompiler.Run

namespace SchemaCompiler

/-! # What runs do to the world

A run is followed part by part: a later part runs in the world that the earlier ones left, unless
one of them failed (`Run.execute_bind`). What the terminal or the server is asked stays in the
world, whatever the answer is (`Run.execute_require`, `Run.execute_send`). `Run.Keeps view run` says
that whatever a run comes to, it leaves the world as it was, seen by `view`. `Run.Reads result run`
says more: the run comes to a `result` that the host and the files give, and keeps all that can be
seen from outside (`World.effects`). `Run.Prints host t run` is about a run that only prints: it
prints `t`, or the first part of it and fails for the terminal.
-/

/-- What can be seen of a run from outside: files, all that the terminal was asked, and exchanges
with a server, but not the notices. -/
def World.effects (world : World) : FileTree × List Print × List Exchange :=
  (world.files, world.prints, world.exchanges)

/-- What lasts of a run: files and exchanges with a server. -/
def World.stored (world : World) : FileTree × List Exchange := (world.files, world.exchanges)

theorem World.stored_of_effects {world w : World} (h : w.effects = world.effects) :
    w.stored = world.stored := by
  rw [effects, effects, Prod.mk.injEq, Prod.mk.injEq] at h
  rw [stored, stored, h.1, h.2.2]

namespace Run

variable {α β ι : Type}

/-! ## Execution -/

section

variable (host : Host) (world : World)

/-- What follows a part of a run, runs in the world that this part left, unless it failed. -/
theorem execute_bind (run : Run α) (next : α → Run β) :
    (run >>= next).execute host world =
      match run.execute host world with
      | (.ok x, w) => (next x).execute host w
      | (.error e, w) => (.error e, w) := by
  unfold execute
  rw [ReaderT.run_bind, ExceptT.run_bind, StateT.run_bind]
  rcases StateT.run (ReaderT.run run host).run world with ⟨_ | x, w⟩ <;> rfl

theorem execute_ofResult (result : Except Error α) :
    (ofResult result).execute host world = (result, world) := by
  cases result <;> rfl

/-- An activity adds to an error and changes nothing else. -/
theorem execute_during (activity : Activity) (run : Run α) :
    (during activity run).execute host world =
      match run.execute host world with
      | (.ok x, w) => (.ok x, w)
      | (.error e, w) => (.error (e.within activity), w) := by
  unfold execute during
  simp only [tryCatch, tryCatchThe, MonadExceptOf.tryCatch, ReaderT.run, ExceptT.tryCatch,
    ExceptT.run, ExceptT.mk, StateT.run, bind, StateT.bind, pure]
  rcases run host world with ⟨_ | x, w⟩ <;> rfl

/-- The world in which the terminal has been asked for one more thing. -/
def asked (printing : Printing) : World :=
  { world with prints := world.prints ++ [⟨printing, host.terminal world.prints printing⟩] }

/-- What is required of the terminal is asked, and fails if it is refused. -/
theorem execute_require (printing : Printing) :
    (require printing).execute host world =
      (match (host.terminal world.prints printing).fault? with
        | none => .ok ()
        | some fault => .error (.file standardOutput fault), asked host world printing) := by
  have hask : (ask printing).execute host world =
      (.ok (host.terminal world.prints printing).fault?, asked host world printing) := rfl
  rw [require, execute_bind, hask]
  cases (host.terminal world.prints printing).fault? <;> rfl

/-- The world with one more exchange. -/
def told (action : Action) : World :=
  { world with exchanges := world.exchanges ++ [⟨action, host.server world.exchanges action⟩] }

/-- What sending comes to is decided by the answer. -/
theorem execute_send (action : Action) :
    (send action).execute host world =
      (match host.server world.exchanges action with
        | .done => .ok false
        | .found => .ok true
        | .failed causes => .error (.ofFault (.server causes)), told host world action) := by
  have hsend : (send action).execute host world =
      ((match host.server world.exchanges action with
        | .done => pure false
        | .found => pure true
        | .failed causes => throw (.ofFault (.server causes))) : Run Bool).execute host
          (told host world action) := rfl
  rw [hsend]
  cases host.server world.exchanges action <;> rfl

variable {host world} {run : Run α} {w : World}

theorem execute_bind_of_ok {x : α} (h : run.execute host world = (.ok x, w)) (next : α → Run β) :
    (run >>= next).execute host world = (next x).execute host w := by
  rw [execute_bind, h]

theorem execute_bind_of_error {e : Error} (h : run.execute host world = (.error e, w))
    (next : α → Run β) : (run >>= next).execute host world = (.error e, w) := by
  rw [execute_bind, h]

end

/-- A run in two parts succeeds only if the first one does, and the second one behind it. -/
theorem exists_of_execute_bind_eq_ok {host : Host} {world w : World} {run : Run α}
    {next : α → Run β} {y : β} (h : (run >>= next).execute host world = (.ok y, w)) :
    ∃ x w', run.execute host world = (.ok x, w') ∧ (next x).execute host w' = (.ok y, w) := by
  rw [execute_bind] at h
  rcases hrun : run.execute host world with ⟨e | x, w'⟩
  · rw [hrun] at h
    cases h
  · rw [hrun] at h
    exact ⟨x, w', rfl, h⟩

/-! ## What a run keeps -/

/-- Whatever the run comes to, the world is seen by `view` as it was before. -/
def Keeps {ν : Type} (view : World → ν) (run : Run α) : Prop :=
  ∀ host world, view (run.execute host world).2 = view world

section

variable {ν : Type} {view : World → ν}

theorem keeps_pure (x : α) : (pure x : Run α).Keeps view := fun _ _ => rfl

theorem keeps_ofResult (result : Except Error α) : (ofResult result).Keeps view := by
  intro host world
  rw [execute_ofResult]

theorem Keeps.bind {run : Run α} {next : α → Run β} (h : run.Keeps view)
    (hnext : ∀ x, (next x).Keeps view) : (run >>= next).Keeps view := by
  intro host world
  have hrun := h host world
  rw [execute_bind]
  rcases hw : run.execute host world with ⟨e | x, w⟩
  · rw [hw] at hrun
    exact hrun
  · rw [hw] at hrun
    exact (hnext x host w).trans hrun

theorem keeps_foldlM {f : α → ι → Run α} (h : ∀ x i, (f x i).Keeps view) (x : α) (is : List ι) :
    (is.foldlM f x).Keeps view := by
  induction is generalizing x with
  | nil => exact keeps_pure x
  | cons i is ih =>
      rw [List.foldlM_cons]
      exact (h x i).bind ih

end

/-- Nothing is written and nothing sent where all effects are kept. -/
theorem Keeps.stored {run : Run α} (h : run.Keeps World.effects) : run.Keeps World.stored := by
  intro host world
  exact World.stored_of_effects (h host world)

/-! ## Runs that only read -/

/-- The run comes to what the host and the files give, and changes nothing but the notices. -/
def Reads (result : Host → FileTree → Except Error α) (run : Run α) : Prop :=
  ∀ host world, ∃ w, run.execute host world = (result host world.files, w) ∧
    w.effects = world.effects

theorem Reads.keeps {result : Host → FileTree → Except Error α} {run : Run α}
    (h : run.Reads result) : run.Keeps World.effects := by
  intro host world
  obtain ⟨w, hrun, heffects⟩ := h host world
  rw [hrun]
  exact heffects

theorem reads_ofResult (result : Except Error α) : (ofResult result).Reads fun _ _ => result :=
  fun host world => ⟨world, execute_ofResult host world result, rfl⟩

theorem reads_pure (x : α) : (pure x : Run α).Reads fun _ _ => .ok x := fun _ world => ⟨world, rfl, rfl⟩

theorem reads_notifyAll (notices : List Notice) : (notifyAll notices).Reads fun _ _ => .ok () :=
  fun _ _ => ⟨_, rfl, rfl⟩

theorem reads_notify (notice : Notice) : (notify notice).Reads fun _ _ => .ok () :=
  fun _ _ => ⟨_, rfl, rfl⟩

theorem reads_readAsset (assets : Assets) (path : Text) :
    (readAsset assets path).Reads fun host files => assets.read files host.working path :=
  fun host world => ⟨world, execute_ofResult host world _, rfl⟩

theorem reads_discoverAssets (assets : Assets) (pattern : Text) :
    (discoverAssets assets pattern).Reads fun host files =>
      assets.discover files host.working pattern :=
  fun host world => ⟨world, execute_ofResult host world _, rfl⟩

/-- What reads behind something that only reads, finds the same files. -/
theorem Reads.bind {result : Host → FileTree → Except Error α}
    {result' : α → Host → FileTree → Except Error β} {run : Run α} {next : α → Run β}
    (h : run.Reads result) (hnext : ∀ x, (next x).Reads (result' x)) :
    (run >>= next).Reads fun host files => result host files >>= fun x => result' x host files := by
  intro host world
  obtain ⟨w, hrun, heffects⟩ := h host world
  -- the second part finds the files as the first one found them
  have hfiles : w.files = world.files := congrArg Prod.fst heffects
  rw [execute_bind, hrun]
  dsimp only
  rcases result host world.files with e | x
  · exact ⟨w, rfl, heffects⟩
  · obtain ⟨w', hrun', heffects'⟩ := hnext x host w
    rw [hfiles] at hrun'
    exact ⟨w', hrun', heffects'.trans heffects⟩

theorem Reads.mapM {result : ι → Host → FileTree → Except Error α} {f : ι → Run α}
    (h : ∀ i, (f i).Reads (result i)) (is : List ι) :
    (is.mapM f).Reads fun host files => is.mapM fun i => result i host files := by
  induction is with
  | nil => exact reads_pure []
  | cons i is ih =>
      simp only [List.mapM_cons]
      exact (h i).bind fun x => ih.bind fun xs => reads_pure (x :: xs)

/-! ## Runs that only print -/

/-- The run prints a text and has no other lasting effect; where the terminal refuses, it has printed
the first part of the text and fails for that. -/
def Prints (host : Host) (t : Text) (run : Run α) : Prop :=
  ∀ world, ∃ result w, run.execute host world = (result, w) ∧ w.stored = world.stored ∧
    match result with
    | .ok _ => w.printed = world.printed ++ t
    | .error e => ∃ part fault, part <+: t ∧ w.printed = world.printed ++ part ∧
        e = .file standardOutput fault

section

variable {host : Host} {t u : Text}

/-- What is printed does not last. -/
theorem keeps_of_prints {run : Run α} {t : Host → Text} (h : ∀ host, run.Prints host (t host)) :
    run.Keeps World.stored := by
  intro host world
  obtain ⟨_, w, hrun, hstored, -⟩ := h host world
  rw [hrun]
  exact hstored

theorem prints_pure (x : α) : (pure x : Run α).Prints host [] :=
  fun world => ⟨.ok x, world, rfl, rfl, (List.append_nil _).symm⟩

theorem prints_require (printing : Printing) :
    (require printing).Prints host (Print.mk printing .whole).text := by
  intro world
  have hprinted : (asked host world printing).printed =
      world.printed ++ (Print.mk printing (host.terminal world.prints printing)).text := by
    rw [World.printed, asked, List.flatMap_append, List.flatMap_singleton]
    rfl
  refine ⟨_, _, execute_require host world printing, rfl, ?_⟩
  cases hshown : host.terminal world.prints printing with
  | whole =>
      rw [hshown] at hprinted
      exact hprinted
  | cut length fault =>
      rw [hshown] at hprinted
      refine ⟨_, fault, ?_, hprinted, rfl⟩
      cases printing with
      | text t => exact List.take_prefix length t
      | flush => exact List.prefix_rfl

theorem Prints.bind {run : Run α} {next : α → Run β} (h : run.Prints host t)
    (hnext : ∀ x, (next x).Prints host u) : (run >>= next).Prints host (t ++ u) := by
  intro world
  obtain ⟨result, w, hrun, hstored, hresult⟩ := h world
  rw [execute_bind, hrun]
  cases result with
  | error e =>
      obtain ⟨part, fault, hpart, hprinted, he⟩ := hresult
      exact ⟨.error e, w, rfl, hstored, part, fault, hpart.trans (List.prefix_append t u),
        hprinted, he⟩
  | ok x =>
      obtain ⟨result', w', hrun', hstored', hresult'⟩ := hnext x w
      refine ⟨result', w', hrun', hstored'.trans hstored, ?_⟩
      cases result' with
      | ok y =>
          dsimp only at hresult hresult' ⊢
          rw [hresult', hresult, List.append_assoc]
      | error e =>
          obtain ⟨part, fault, hpart, hprinted, he⟩ := hresult'
          refine ⟨t ++ part, fault, (List.prefix_append_right_inj t).2 hpart, ?_, he⟩
          rw [hprinted, hresult, List.append_assoc]

theorem prints_read_bind {next : Host → Run α} (h : (next host).Prints host t) :
    (read >>= next).Prints host t := h

theorem prints_forM {f : ι → Run Unit} {t : ι → Text} (h : ∀ i, (f i).Prints host (t i))
    (is : List ι) : (is.forM f).Prints host (is.flatMap t) := by
  induction is with
  | nil => exact prints_pure ()
  | cons i is ih => exact (h i).bind fun _ => ih

end

end Run

end SchemaCompiler
