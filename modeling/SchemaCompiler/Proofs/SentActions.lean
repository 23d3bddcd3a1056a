import SchemaCompiler.Output.Basic
import SchemaCompiler.Proofs.Effects

namespace SchemaCompiler

/-! # Actions that are sent

`Run.Sends allowed run` says that whatever a run comes to, it sends actions of a kind only, behind
those that were sent before. Creating a database sends some preparation, selects the database, and
then sends the scripts of the book one by one (`Output.actions_of_commitDatabase`).
-/

/-- The actions sent so far. -/
def World.actions (world : World) : List Action := world.exchanges.map Exchange.action

namespace Run

variable {α β : Type}

/-! ## What a run sends -/

/-- Whatever the run comes to, it sends allowed actions only. -/
def Sends (allowed : Action → Prop) (run : Run α) : Prop :=
  ∀ host world, ∃ sent, (∀ a ∈ sent, allowed a) ∧
    (run.execute host world).2.actions = world.actions ++ sent

theorem Keeps.sends {run : Run α} (h : run.Keeps World.exchanges) (allowed : Action → Prop) :
    run.Sends allowed := by
  intro host world
  refine ⟨[], nofun, ?_⟩
  rw [World.actions, h host world, List.append_nil, World.actions]

theorem sends_pure (allowed : Action → Prop) (x : α) : (pure x : Run α).Sends allowed :=
  (keeps_pure x).sends allowed

theorem sends_notify (allowed : Action → Prop) (notice : Notice) : (notify notice).Sends allowed :=
  Keeps.sends (fun _ _ => rfl) allowed

/-- Sending keeps the exchange, whatever the answer is. -/
theorem execute_send_actions (action : Action) (host : Host) (world : World) :
    ((send action).execute host world).2.actions = world.actions ++ [action] := by
  rw [execute_send, World.actions, told, List.map_append, List.map_singleton, World.actions]

theorem sends_send {allowed : Action → Prop} {action : Action} (h : allowed action) :
    (send action).Sends allowed := by
  intro host world
  exact ⟨[action], by simpa using h, execute_send_actions action host world⟩

theorem Sends.bind {allowed : Action → Prop} {run : Run α} {next : α → Run β}
    (h : run.Sends allowed) (hnext : ∀ x, (next x).Sends allowed) :
    (run >>= next).Sends allowed := by
  intro host world
  obtain ⟨sent, hsent, hactions⟩ := h host world
  rw [execute_bind]
  rcases hrun : run.execute host world with ⟨e | x, w⟩
  · rw [hrun] at hactions
    exact ⟨sent, hsent, hactions⟩
  · rw [hrun] at hactions
    obtain ⟨others, hothers, hactions'⟩ := hnext x host w
    refine ⟨sent ++ others, ?_, ?_⟩
    · intro a ha
      exact (List.mem_append.1 ha).elim (hsent a) (hothers a)
    · rw [← List.append_assoc, ← hactions]
      exact hactions'

theorem execute_during_snd (activity : Activity) (run : Run α) (host : Host) (world : World) :
    ((during activity run).execute host world).2 = (run.execute host world).2 := by
  rw [execute_during]
  rcases run.execute host world with ⟨e | x, w⟩ <;> rfl

theorem Sends.during {allowed : Action → Prop} {run : Run α} (h : run.Sends allowed)
    (activity : Activity) : (during activity run).Sends allowed := by
  intro host world
  rw [execute_during_snd]
  exact h host world

theorem actions_of_send {activity : Activity} {action : Action} {found : Bool} {host : Host}
    {world w : World}
    (h : (during activity (send action)).execute host world = (.ok found, w)) :
    w.actions = world.actions ++ [action] := by
  have hworld := execute_during_snd activity (send action) host world
  rw [h] at hworld
  rw [show w = _ from hworld, execute_send_actions]

end Run

/-! ## Creating a database -/

namespace Output

/-- What is sent ahead of the scripts. -/
def IsPreparation : Action → Prop
  | .connect _ (some _) => False
  | _ => True

/-- Making sure of a database sends the look-up and the two statements about it, at most. -/
theorem sends_ensureDatabase {allowed : Action → Prop} {name : Text}
    (hlookUp : allowed (.lookUp name)) (hdrop : allowed (.execute (dropDatabaseSql name)))
    (hcreate : allowed (.execute (createDatabaseSql name))) (dropIfExists : Bool) :
    (ensureDatabase name dropIfExists).Sends allowed := by
  unfold ensureDatabase
  refine (Run.sends_send hlookUp).bind fun found => ?_
  -- whether a database was dropped or not, an existing one is kept or a new one created
  have hsettle : (if found && !dropIfExists then do
      Run.notify ⟨.debug, "database already exists", [("database", .quoted name)]⟩
      return false
    else do
      Run.notify ⟨.info, "creating database", [("database", .quoted name)]⟩
      let _ ← Run.send (.execute (createDatabaseSql name))
      return true : Run Bool).Sends allowed := by
    split
    · exact (Run.sends_notify _ _).bind fun _ => Run.sends_pure _ _
    · refine (Run.sends_notify _ _).bind fun _ => ?_
      exact (Run.sends_send hcreate).bind fun _ => Run.sends_pure _ _
  dsimp only
  split
  · refine (Run.sends_notify _ _).bind fun _ => ?_
    exact (Run.sends_send hdrop).bind fun _ => hsettle
  · exact hsettle

/-- A script that is carried out has been sent. -/
theorem actions_of_createObject {name sql : Text} {host : Host} {world w : World}
    (h : (createObject name sql).execute host world = (.ok (), w)) :
    w.actions = world.actions ++ [.execute sql] := by
  obtain ⟨_, w₁, hnotify, h⟩ := Run.exists_of_execute_bind_eq_ok h
  cases hnotify
  obtain ⟨_, w₂, hsend, h⟩ := Run.exists_of_execute_bind_eq_ok h
  cases h
  have hactions := Run.actions_of_send hsend
  exact hactions

/-- Scripts that are carried out have been sent one by one. -/
theorem actions_of_createObjects {entries : List (Text × Text)} {host : Host} {world w : World}
    (h : (entries.forM fun (name, sql) => createObject name sql).execute host world =
      (.ok (), w)) :
    w.actions = world.actions ++ (entries.map Prod.snd).map .execute := by
  induction entries generalizing world with
  | nil =>
      cases h
      simp
  | cons entry rest ih =>
      obtain ⟨_, w', hobject, hrest⟩ := Run.exists_of_execute_bind_eq_ok h
      rw [ih hrest, actions_of_createObject hobject]
      simp

/-- Runs the scripts of a book in the database of a connection. -/
def runScripts (c : ConnectionSettings) (scripts : ScriptBook) : Run Unit := do
  let _ ← Run.during (.connectingTo c.database c.host c.port)
    (Run.send (.connect c (some c.database)))
  scripts.entries.forM fun (name, sql) => createObject name sql
  Run.notify ⟨.info, "database objects created",
    [("database", .plain c.database), ("objects", .number scripts.size)]⟩

/-- Scripts are run in a database once it has been selected. -/
theorem actions_of_runScripts {c : ConnectionSettings} {scripts : ScriptBook} {host : Host}
    {world w : World} (h : (runScripts c scripts).execute host world = (.ok (), w)) :
    w.actions = world.actions ++
      .connect c (some c.database) :: (scripts.entries.map Prod.snd).map .execute := by
  obtain ⟨_, w₁, hselect, h⟩ := Run.exists_of_execute_bind_eq_ok h
  obtain ⟨_, w₂, hobjects, h⟩ := Run.exists_of_execute_bind_eq_ok h
  cases h
  have hactions : w₂.actions = _ := actions_of_createObjects hobjects
  rw [Run.actions_of_send hselect, List.append_assoc, List.singleton_append] at hactions
  exact hactions

/-- A database that is created has been prepared, then selected, and sent the scripts of the book. -/
theorem actions_of_commitDatabase {options : DatabaseOptions} {scripts : ScriptBook} {host : Host}
    {world w : World} (h : (commitDatabase options scripts).execute host world = (.ok (), w)) :
    ∃ preparation, (∀ a ∈ preparation, IsPreparation a) ∧
      w.actions = world.actions ++ preparation ++
        .connect options.connection (some options.connection.database) ::
          (scripts.entries.map Prod.snd).map .execute := by
  unfold commitDatabase at h
  dsimp only at h
  obtain ⟨_, w₁, hconnect, h⟩ := Run.exists_of_execute_bind_eq_ok h
  obtain ⟨created, w₂, hensure, h⟩ := Run.exists_of_execute_bind_eq_ok h
  have hsends : (ensureDatabase options.connection.database options.dropIfExists).Sends
      IsPreparation := sends_ensureDatabase trivial trivial trivial options.dropIfExists
  obtain ⟨sent, hsent, hactions⟩ :=
    (hsends.during (.creatingDatabase options.connection.database)) host w₁
  rw [hensure] at hactions
  -- a database that was created is told about, and then the scripts are run
  have hrun : ∃ w₃ : World, w₃.actions = w₂.actions ∧
      (runScripts options.connection scripts).execute host w₃ = (.ok (), w) := by
    split at h
    · obtain ⟨_, w₃, hnotice, h⟩ := Run.exists_of_execute_bind_eq_ok h
      have hsame : w₃.actions = w₂.actions := by
        cases hnotice
        rfl
      exact ⟨w₃, hsame, h⟩
    · exact ⟨w₂, rfl, h⟩
  obtain ⟨w₃, hnotice, hrun⟩ := hrun
  refine ⟨.connect options.connection none :: sent, List.forall_mem_cons.2 ⟨trivial, hsent⟩, ?_⟩
  rw [actions_of_runScripts hrun, hnotice, hactions, Run.actions_of_send hconnect]
  simp

end Output

end SchemaCompiler
