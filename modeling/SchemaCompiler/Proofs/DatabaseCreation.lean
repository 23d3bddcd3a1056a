import SchemaCompiler.Proofs.Scripts

namespace SchemaCompiler

/-! # What creating a database sends

A server is told one action after another, and nothing more once it has failed one (`talk`). A run
follows a plan if this is just what it sends, and it succeeds if nothing failed (`Run.Follows`); the
plan may depend on what the server has answered. So what creating a database sends can be read off
its plan, and what it never sends is what no plan has. Main statements:

* `talk_append`: a plan of two parts is told part by part, unless the first one fails;
* `Run.Follows.bind`: parts of a run follow the parts of a plan;
* `Output.follows_commitDatabase`: the plan of creating a database;
* `Output.creation_orderly`: in which order it sends what, and where it stops.
-/

/-! ## Conversations -/

/-- The server failed the action. -/
def Exchange.failed (exchange : Exchange) : Bool :=
  match exchange.reply with
  | .failed _ => true
  | _ => false

/-- The server is told one action after another, up to the first one it fails. -/
def talk (server : Server) : List Exchange → List Action → List Exchange
  | _, [] => []
  | history, action :: rest =>
    let exchange : Exchange := ⟨action, server history action⟩
    exchange :: if exchange.failed then [] else talk server (history ++ [exchange]) rest

section

variable {server : Server} {history : List Exchange} {action : Action} {plan rest : List Action}

theorem talk_cons_of_failed (h : (Exchange.mk action (server history action)).failed = true) :
    talk server history (action :: rest) = [⟨action, server history action⟩] := by
  rw [talk, if_pos h]

theorem talk_cons_of_accepted (h : (Exchange.mk action (server history action)).failed = false) :
    talk server history (action :: rest) = ⟨action, server history action⟩ ::
      talk server (history ++ [⟨action, server history action⟩]) rest := by
  rw [talk, if_neg (ne_true_of_eq_false h)]

theorem talk_singleton (server : Server) (history : List Exchange) (action : Action) :
    talk server history [action] = [⟨action, server history action⟩] := by
  rw [talk, talk, ite_self]

/-- A plan of two parts is told part by part, unless something fails in the first one. -/
theorem talk_append (server : Server) (history : List Exchange) (plan rest : List Action) :
    talk server history (plan ++ rest) = talk server history plan ++
      if ∀ x ∈ talk server history plan, x.failed = false then
        talk server (history ++ talk server history plan) rest
      else [] := by
  induction plan generalizing history with
  | nil => simp [talk]
  | cons action plan ih =>
      rw [List.cons_append]
      cases h : (Exchange.mk action (server history action)).failed with
      | true => simp [talk_cons_of_failed h, h]
      | false => simp [talk_cons_of_accepted h, h, ih]

/-- What is told is a beginning of the plan. -/
theorem prefix_talk (server : Server) (history : List Exchange) (plan : List Action) :
    (talk server history plan).map Exchange.action <+: plan := by
  induction plan generalizing history with
  | nil => exact List.prefix_rfl
  | cons action rest ih =>
      cases h : (Exchange.mk action (server history action)).failed with
      | true =>
          rw [talk_cons_of_failed h]
          exact ⟨rest, rfl⟩
      | false =>
          rw [talk_cons_of_accepted h, List.map_cons, List.cons_prefix_cons]
          exact ⟨rfl, ih _⟩

/-- If nothing fails, the whole plan is told. -/
theorem talk_complete (h : ∀ x ∈ talk server history plan, x.failed = false) :
    (talk server history plan).map Exchange.action = plan := by
  induction plan generalizing history with
  | nil => rfl
  | cons action rest ih =>
      cases hfirst : (Exchange.mk action (server history action)).failed with
      | true =>
          rw [talk_cons_of_failed hfirst] at h
          rw [h _ List.mem_cons_self] at hfirst
          cases hfirst
      | false =>
          rw [talk_cons_of_accepted hfirst] at h ⊢
          rw [List.map_cons, ih fun x hx => h x (List.mem_cons_of_mem _ hx)]

/-- Every answer is the server's, and only the last one can be a failure. -/
theorem talk_split {before after : List Exchange} {x : Exchange}
    (h : talk server history plan = before ++ x :: after) :
    x.reply = server (history ++ before) x.action ∧
      (∀ y ∈ before, y.failed = false) ∧ (x.failed = true → after = []) := by
  induction plan generalizing history before with
  | nil => simp [talk] at h
  | cons action rest ih =>
      cases hfirst : (Exchange.mk action (server history action)).failed with
      | true =>
          rw [talk_cons_of_failed hfirst] at h
          obtain ⟨rfl, rfl, rfl⟩ : before = [] ∧ x = ⟨action, server history action⟩ ∧
              after = [] := by
            cases before <;> simp_all
          exact ⟨by rw [List.append_nil], nofun, fun _ => rfl⟩
      | false =>
          rw [talk_cons_of_accepted hfirst] at h
          cases before with
          | nil =>
              obtain ⟨rfl, -⟩ := List.cons.inj h
              refine ⟨by rw [List.append_nil], nofun, ?_⟩
              intro hfailed
              rw [hfirst] at hfailed
              cases hfailed
          | cons y before =>
              obtain ⟨rfl, hrest⟩ := List.cons.inj h
              obtain ⟨hanswer, hbefore, hlast⟩ := ih hrest
              rw [List.append_assoc, List.singleton_append] at hanswer
              exact ⟨hanswer, List.forall_mem_cons.2 ⟨hfirst, hbefore⟩, hlast⟩

/-- A failure is the end. -/
theorem talk_failed (h : ¬∀ x ∈ talk server history plan, x.failed = false) :
    ∃ before last, talk server history plan = before ++ [last] ∧ last.failed = true ∧
      ∀ x ∈ before, x.failed = false := by
  push Not at h
  obtain ⟨x, hx, hfailed⟩ := h
  obtain ⟨before, after, hsplit⟩ := List.append_of_mem hx
  obtain ⟨-, hbefore, hlast⟩ := talk_split hsplit
  have hx' : x.failed = true := by simpa using hfailed
  rw [hlast hx'] at hsplit
  exact ⟨before, x, hsplit, hx', hbefore⟩

end

/-! ## Runs that follow a plan -/

/-- What to send, which may depend on the answers of the server. -/
abbrev Plan := Server → List Exchange → List Action

namespace Run

variable {α β : Type} {plan rest : Plan}

/-- The run sends what the plan says, up to the first failure, and it succeeds if there is none. -/
def Follows (plan : Plan) (run : Run α) : Prop :=
  ∀ host world,
    (run.execute host world).2.exchanges =
      world.exchanges ++ talk host.server world.exchanges (plan host.server world.exchanges) ∧
    ((run.execute host world).1.isOk = true ↔
      ∀ x ∈ talk host.server world.exchanges (plan host.server world.exchanges), x.failed = false)

theorem follows_pure (x : α) : (pure x : Run α).Follows fun _ _ => [] := by
  intro host world
  constructor
  · exact (List.append_nil world.exchanges).symm
  · exact ⟨fun _ => nofun, fun _ => rfl⟩

theorem follows_notify (notice : Notice) : (notify notice).Follows fun _ _ => [] := by
  intro host world
  constructor
  · exact (List.append_nil world.exchanges).symm
  · exact ⟨fun _ => nofun, fun _ => rfl⟩

section

variable {host : Host} {world : World} {action : Action}

theorem execute_send_of_accepted
    (h : (Exchange.mk action (host.server world.exchanges action)).failed = false) :
    (send action).execute host world =
      (.ok (decide (host.server world.exchanges action = .found)), told host world action) := by
  rw [execute_send]
  cases hreply : host.server world.exchanges action with
  | done => rfl
  | found => rfl
  | failed causes =>
      rw [hreply] at h
      cases h

theorem execute_send_of_failed
    (h : (Exchange.mk action (host.server world.exchanges action)).failed = true) :
    ∃ e, (send action).execute host world = (.error e, told host world action) := by
  rw [execute_send]
  cases hreply : host.server world.exchanges action with
  | done =>
      rw [hreply] at h
      cases h
  | found =>
      rw [hreply] at h
      cases h
  | failed causes => exact ⟨_, rfl⟩

end

/-- What follows an action that is sent may depend on what the server found. -/
theorem follows_send_bind (action : Action) {next : Bool → Run β} {rest : Bool → Plan}
    (h : ∀ found, (next found).Follows (rest found)) :
    (send action >>= next).Follows fun server history =>
      action :: rest (server history action = .found) server
        (history ++ [⟨action, server history action⟩]) := by
  intro host world
  cases hfailed : (Exchange.mk action (host.server world.exchanges action)).failed with
  | true =>
      obtain ⟨e, hsend⟩ := execute_send_of_failed hfailed
      rw [execute_bind_of_error hsend, talk_cons_of_failed hfailed]
      refine ⟨rfl, ⟨nofun, ?_⟩⟩
      intro hall
      rw [hall _ List.mem_cons_self] at hfailed
      cases hfailed
  | false =>
      obtain ⟨hexchanges, hok⟩ := h (decide (host.server world.exchanges action = .found)) host
        (told host world action)
      rw [execute_bind_of_ok (execute_send_of_accepted hfailed), talk_cons_of_accepted hfailed,
        List.forall_mem_cons]
      constructor
      · rw [hexchanges, told, List.append_assoc, List.singleton_append]
      · rw [hok]
        exact ⟨fun hrest => ⟨hfailed, hrest⟩, fun hall => hall.2⟩

/-- An action may be sent and its answer left aside. -/
theorem follows_send (action : Action) : (send action).Follows fun _ _ => [action] := by
  have hsend := follows_send_bind action fun found => follows_pure found
  rw [bind_pure] at hsend
  exact hsend

/-- Parts of a run follow the parts of a plan. -/
theorem Follows.bind {run : Run α} {next : α → Run β} (h : run.Follows plan)
    (hnext : ∀ x, (next x).Follows rest) :
    (run >>= next).Follows fun server history =>
      plan server history ++
        rest server (history ++ talk server history (plan server history)) := by
  intro host world
  obtain ⟨hexchanges, hok⟩ := h host world
  rw [talk_append, execute_bind]
  rcases hrun : run.execute host world with ⟨e | x, w⟩
  · -- a failure ends both the run and what is told
    rw [hrun] at hexchanges hok
    have hfailed : ¬∀ x ∈ talk host.server world.exchanges (plan host.server world.exchanges),
        x.failed = false := fun hall => absurd (hok.2 hall) Bool.false_ne_true
    rw [if_neg hfailed, List.append_nil]
    exact ⟨hexchanges, hok⟩
  · rw [hrun] at hexchanges hok
    have hall := hok.1 rfl
    obtain ⟨hexchanges', hok'⟩ := hnext x host w
    simp only at hexchanges
    rw [hexchanges] at hexchanges' hok'
    rw [if_pos hall, List.forall_mem_append]
    constructor
    · rw [← List.append_assoc]
      exact hexchanges'
    · rw [hok']
      exact ⟨fun hrest => ⟨hall, hrest⟩, fun hboth => hboth.2⟩

theorem Follows.during {run : Run α} (h : run.Follows plan) (activity : Activity) :
    (during activity run).Follows plan := by
  intro host world
  have hrun := h host world
  rw [execute_during]
  rcases hw : run.execute host world with ⟨e | x, w⟩
  · rw [hw] at hrun
    exact hrun
  · rw [hw] at hrun
    exact hrun

/-- Runs one after another follow their actions one after another. -/
theorem follows_forM {ι : Type} {f : ι → Run Unit} {action : ι → Action}
    (h : ∀ i, (f i).Follows fun _ _ => [action i]) (is : List ι) :
    (is.forM f).Follows fun _ _ => is.map action := by
  induction is with
  | nil => exact follows_pure ()
  | cons i is ih =>
      show (f i >>= fun _ => is.forM f).Follows _
      exact (h i).bind fun _ => ih

end Run

/-! ## Creating a database -/

namespace Output

/-- What is done about the database itself: one that was found is dropped if this is asked for, and
one that was not found or has been dropped is created. -/
def replacement (name : Text) (dropIfExists found : Bool) : List Action :=
  (if found && dropIfExists then [.execute (dropDatabaseSql name)] else []) ++
    if found && !dropIfExists then [] else [.execute (createDatabaseSql name)]

/-- The whole of what creating a database sends, if nothing fails: connect, look the database up, do
what there is to do about it, connect to it and run the scripts. -/
def creationPlan (options : DatabaseOptions) (found : Bool) (scripts : List Text) : List Action :=
  .connect options.connection none :: .lookUp options.connection.database ::
    (replacement options.connection.database options.dropIfExists found ++
      .connect options.connection (some options.connection.database) :: scripts.map .execute)

/-- Does what is to be done about a database that was looked up; the result tells whether it was
created. -/
def replaceDatabase (name : Text) (dropIfExists found : Bool) : Run Bool := do
  if found && dropIfExists then
    Run.notify ⟨.info, "dropping database", [("database", .quoted name)]⟩
    let _ ← Run.send (.execute (dropDatabaseSql name))
  if found && !dropIfExists then
    Run.notify ⟨.debug, "database already exists", [("database", .quoted name)]⟩
    return false
  else
    Run.notify ⟨.info, "creating database", [("database", .quoted name)]⟩
    let _ ← Run.send (.execute (createDatabaseSql name))
    return true

theorem ensureDatabase_eq (name : Text) (dropIfExists : Bool) :
    ensureDatabase name dropIfExists =
      Run.send (.lookUp name) >>= replaceDatabase name dropIfExists := rfl

theorem follows_notify_send (notice : Notice) (sql : Text) {α : Type} {next : Run α} {rest : Plan}
    (h : next.Follows rest) :
    (do Run.notify notice; let _ ← Run.send (.execute sql); next : Run α).Follows
      fun server history => .execute sql ::
        rest server (history ++ [⟨.execute sql, server history (.execute sql)⟩]) := by
  have hsend := Run.follows_send_bind (.execute sql) fun _ => h
  have hboth := (Run.follows_notify notice).bind fun _ => hsend
  simp only [talk, List.nil_append, List.append_nil] at hboth
  exact hboth

theorem follows_replaceDatabase (name : Text) (dropIfExists found : Bool) :
    (replaceDatabase name dropIfExists found).Follows fun _ _ =>
      replacement name dropIfExists found := by
  have hcreate := follows_notify_send ⟨.info, "creating database", [("database", .quoted name)]⟩
    (createDatabaseSql name) (Run.follows_pure true)
  cases found with
  | false => exact hcreate
  | true =>
      cases dropIfExists with
      | false => exact (Run.follows_notify _).bind fun _ => Run.follows_pure false
      | true => exact follows_notify_send _ (dropDatabaseSql name) hcreate

theorem follows_ensureDatabase (name : Text) (dropIfExists : Bool) :
    (ensureDatabase name dropIfExists).Follows fun server history =>
      .lookUp name :: replacement name dropIfExists (server history (.lookUp name) = .found) := by
  rw [ensureDatabase_eq]
  exact Run.follows_send_bind (.lookUp name) (follows_replaceDatabase name dropIfExists)

theorem follows_createObject (entry : Text × Text) :
    (createObject entry.1 entry.2).Follows fun _ _ => [.execute entry.2] := by
  have hsend := (Run.follows_send (.execute entry.2)).during (.creatingObject entry.1)
  have hboth := (Run.follows_notify
    ⟨.debug, "creating object", [("object", .quoted entry.1)]⟩).bind fun _ =>
      hsend.bind fun _ => Run.follows_pure ()
  simp only [List.nil_append, List.append_nil] at hboth
  exact hboth

theorem follows_runScripts (c : ConnectionSettings) (scripts : ScriptBook) :
    (runScripts c scripts).Follows fun _ _ =>
      .connect c (some c.database) :: (scripts.entries.map Prod.snd).map .execute := by
  have hconnect := (Run.follows_send (.connect c (some c.database))).during
    (.connectingTo c.database c.host c.port)
  have hobjects := Run.follows_forM follows_createObject scripts.entries
  have hall := hconnect.bind fun _ => hobjects.bind fun _ => Run.follows_notify
    ⟨.info, "database objects created",
      [("database", .plain c.database), ("objects", .number scripts.size)]⟩
  simp only [List.append_nil] at hall
  rw [List.map_map]
  exact hall

/-- The plan of creating a database, which goes on as the server has answered the query. -/
theorem follows_commitDatabase (options : DatabaseOptions) (scripts : ScriptBook) :
    (commitDatabase options scripts).Follows fun server history =>
      creationPlan options
        (server (history ++ [⟨.connect options.connection none,
          server history (.connect options.connection none)⟩])
            (.lookUp options.connection.database) = .found)
        (scripts.entries.map Prod.snd) := by
  -- that a database was created is told, and this sends nothing
  have htell : ∀ created : Bool, (do
      if created then
        Run.notify ⟨.info, "database created",
          [("database", .plain options.connection.database)]⟩
      runScripts options.connection scripts : Run Unit).Follows fun _ _ =>
        .connect options.connection (some options.connection.database) ::
          (scripts.entries.map Prod.snd).map .execute := by
    intro created
    have hscripts := follows_runScripts options.connection scripts
    cases created with
    | false => exact hscripts
    | true => exact (Run.follows_notify _).bind fun _ => hscripts
  have hconnect := (Run.follows_send (.connect options.connection none)).during
    (.connecting options.connection.host options.connection.port)
  have hensure := (follows_ensureDatabase options.connection.database options.dropIfExists).during
    (.creatingDatabase options.connection.database)
  have hall := hconnect.bind fun _ => hensure.bind htell
  simp only [talk_singleton] at hall
  exact hall

end Output

/-! ## Scripts are no statements about a database -/

namespace ScriptBook

/-- The scripts of objects by name, in the order in which names first come up. -/
def pages (objects : List Object) : List Text := (names objects).map (page objects)

theorem map_snd_entries_ofObjects (objects : List Object) :
    (ofObjects objects).entries.map Prod.snd = pages objects := by
  rw [entries_ofObjects, List.map_map, pages]
  rfl

theorem prefix_ofStatements {schema start : Text} {statement : Statement}
    (h : start <+: statement.body schema) (rest : List Statement) :
    start <+: Script.ofStatements schema (statement :: rest) := by
  rw [Script.ofStatements, List.flatMap_cons, Statement.write, List.append_assoc, List.append_assoc]
  exact h.trans (List.prefix_append _ _)

/-- A script creates an object, which is not a database. -/
theorem prefix_scriptOf (object : Object) :
    ∃ c, c ≠ 'D' ∧ "CREATE ".toList ++ [c] <+: scriptOf object := by
  -- whatever the clauses are, the first keywords tell
  cases object with
  | table table =>
      have hbody : "CREATE TABLE IF NOT EXISTS ".toList <+:
          (Statement.createTable table.name table.columns).body Sql.defaultSchema := by
        show _ <+: ("CREATE TABLE IF NOT EXISTS " : Text) ++ _ ++ _ ++ _ ++ _
        simp only [List.append_assoc]
        exact List.prefix_append _ _
      have hkeywords : "CREATE ".toList ++ ['T'] <+: "CREATE TABLE IF NOT EXISTS ".toList :=
        ⟨"ABLE IF NOT EXISTS ".toList, rfl⟩
      exact ⟨'T', by decide, prefix_ofStatements (hkeywords.trans hbody) _⟩
  | sequence sequence =>
      have hbody : "CREATE SEQUENCE IF NOT EXISTS ".toList <+:
          (Statement.createSequence sequence).body Sql.defaultSchema := by
        show _ <+: ("CREATE SEQUENCE IF NOT EXISTS " : Text) ++ _ ++ _ ++ _ ++ _ ++ _ ++ _ ++ _
        simp only [List.append_assoc]
        exact List.prefix_append _ _
      have hkeywords : "CREATE ".toList ++ ['S'] <+: "CREATE SEQUENCE IF NOT EXISTS ".toList :=
        ⟨"EQUENCE IF NOT EXISTS ".toList, rfl⟩
      exact ⟨'S', by decide, prefix_ofStatements (hkeywords.trans hbody) _⟩
  | function function =>
      have hbody : "CREATE OR REPLACE FUNCTION ".toList <+:
          (Statement.createFunction function).body Sql.defaultSchema := by
        show _ <+: ("CREATE OR REPLACE FUNCTION " : Text) ++ _ ++ _ ++ _ ++ _ ++ _ ++ _ ++ _ ++ _ ++
          _ ++ _ ++ _ ++ _
        simp only [List.append_assoc]
        exact List.prefix_append _ _
      have hkeywords : "CREATE ".toList ++ ['O'] <+: "CREATE OR REPLACE FUNCTION ".toList :=
        ⟨"R REPLACE FUNCTION ".toList, rfl⟩
      exact ⟨'O', by decide, prefix_ofStatements (hkeywords.trans hbody) _⟩

theorem exists_of_mem_pages {objects : List Object} {sql : Text} (h : sql ∈ pages objects) :
    ∃ c rest, sql = "CREATE ".toList ++ c :: rest ∧ c ≠ 'D' := by
  obtain ⟨name, hname, rfl⟩ := List.mem_map.1 h
  -- a page has the script of some object on it, and begins with the first one
  obtain ⟨object, hobject, hsame⟩ := mem_names.1 hname
  have hmem : object ∈ objects.filter fun o => o.name = name :=
    List.mem_filter.2 ⟨hobject, by simpa using hsame⟩
  obtain ⟨first, others, hfilter⟩ := List.exists_cons_of_ne_nil (List.ne_nil_of_mem hmem)
  obtain ⟨c, hc, rest, hscript⟩ := prefix_scriptOf first
  refine ⟨c, rest ++ others.flatMap scriptOf, ?_, hc⟩
  rw [page, hfilter, List.flatMap_cons, ← hscript]
  simp only [List.append_assoc, List.cons_append, List.nil_append]

/-- No script is the statement that drops or creates a database. -/
theorem not_database_of_mem_pages {objects : List Object} {sql : Text} (h : sql ∈ pages objects) :
    ¬"DROP".toList <+: sql ∧ ∀ name, sql ≠ createDatabaseSql name := by
  obtain ⟨c, rest, rfl, hc⟩ := exists_of_mem_pages h
  constructor
  · rintro ⟨behind, hdrop⟩
    exact absurd (List.cons.inj hdrop).1 (by decide)
  · intro name hcreate
    have hbehind : c :: rest = "DATABASE ".toList ++ quoteName name :=
      List.append_cancel_left hcreate
    exact hc (List.cons.inj hbehind).1

end ScriptBook

/-! ## The order of what is sent -/

namespace Output

/-- The query has found the database. -/
def Found (options : DatabaseOptions) (sent : List Exchange) : Prop :=
  ⟨.lookUp options.connection.database, .found⟩ ∈ sent

instance (options : DatabaseOptions) (sent : List Exchange) : Decidable (Found options sent) :=
  inferInstanceAs (Decidable (_ ∈ sent))

/-- What creating a database has sent behind a history of exchanges, and what it has come to. -/
structure OrderlyCreation (options : DatabaseOptions) (scripts : List Text) (server : Server)
    (history sent : List Exchange) (result : Except Error Unit) : Prop where
  /-- Every answer is the one that the server has for the action there and then. -/
  answered : ∀ before x after, sent = before ++ x :: after →
    x.reply = server (history ++ before) x.action
  /-- The actions are a beginning of the plan. -/
  planned : sent.map Exchange.action <+: creationPlan options (Found options sent) scripts
  /-- They are the whole of it, and none of them failed, just if the creation succeeds. -/
  ok_iff : result = .ok () ↔
    sent.map Exchange.action = creationPlan options (Found options sent) scripts ∧
      ∀ x ∈ sent, x.failed = false
  /-- Otherwise they stop right behind the first one that failed. -/
  stopped : ∀ e, result = .error e → ∃ before last, sent = before ++ [last] ∧
    last.failed = true ∧ ∀ x ∈ before, x.failed = false
  /-- No database is dropped unless this is asked for and the query has found it. -/
  drop : ∀ before sql reply after, sent = before ++ ⟨.execute sql, reply⟩ :: after →
    "DROP".toList <+: sql → options.dropIfExists = true ∧ Found options before
  /-- No script is run unless the database was found and kept or created before. -/
  objects : ∀ before sql reply after, sent = before ++ ⟨.execute sql, reply⟩ :: after →
    sql ∈ scripts → (Found options before ∧ options.dropIfExists = false) ∨
      ∃ x ∈ before, x.action = .execute (createDatabaseSql options.connection.database) ∧
        x.failed = false

section

variable {options : DatabaseOptions} {scripts : List Text} {found : Bool}
  {sent before after : List Exchange}

/-- Behind the query nothing is looked up. -/
theorem lookUp_not_mem (name : Text) :
    .lookUp name ∉ replacement options.connection.database options.dropIfExists found ++
      .connect options.connection (some options.connection.database) :: scripts.map .execute := by
  rw [replacement]
  cases found <;> cases options.dropIfExists <;> simp

/-- A statement is sent behind the query, where the plan has it. -/
theorem exists_of_planned {sql : Text} {reply : Reply}
    (h : sent.map Exchange.action <+: creationPlan options found scripts)
    (hsplit : sent = before ++ ⟨.execute sql, reply⟩ :: after) :
    ∃ x y between beyond, before = x :: y :: between ∧
      replacement options.connection.database options.dropIfExists found ++
          .connect options.connection (some options.connection.database) ::
            scripts.map .execute =
        between.map Exchange.action ++ .execute sql :: (after.map Exchange.action ++ beyond) := by
  obtain ⟨beyond, hplan⟩ := h
  rw [hsplit, creationPlan] at hplan
  match before, hplan with
  | [], hplan => exact absurd (List.cons.inj hplan).1 Action.noConfusion
  | [_], hplan => exact absurd (List.cons.inj (List.cons.inj hplan).2).1 Action.noConfusion
  | x :: y :: between, hplan =>
      have htail := (List.cons.inj (List.cons.inj hplan).2).2
      refine ⟨x, y, between, beyond, rfl, ?_⟩
      rw [← htail]
      simp

/-- If the query finds the database at all, it has done so before any statement is sent. -/
theorem found_before {sql : Text} {reply : Reply}
    (h : sent.map Exchange.action <+: creationPlan options found scripts)
    (hsplit : sent = before ++ ⟨.execute sql, reply⟩ :: after) (hfound : Found options sent) :
    Found options before := by
  obtain ⟨x, y, between, beyond, -, htail⟩ := exists_of_planned h hsplit
  rw [Found, hsplit] at hfound
  obtain hmem | hmem := List.mem_append.1 hfound
  · exact hmem
  · exfalso
    apply lookUp_not_mem options.connection.database
    rw [htail]
    cases hmem with
    | tail _ hmem =>
        have hlater : Action.lookUp options.connection.database ∈ after.map Exchange.action :=
          List.mem_map.2 ⟨_, hmem, rfl⟩
        simp [hlater]

/-- What replaces a database creates it, or drops it if it was found and this is asked for. -/
theorem drop_of_mem_replacement {sql name : Text} {dropIfExists : Bool}
    (h : .execute sql ∈ replacement name dropIfExists found)
    (hcreate : sql ≠ createDatabaseSql name) : dropIfExists = true ∧ found = true := by
  rw [replacement] at h
  cases found <;> cases dropIfExists <;> simp [hcreate] at h ⊢

/-- A database is dropped only if it was found and this is asked for. -/
theorem drop_of_planned {sql : Text} {reply : Reply}
    (h : sent.map Exchange.action <+: creationPlan options found scripts)
    (hsplit : sent = before ++ ⟨.execute sql, reply⟩ :: after) (hdrop : "DROP".toList <+: sql)
    (hscripts : sql ∉ scripts) : options.dropIfExists = true ∧ found = true := by
  obtain ⟨x, y, between, beyond, -, htail⟩ := exists_of_planned h hsplit
  have hmem : Action.execute sql ∈
      between.map Exchange.action ++ .execute sql :: (after.map Exchange.action ++ beyond) := by
    simp
  have hcreate : sql ≠ createDatabaseSql options.connection.database := by
    rintro rfl
    obtain ⟨behind, hbehind⟩ := hdrop
    exact absurd (List.cons.inj hbehind).1 (by decide)
  rw [← htail] at hmem
  obtain hreplace | hrest := List.mem_append.1 hmem
  · exact drop_of_mem_replacement hreplace hcreate
  · cases hrest with
    | tail _ hscript =>
        obtain ⟨script, hscript, hsame⟩ := List.mem_map.1 hscript
        cases hsame
        exact absurd hscript hscripts

/-- Unless it is found and kept, a database is created. -/
theorem create_mem_replacement (name : Text) {dropIfExists : Bool}
    (h : ¬(found = true ∧ dropIfExists = false)) :
    .execute (createDatabaseSql name) ∈ replacement name dropIfExists found := by
  rw [replacement]
  cases found <;> cases dropIfExists <;> simp at h ⊢

theorem execute_not_mem_replacement {sql name : Text} {dropIfExists : Bool}
    (h : ¬"DROP".toList <+: sql ∧ ∀ name, sql ≠ createDatabaseSql name) :
    .execute sql ∉ replacement name dropIfExists found := by
  have hdrop : sql ≠ dropDatabaseSql name := by
    rintro rfl
    exact h.1 ⟨" DATABASE IF EXISTS ".toList ++ quoteName name, rfl⟩
  rw [replacement]
  cases found <;> cases dropIfExists <;> simp [hdrop, h.2 name]

/-- A script is run behind what there is to do about the database. -/
theorem replaced_before {sql : Text} {reply : Reply}
    (h : sent.map Exchange.action <+: creationPlan options found scripts)
    (hsplit : sent = before ++ ⟨.execute sql, reply⟩ :: after)
    (hsql : .execute sql ∉ replacement options.connection.database options.dropIfExists found) :
    ∀ action ∈ replacement options.connection.database options.dropIfExists found,
      ∃ x ∈ before, x.action = action := by
  obtain ⟨x, y, between, beyond, rfl, htail⟩ := exists_of_planned h hsplit
  intro action haction
  have hbetween : action ∈ between.map Exchange.action := by
    obtain ⟨more, hmore, -⟩ | ⟨more, hmore, hsame⟩ := List.append_eq_append_iff.1 htail
    · rw [hmore]
      exact List.mem_append_left more haction
    · -- the statement would be one of these
      cases more with
      | nil =>
          rw [List.append_nil] at hmore
          exact hmore ▸ haction
      | cons first more =>
          obtain rfl := (List.cons.inj hsame).1
          exact absurd (hmore ▸ List.mem_append_right _ List.mem_cons_self) hsql
  obtain ⟨z, hz, rfl⟩ := List.mem_map.1 hbetween
  exact ⟨z, List.mem_cons_of_mem x (List.mem_cons_of_mem y hz), rfl⟩

end

/-- The server finds the database, asked behind a first connection. -/
def finds (options : DatabaseOptions) (server : Server) (history : List Exchange) : Bool :=
  server (history ++ [⟨.connect options.connection none,
    server history (.connect options.connection none)⟩])
    (.lookUp options.connection.database) = .found

section

variable (options : DatabaseOptions) (scripts : List Text) (server : Server)
  (history : List Exchange)

/-- Once connected, the query is sent, and it finds the database if the server does. -/
theorem found_talk (found : Bool)
    (h : (Exchange.mk (.connect options.connection none)
      (server history (.connect options.connection none))).failed = false) :
    decide (Found options (talk server history (creationPlan options found scripts))) =
      finds options server history := by
  rw [creationPlan, talk_cons_of_accepted h, finds, decide_eq_decide]
  constructor
  · intro hfound
    obtain hfirst | hfound := List.mem_cons.1 hfound
    · cases hfirst
    · rw [talk] at hfound
      obtain hsecond | hlater := List.mem_cons.1 hfound
      · exact (Exchange.mk.inj hsecond).2.symm
      · split at hlater
        · cases hlater
        · have hmem := (prefix_talk _ _ _).subset (List.mem_map.2 ⟨_, hlater, rfl⟩)
          exact absurd hmem (lookUp_not_mem options.connection.database)
  · intro hfound
    refine List.mem_cons_of_mem _ ?_
    rw [talk, hfound]
    exact List.mem_cons_self

/-- What the server is told of the plan is a beginning of it, as its own answers make the plan. -/
theorem planned_talk :
    (talk server history (creationPlan options (finds options server history) scripts)).map
        Exchange.action <+:
      creationPlan options
        (Found options
          (talk server history (creationPlan options (finds options server history) scripts)))
        scripts := by
  cases h : (Exchange.mk (.connect options.connection none)
      (server history (.connect options.connection none))).failed with
  | true =>
      rw [creationPlan, talk_cons_of_failed h]
      exact ⟨_, rfl⟩
  | false =>
      rw [found_talk options scripts server history _ h]
      exact prefix_talk _ _ _

variable {scripts server history}

/-- A server that is told the plan of a creation is told it in an orderly way. -/
theorem orderly_talk {result : Except Error Unit}
    (hscripts : ∀ sql ∈ scripts, ¬"DROP".toList <+: sql ∧ ∀ name, sql ≠ createDatabaseSql name)
    (hok : result.isOk = true ↔
      ∀ x ∈ talk server history (creationPlan options (finds options server history) scripts),
        x.failed = false) :
    OrderlyCreation options scripts server history
      (talk server history (creationPlan options (finds options server history) scripts))
      result := by
  have hplanned := planned_talk options scripts server history
  constructor
  case answered =>
    intro before x after hsplit
    exact (talk_split hsplit).1
  case planned => exact hplanned
  case ok_iff =>
    have hresult : result = .ok () ↔ result.isOk = true := by
      cases result with
      | ok _ => exact ⟨fun _ => rfl, fun _ => rfl⟩
      | error e => exact ⟨nofun, nofun⟩
    rw [hresult, hok]
    constructor
    · intro hall
      have hfirst := hall ⟨.connect options.connection none, _⟩ List.mem_cons_self
      rw [found_talk options scripts server history _ hfirst]
      exact ⟨talk_complete hall, hall⟩
    · exact fun h => h.2
  case stopped =>
    rintro e rfl
    apply talk_failed
    intro hall
    exact absurd (hok.2 hall) Bool.false_ne_true
  case drop =>
    intro before sql reply after hsplit hdrop
    have hsql : sql ∉ scripts := fun hmem => (hscripts sql hmem).1 hdrop
    obtain ⟨hasked, hfound⟩ := drop_of_planned hplanned hsplit hdrop hsql
    exact ⟨hasked, found_before hplanned hsplit (of_decide_eq_true hfound)⟩
  case objects =>
    intro before sql reply after hsplit hmem
    by_cases hkept : Found options (talk server history (creationPlan options
        (finds options server history) scripts)) ∧ options.dropIfExists = false
    · exact .inl ⟨found_before hplanned hsplit hkept.1, hkept.2⟩
    · -- then the plan has the creation in it, ahead of the scripts
      have hcreate := create_mem_replacement options.connection.database
        (fun h => hkept ⟨of_decide_eq_true h.1, h.2⟩)
      obtain ⟨x, hx, hsame⟩ := replaced_before hplanned hsplit
        (execute_not_mem_replacement (hscripts sql hmem)) _ hcreate
      exact .inr ⟨x, hx, hsame, (talk_split hsplit).2.1 x hx⟩

end

/-- Creating a database sends a beginning of its plan and all of it if it succeeds; it drops nothing
and runs no script without what must be known of the database first. -/
theorem creation_orderly (options : DatabaseOptions) (db : Database) (host : Host)
    (world : World) :
    ∃ sent,
      ((writeDatabase (.createDatabase options OrderedMap.empty) db).execute host
        world).2.exchanges = world.exchanges ++ sent ∧
      OrderlyCreation options (ScriptBook.pages db.objects) host.server world.exchanges sent
        ((writeDatabase (.createDatabase options OrderedMap.empty) db).execute host world).1 := by
  obtain ⟨hexchanges, hok⟩ :=
    follows_commitDatabase options (ScriptBook.ofObjects db.objects) host world
  rw [ScriptBook.map_snd_entries_ofObjects] at hexchanges hok
  rw [(collects_createDatabase options).writeDatabase_eq_commit, commit]
  exact ⟨_, hexchanges,
    orderly_talk options (fun sql hsql => ScriptBook.not_database_of_mem_pages hsql) hok⟩

/-- A host whose server creates no table. -/
def tableless : Host where
  working := []
  year := 2024
  colors := false
  server _ action :=
    match action with
    | .execute sql =>
      if "CREATE TABLE".toList.isPrefixOf sql then .failed ["permission denied"] else .done
    | _ => .done

/-- A database of one table. -/
def oneTable : Database :=
  ⟨Mapping.default, [], [⟨"jobs", OrderedMap.empty, [], none, [], []⟩], [], []⟩

/-- What creating it there comes to. -/
def refusedTable : Except Error Unit × World :=
  (writeDatabase (.createDatabase localDatabase OrderedMap.empty) oneTable).execute tableless
    untouched

/-- If the last action fails, the whole plan is sent all the same. -/
theorem whole_plan_refused :
    refusedTable.1 ≠ .ok () ∧
      refusedTable.2.actions =
        creationPlan localDatabase (Found localDatabase refusedTable.2.exchanges)
          (ScriptBook.pages oneTable.objects) := by
  constructor
  · have herror : refusedTable.1.isOk = false := rfl
    intro hok
    rw [hok] at herror
    cases herror
  · decide +kernel

end Output

end SchemaCompiler
