import SchemaCompiler.Output.Basic
import SchemaCompiler.Proofs.Effects
import SchemaCompiler.Proofs.Results

namespace SchemaCompiler

/-! # Requests that cannot be met

Making an output looks at nothing but its request and changes nothing but the notices
(`Output.reads_resolve`). `OutputRequest.Refused` lists the reasons why a request cannot be met,
each with its error, and `Output.made_eq_error_iff` says that there are no others. -/

/-! ## Reasons -/

/-- The request cannot be met, for a reason that the error gives. -/
inductive OutputRequest.Refused (request : OutputRequest) : Error → Prop
  /-- No output has the name. -/
  | unknownName (hname : ∀ kind : OutputKind, kind.name ≠ request.name) :
      Refused request (.ofFault (.output request.name))
  /-- Scripts are requested in a mode that there is not. -/
  | unknownMode {word : Text} (hname : request.name = OutputKind.sqlScript.name)
      (harg : request.arg? "mode" = some word) (hmode : ScriptMode.ofText? word = none) :
      Refused request (.configuration (.unknownScriptMode word))
  /-- A database is requested without a connection. -/
  | noConnection (hname : request.name = OutputKind.createDatabase.name)
      (harg : request.arg? "conn" = none) :
      Refused request (.configuration .noConnection)
  /-- A database is requested over a connection that is empty or cannot be read. -/
  | badConnection {text : Text} {e : Error} (hname : request.name = OutputKind.createDatabase.name)
      (harg : request.arg? "conn" = some text) (hconn : ConnectionSettings.parse text = .error e) :
      Refused request e
  /-- A database is requested over a connection that names none. -/
  | noDatabase {text : Text} {settings : ConnectionSettings}
      (hname : request.name = OutputKind.createDatabase.name)
      (harg : request.arg? "conn" = some text) (hconn : ConnectionSettings.parse text = .ok settings)
      (hdatabase : settings.hasDatabase = false) :
      Refused request (.configuration .noDatabase)

theorem OutputKind.ofName?_name (kind : OutputKind) : ofName? kind.name = some kind := by
  cases kind <;> rfl

theorem OutputKind.name_of_ofName? {name : Text} {kind : OutputKind}
    (h : ofName? name = some kind) : kind.name = name := by
  have hfound := List.find?_some h
  simpa using hfound

theorem OutputKind.ofName?_eq_none_iff {name : Text} :
    ofName? name = none ↔ ∀ kind : OutputKind, kind.name ≠ name := by
  constructor
  · intro h kind hkind
    rw [← hkind, ofName?_name] at h
    cases h
  · intro h
    rcases hfound : ofName? name with _ | kind
    · rfl
    · exact absurd (name_of_ofName? hfound) (h kind)

/-- A mode that is given must be one of the known words. -/
theorem ScriptOptions.ofRequest_eq_error_iff {request : OutputRequest} {e : Error} :
    ofRequest request = .error e ↔
      ∃ word, request.arg? "mode" = some word ∧ ScriptMode.ofText? word = none ∧
        e = .configuration (.unknownScriptMode word) := by
  unfold ofRequest
  rcases request.arg? "mode" with _ | word
  · constructor
    · intro h
      cases h
    · rintro ⟨word, harg, -⟩
      cases harg
  · -- only a word that names no mode is an error
    dsimp only
    rcases hmode : ScriptMode.ofText? word with _ | mode
    · constructor
      · intro h
        cases h
        exact ⟨word, rfl, hmode, rfl⟩
      · rintro ⟨_, ⟨rfl⟩, -, rfl⟩
        rfl
    · constructor
      · intro h
        cases h
      · rintro ⟨_, ⟨rfl⟩, hnone, -⟩
        rw [hmode] at hnone
        cases hnone

/-- The options of a request that gives a connection. -/
theorem DatabaseOptions.ofRequest_of_arg? {request : OutputRequest} {text : Text}
    (h : request.arg? "conn" = some text) :
    ofRequest request = ConnectionSettings.parse text >>= fun settings =>
      if settings.hasDatabase = true then .ok ⟨settings, request.flagOr "drop_if_exists" false⟩
      else .error (.configuration .noDatabase) := by
  rw [ofRequest, h]
  dsimp only
  cases ConnectionSettings.parse text with
  | error e => rfl
  | ok settings =>
      rw [ok_bind, ok_bind]
      cases settings.hasDatabase <;> rfl

/-- There must be a connection that can be read and names a database. -/
theorem DatabaseOptions.ofRequest_eq_error_iff {request : OutputRequest} {e : Error} :
    ofRequest request = .error e ↔
      (request.arg? "conn" = none ∧ e = .configuration .noConnection) ∨
        ∃ text, request.arg? "conn" = some text ∧
          (ConnectionSettings.parse text = .error e ∨
            ∃ settings, ConnectionSettings.parse text = .ok settings ∧
              settings.hasDatabase = false ∧ e = .configuration .noDatabase) := by
  rcases harg : request.arg? "conn" with _ | text
  · have hnone : ofRequest request = .error (.configuration .noConnection) := by
      rw [ofRequest, harg]
      rfl
    rw [hnone]
    constructor
    · intro h
      cases h
      exact .inl ⟨rfl, rfl⟩
    · rintro (⟨-, rfl⟩ | ⟨_, hsome, -⟩)
      · rfl
      · cases hsome
  · rw [ofRequest_of_arg? harg, bind_eq_error_iff]
    constructor
    · rintro (hparse | ⟨settings, hparse, h⟩)
      · exact .inr ⟨text, rfl, .inl hparse⟩
      · -- settings that are read fail only for want of a database
        refine .inr ⟨text, rfl, .inr ⟨settings, hparse, ?_⟩⟩
        split at h
        · cases h
        · rename_i hdatabase
          cases h
          exact ⟨Bool.eq_false_iff.2 hdatabase, rfl⟩
    · rintro (⟨hnone, -⟩ | ⟨_, ⟨rfl⟩, hparse | ⟨settings, hparse, hdatabase, rfl⟩⟩)
      · cases hnone
      · exact .inl hparse
      · refine .inr ⟨settings, hparse, ?_⟩
        rw [if_neg (Bool.eq_false_iff.1 hdatabase)]

/-! ## Making outputs -/

namespace Output

/-- The output that a request names, as far as it can be made. -/
def made (config : Config) (request : OutputRequest) : Except Error Output :=
  match OutputKind.ofName? request.name with
  | some kind => ofRequest config kind request
  | none => .error (.ofFault (.output request.name))

theorem made_of_name {config : Config} {request : OutputRequest} {kind : OutputKind}
    (h : request.name = kind.name) : made config request = ofRequest config kind request := by
  rw [made, h, OutputKind.ofName?_name]

/-- A request cannot be met for the listed reasons, and for no others. -/
theorem made_eq_error_iff {config : Config} {request : OutputRequest} {e : Error} :
    made config request = .error e ↔ request.Refused e := by
  constructor
  · intro h
    rcases hkind : OutputKind.ofName? request.name with _ | kind
    · rw [made, hkind] at h
      cases h
      exact .unknownName (OutputKind.ofName?_eq_none_iff.1 hkind)
    · have hname : request.name = kind.name := (OutputKind.name_of_ofName? hkind).symm
      rw [made_of_name hname] at h
      cases kind with
      | sqlScript =>
          obtain ⟨word, harg, hmode, rfl⟩ :=
            ScriptOptions.ofRequest_eq_error_iff.1 (map_eq_error_iff.1 h)
          exact .unknownMode hname harg hmode
      | createDatabase =>
          rcases DatabaseOptions.ofRequest_eq_error_iff.1 (map_eq_error_iff.1 h) with
            ⟨harg, rfl⟩ | ⟨text, harg, hconn | ⟨settings, hconn, hdatabase, rfl⟩⟩
          · exact .noConnection hname harg
          · exact .badConnection hname harg hconn
          · exact .noDatabase hname harg hconn hdatabase
      | console => cases h
      | markdownDocs => cases h
      | mappingCode => cases h
  · intro h
    cases h with
    | unknownName hname => rw [made, OutputKind.ofName?_eq_none_iff.2 hname]
    | unknownMode hname harg hmode =>
        rw [made_of_name hname]
        exact map_eq_error_iff.2
          (ScriptOptions.ofRequest_eq_error_iff.2 ⟨_, harg, hmode, rfl⟩)
    | noConnection hname harg =>
        rw [made_of_name hname]
        exact map_eq_error_iff.2 (DatabaseOptions.ofRequest_eq_error_iff.2 (.inl ⟨harg, rfl⟩))
    | badConnection hname harg hconn =>
        rw [made_of_name hname]
        exact map_eq_error_iff.2
          (DatabaseOptions.ofRequest_eq_error_iff.2 (.inr ⟨_, harg, .inl hconn⟩))
    | noDatabase hname harg hconn hdatabase =>
        rw [made_of_name hname]
        exact map_eq_error_iff.2 (DatabaseOptions.ofRequest_eq_error_iff.2
          (.inr ⟨_, harg, .inr ⟨_, hconn, hdatabase, rfl⟩⟩))

/-- Making an output changes nothing but the notices, and does not look at the files. -/
theorem reads_resolve (config : Config) (request : OutputRequest) :
    (resolve config request).Reads fun _ _ => made config request := by
  unfold resolve made
  cases OutputKind.ofName? request.name with
  | none => exact fun _ world => ⟨world, rfl, rfl⟩
  | some kind =>
      have h := (Run.reads_notifyAll (requestNotices kind request)).bind fun _ =>
        Run.reads_ofResult (ofRequest config kind request)
      exact h

end Output

end SchemaCompiler
