import SchemaCompiler.Proofs.Compilation

namespace SchemaCompiler

/-! # Categories of failures

An error has one cause, and all that is added on its way out are activities. So it belongs to the
category of its cause and to no other. Main statements:

* `Error.Of.classified`: an error with a cause of a category belongs to exactly this one, and its
  words end with those of its cause;
* `Compile.failsAmong_writeOutputs`: a run is looked through part by part for the categories that it
  may fail with (`Run.FailsAmong`); writing outputs never fails with one of definition files.
-/

/-! ## Causes -/

namespace Error

/-- The error is a cause of the category, seen from some activities. -/
inductive Of (category : Category) : Error → Prop
  | cause {fault : Fault} (h : fault.category? = some category) : Of category (ofFault fault)
  | within {e : Error} (activity : Activity) (h : Of category e) : Of category (e.within activity)

/-- The error is of one of the categories. -/
def Among (categories : List Category) (e : Error) : Prop := ∃ category ∈ categories, e.Of category

/-- The error belongs to exactly one category, which is that of its cause, and its words end with
those of its cause. -/
structure Classified (e : Error) : Prop where
  category : ∃! category, e.is category = true
  root : ∀ category, e.is category = true ↔ e.root.category? = some category
  display : (ofFault e.root).display <:+ e.display

variable {e : Error} {category : Category} {categories more : List Category}

theorem is_ofFault (fault : Fault) :
    (ofFault fault).is category = true ↔ fault.category? = some category := by
  simp [is, faults, ofFault]

@[simp] theorem is_within (activity : Activity) (e : Error) :
    (e.within activity).is category = e.is category := rfl

@[simp] theorem root_within (activity : Activity) (e : Error) :
    (e.within activity).root = e.root := by
  rw [root, within, List.getLast?_cons]
  rfl

theorem display_within (activity : Activity) (e : Error) :
    (e.within activity).display = activity.message ++ ": ".toList ++ e.display := rfl

/-- What an error of a category has as its cause. -/
theorem Of.root (h : e.Of category) : e.root.category? = some category := by
  induction h with
  | cause h => exact h
  | within activity _ ih => rw [root_within, ih]

/-- An error with a cause of a category belongs to this category and to no other. -/
theorem Of.is_iff (h : e.Of category) {other : Category} :
    e.is other = true ↔ other = category := by
  induction h with
  | cause h => rw [is_ofFault, h, Option.some.injEq, eq_comm]
  | within activity _ ih => rw [is_within, ih]

/-- The words of an error end with those of its cause. -/
theorem Of.display (h : e.Of category) : (ofFault e.root).display <:+ e.display := by
  induction h with
  | cause _ => exact List.suffix_refl _
  | within activity _ ih =>
      rw [root_within, display_within]
      exact ih.trans (List.suffix_append _ _)

theorem Of.classified (h : e.Of category) : e.Classified where
  category := ⟨category, h.is_iff.2 rfl, fun _ hother => h.is_iff.1 hother⟩
  root other := by rw [h.is_iff, h.root, Option.some.injEq, eq_comm]
  display := h.display

/-! ## Errors of several categories -/

theorem among_ofFault {fault : Fault} (h : fault.category? = some category)
    (hmem : category ∈ categories) : (ofFault fault).Among categories :=
  ⟨category, hmem, .cause h⟩

theorem Among.within (h : e.Among categories) (activity : Activity) :
    (e.within activity).Among categories := by
  obtain ⟨category, hmem, he⟩ := h
  exact ⟨category, hmem, he.within activity⟩

theorem Among.mono (h : e.Among categories) (hsubset : categories ⊆ more) : e.Among more := by
  obtain ⟨category, hmem, he⟩ := h
  exact ⟨category, hsubset hmem, he⟩

theorem Among.classified (h : e.Among categories) : e.Classified := by
  obtain ⟨category, -, he⟩ := h
  exact he.classified

/-- An error belongs to none of the other categories. -/
theorem Among.not_is (h : e.Among categories) (hnot : category ∉ categories) :
    ¬e.is category = true := by
  obtain ⟨_, hmem, he⟩ := h
  intro his
  obtain rfl := he.is_iff.1 his
  exact hnot hmem

end Error

/-! ## Runs -/

namespace Run

variable {α β ι : Type} {categories : List Category}

/-- Whatever the run fails with is of one of the categories. -/
def FailsAmong (categories : List Category) (run : Run α) : Prop :=
  ∀ host world e w, run.execute host world = (.error e, w) → e.Among categories

/-- A run that never fails. -/
theorem failsAmong_of_ok {run : Run α}
    (h : ∀ host world, ∃ x w, run.execute host world = (.ok x, w)) :
    run.FailsAmong categories := by
  intro host world e w he
  obtain ⟨x, w', hok⟩ := h host world
  rw [hok] at he
  cases he

theorem failsAmong_pure (x : α) : (pure x : Run α).FailsAmong categories :=
  failsAmong_of_ok fun _ world => ⟨x, world, rfl⟩

theorem failsAmong_notify (notice : Notice) : (notify notice).FailsAmong categories :=
  failsAmong_of_ok fun _ _ => ⟨(), _, rfl⟩

theorem failsAmong_read : (read : Run Host).FailsAmong categories :=
  failsAmong_of_ok fun host world => ⟨host, world, rfl⟩

theorem failsAmong_get : (get : Run World).FailsAmong categories :=
  failsAmong_of_ok fun _ world => ⟨world, world, rfl⟩

theorem failsAmong_set (world : World) : (set world : Run Unit).FailsAmong categories :=
  failsAmong_of_ok fun _ _ => ⟨(), _, rfl⟩

theorem failsAmong_throw {e : Error} (h : e.Among categories) :
    (throw e : Run α).FailsAmong categories := by
  rintro host world _ w ⟨⟩
  exact h

theorem failsAmong_ofResult {result : Except Error α}
    (h : ∀ e, result = .error e → e.Among categories) :
    (ofResult result).FailsAmong categories := by
  intro host world e w he
  rw [execute_ofResult, Prod.mk.injEq] at he
  exact h e he.1

theorem FailsAmong.bind {run : Run α} {next : α → Run β} (h : run.FailsAmong categories)
    (hnext : ∀ x, (next x).FailsAmong categories) : (run >>= next).FailsAmong categories := by
  intro host world e w he
  rw [execute_bind] at he
  rcases hrun : run.execute host world with ⟨e' | x, w'⟩
  · rw [hrun] at he
    cases he
    exact h host world _ _ hrun
  · rw [hrun] at he
    exact hnext x host w' e w he

theorem FailsAmong.during {run : Run α} (h : run.FailsAmong categories) (activity : Activity) :
    (during activity run).FailsAmong categories := by
  intro host world e w he
  rw [execute_during] at he
  rcases hrun : run.execute host world with ⟨e' | x, w'⟩
  · rw [hrun] at he
    cases he
    exact (h host world _ _ hrun).within activity
  · rw [hrun] at he
    cases he

theorem failsAmong_foldlM {f : α → ι → Run α} (h : ∀ x i, (f x i).FailsAmong categories) (x : α)
    (is : List ι) : (is.foldlM f x).FailsAmong categories := by
  induction is generalizing x with
  | nil => exact failsAmong_pure x
  | cons i is ih =>
      rw [List.foldlM_cons]
      exact (h x i).bind ih

theorem failsAmong_forM {f : ι → Run Unit} (h : ∀ i, (f i).FailsAmong categories)
    (is : List ι) : (is.forM f).FailsAmong categories := by
  induction is with
  | nil => exact failsAmong_pure ()
  | cons i is ih => exact (h i).bind fun _ => ih

/-- A run that only reads fails as what it comes to. -/
theorem Reads.failsAmong {result : Host → FileTree → Except Error α} {run : Run α}
    (h : run.Reads result) (hresult : ∀ host files e, result host files = .error e →
      e.Among categories) : run.FailsAmong categories := by
  intro host world e w he
  obtain ⟨w', hrun, -⟩ := h host world
  rw [hrun, Prod.mk.injEq] at he
  exact hresult host world.files e he.1

end Run

/-! ## Files, terminals and servers -/

/-- A source file that cannot be read is at fault itself. -/
theorem Assets.exists_of_read_eq_error {tree : FileTree} {working : Place} {assets : Assets}
    {path : Text} {e : Error} (h : assets.read tree working path = .error e) :
    ∃ fault, e = .file (assets.path path) fault := by
  rw [read] at h
  split at h
  · cases h
  · rename_i fault _
    cases h
    exact ⟨fault, rfl⟩

namespace Run

theorem failsAmong_readAsset (hfile : .file ∈ categories) (assets : Assets) (path : Text) :
    (readAsset assets path).FailsAmong categories := by
  refine (reads_readAsset assets path).failsAmong fun host files e he => ?_
  obtain ⟨fault, rfl⟩ := Assets.exists_of_read_eq_error he
  exact Error.among_ofFault rfl hfile

theorem failsAmong_readOptionalAsset (hfile : .file ∈ categories) (assets : Assets)
    (path : Text) : (readOptionalAsset assets path).FailsAmong categories := by
  refine failsAmong_read.bind fun host => failsAmong_get.bind fun world => ?_
  refine failsAmong_ofResult fun e he => ?_
  rw [Assets.readOptional?] at he
  split at he
  · obtain ⟨fault, rfl⟩ := Assets.exists_of_read_eq_error (map_eq_error_iff.1 he)
    exact Error.among_ofFault rfl hfile
  · cases he

theorem failsAmong_makeParent (hfile : .file ∈ categories) (path : Text) :
    (makeParent path).FailsAmong categories := by
  refine failsAmong_read.bind fun host => ?_
  cases Path.parent? path with
  | none => exact failsAmong_pure ()
  | some parent =>
      refine failsAmong_get.bind fun world => ?_
      rcases world.files.makeDirectories host.working parent with ⟨files, fault | _⟩
      · refine (failsAmong_set _).bind fun _ => failsAmong_throw ?_
        exact Error.among_ofFault rfl hfile
      · exact (failsAmong_set _).bind fun _ => failsAmong_pure ()

theorem failsAmong_writeFile (hfile : .file ∈ categories) (path contents : Text) :
    (writeFile path contents).FailsAmong categories := by
  refine (failsAmong_makeParent hfile path).bind fun _ => failsAmong_read.bind fun host =>
    failsAmong_get.bind fun world => ?_
  cases world.files.writeText host.working path contents with
  | ok files => exact failsAmong_set _
  | error fault => exact failsAmong_throw (Error.among_ofFault rfl hfile)

/-- A run that only prints fails for the terminal. -/
theorem failsAmong_of_prints (hfile : .file ∈ categories) {run : Run α} {t : Host → Text}
    (h : ∀ host, run.Prints host (t host)) : run.FailsAmong categories := by
  intro host world e w he
  obtain ⟨_, w', hrun, -, hresult⟩ := h host world
  rw [hrun, Prod.mk.injEq] at he
  obtain ⟨rfl, -⟩ := he
  obtain ⟨_, fault, -, -, rfl⟩ := hresult
  exact Error.among_ofFault rfl hfile

theorem failsAmong_send (hserver : .server ∈ categories) (action : Action) :
    (send action).FailsAmong categories := by
  intro host world e w he
  rw [execute_send, Prod.mk.injEq] at he
  split at he
  · exact nomatch he.1
  · exact nomatch he.1
  · cases he.1
    exact Error.among_ofFault rfl hserver

end Run

/-! ## Outputs -/

/-- A template that cannot be filled in is a fault of the configuration. -/
theorem Template.among_of_render_eq_error {values : Text → Option Text} {t : Text} {e : Error}
    (h : render values t = .error e) : e.Among [.configuration] := by
  obtain ⟨_, segment, _, -, -, hsegment⟩ := mapM_eq_error_iff.1 (map_eq_error_iff.1 h)
  cases segment with
  | literal c => cases hsegment
  | placeholder name =>
      rw [Segment.render] at hsegment
      split at hsegment
      · cases hsegment
      · cases hsegment
        exact Error.among_ofFault rfl (by decide)
  | malformed line =>
      cases hsegment
      exact Error.among_ofFault rfl (by decide)

/-- A pair that cannot be applied is a fault of the configuration. -/
theorem ConnectionSettings.among_of_applyPair_eq_error {settings : ConnectionSettings} {pair : Text}
    {e : Error} (h : settings.applyPair pair = .error e) : e.Among [.configuration] := by
  unfold applyPair at h
  dsimp only at h
  split at h
  · cases h
  · split at h
    · cases h
    · split at h
      · split at h
        · cases h
        · cases h
          exact Error.among_ofFault rfl (by decide)
      · -- the values of all other keys are taken as they are
        repeat' split at h
        all_goals cases h

/-- Settings that cannot be read are a fault of the configuration. -/
theorem ConnectionSettings.among_of_parse_eq_error {t : Text} {e : Error}
    (h : parse t = .error e) : e.Among [.configuration] := by
  have hpairs : ∀ (pairs : List Text) (settings : ConnectionSettings),
      pairs.foldlM applyPair settings = .error e → e.Among [.configuration] := by
    intro pairs
    induction pairs with
    | nil => exact nofun
    | cons pair pairs ih =>
        intro settings he
        rw [List.foldlM_cons] at he
        rcases bind_eq_error_iff.1 he with he | ⟨_, -, he⟩
        · exact among_of_applyPair_eq_error he
        · exact ih _ he
  rw [parse] at h
  split at h
  · cases h
    exact Error.among_ofFault rfl (by decide)
  · split at h
    · exact hpairs _ _ h
    · split at h
      · cases h
      · cases h
        exact Error.among_ofFault rfl (by decide)

/-- A request that cannot be met is a fault of the configuration, or names no output. -/
theorem OutputRequest.Refused.among {request : OutputRequest} {e : Error}
    (h : request.Refused e) : e.Among [.configuration, .output] := by
  cases h with
  | unknownName _ => exact Error.among_ofFault rfl (by decide)
  | unknownMode _ _ _ => exact Error.among_ofFault rfl (by decide)
  | noConnection _ _ => exact Error.among_ofFault rfl (by decide)
  | badConnection _ _ hconn =>
      exact (ConnectionSettings.among_of_parse_eq_error hconn).mono (by decide)
  | noDatabase _ _ _ _ => exact Error.among_ofFault rfl (by decide)

namespace Output

open Run

/-- The categories that writing outputs may fail with. -/
def failures : List Category := [.configuration, .output, .file, .server]

theorem failsAmong_writeMapping (output : Output) (mapping : Mapping) :
    (output.writeMapping mapping).FailsAmong failures := by
  have hasset : ∀ assets path, (readAsset assets path).FailsAmong failures :=
    failsAmong_readAsset (by decide)
  have hrender : ∀ values t, (ofResult (Template.render values t)).FailsAmong failures :=
    fun values t => failsAmong_ofResult fun e he =>
      (Template.among_of_render_eq_error he).mono (by decide)
  cases output with
  | mappingCode options assets path code =>
      exact (hasset assets options.template).bind fun template =>
        (hasset assets options.license).bind fun license => failsAmong_read.bind fun host =>
          (hrender _ license).bind fun header => (hrender _ template).bind fun code =>
            failsAmong_pure _
  | console _ => exact failsAmong_pure _
  | sqlScript _ _ _ => exact failsAmong_pure _
  | createDatabase _ _ => exact failsAmong_pure _
  | markdownDocs _ _ _ _ => exact failsAmong_pure _

theorem failsAmong_write (output : Output) (object : Object) :
    (output.write object).FailsAmong failures := by
  cases output with
  | console options =>
      have hprints := fun host => prints_printReport host options object
      exact (failsAmong_of_prints (by decide) hprints).bind fun _ => failsAmong_pure _
  | sqlScript _ _ _ => exact failsAmong_pure _
  | createDatabase _ _ => exact failsAmong_pure _
  | markdownDocs _ _ _ _ => exact failsAmong_pure _
  | mappingCode _ _ _ _ => exact failsAmong_pure _

theorem failsAmong_commitScripts (options : ScriptOptions) (dir : Text) (scripts : ScriptBook) :
    (commitScripts options dir scripts).FailsAmong failures := by
  have hfile : ∀ path sql, (writeFile path sql).FailsAmong failures :=
    failsAmong_writeFile (by decide)
  rw [commitScripts]
  cases options.mode with
  | single =>
      exact (failsAmong_forM (fun _ => hfile _ _) scripts.entries).bind fun _ =>
        failsAmong_notify _
  | consolidated => exact (hfile _ _).bind fun _ => failsAmong_notify _

theorem failsAmong_ensureDatabase (name : Text) (dropIfExists : Bool) :
    (ensureDatabase name dropIfExists).FailsAmong failures := by
  have hsend : ∀ action, (send action).FailsAmong failures := failsAmong_send (by decide)
  have htell : ∀ notice action {α : Type} (next : Run α), next.FailsAmong failures →
      (notify notice >>= fun _ => send action >>= fun _ => next).FailsAmong failures :=
    fun notice action _ _ hnext => (failsAmong_notify notice).bind fun _ =>
      (hsend action).bind fun _ => hnext
  refine (hsend _).bind fun found => ?_
  cases found <;> cases dropIfExists
  · exact htell _ _ _ (failsAmong_pure true)
  · exact htell _ _ _ (failsAmong_pure true)
  · exact (failsAmong_notify _).bind fun _ => failsAmong_pure false
  · exact htell _ _ _ (htell _ _ _ (failsAmong_pure true))

theorem failsAmong_commitDatabase (options : DatabaseOptions) (scripts : ScriptBook) :
    (commitDatabase options scripts).FailsAmong failures := by
  have hsend : ∀ activity action, (Run.during activity (send action)).FailsAmong failures :=
    fun activity action => (failsAmong_send (by decide) action).during activity
  have hcreate : ∀ entry : Text × Text, (createObject entry.1 entry.2).FailsAmong failures :=
    fun entry => (failsAmong_notify _).bind fun _ => (hsend _ _).bind fun _ => failsAmong_pure ()
  have hobjects : ∀ notice, (scripts.entries.forM (fun entry => createObject entry.1 entry.2) >>=
      fun _ => notify notice).FailsAmong failures :=
    fun notice => (failsAmong_forM hcreate _).bind fun _ => failsAmong_notify notice
  refine (hsend _ _).bind fun _ => ?_
  refine ((failsAmong_ensureDatabase _ _).during _).bind fun created => ?_
  cases created with
  | true => exact (failsAmong_notify _).bind fun _ => (hsend _ _).bind fun _ => hobjects _
  | false => exact (hsend _ _).bind fun _ => hobjects _

theorem failsAmong_commitMarkdown (options : MarkdownOptions) (assets : Assets)
    (path document : Text) : (commitMarkdown options assets path document).FailsAmong failures := by
  have hfragment : ∀ path, (readFragment assets path).FailsAmong failures := by
    intro path
    refine (failsAmong_readOptionalAsset (by decide) assets path).bind fun found => ?_
    cases found with
    | some t => exact failsAmong_pure t
    | none => exact (failsAmong_notify _).bind fun _ => failsAmong_pure []
  exact (hfragment _).bind fun _ => (hfragment _).bind fun _ =>
    (failsAmong_writeFile (by decide) _ _).bind fun _ => failsAmong_notify _

theorem failsAmong_commit (output : Output) : output.commit.FailsAmong failures := by
  cases output with
  | console _ => exact failsAmong_of_prints (by decide) fun _ => prints_require .flush
  | sqlScript options dir scripts => exact failsAmong_commitScripts options dir scripts
  | createDatabase options scripts => exact failsAmong_commitDatabase options scripts
  | markdownDocs options assets path document =>
      exact failsAmong_commitMarkdown options assets path document
  | mappingCode _ _ path code =>
      cases code with
      | none => exact failsAmong_notify _
      | some code =>
          exact (failsAmong_writeFile (by decide) path code).bind fun _ => failsAmong_notify _

theorem failsAmong_writeDatabase (output : Output) (db : Database) :
    (output.writeDatabase db).FailsAmong failures :=
  (output.failsAmong_writeMapping db.mapping).bind fun output =>
    (failsAmong_foldlM failsAmong_write output db.objects).bind failsAmong_commit

end Output

/-- Outputs fail with faults of the configuration, unknown outputs, files and servers only. -/
theorem Compile.failsAmong_writeOutputs (config : Config) (db : Database) :
    (writeOutputs config db).FailsAmong Output.failures := by
  by_cases hnil : db.outputs = []
  · rw [writeOutputs, if_pos hnil]
    rintro host world _ w ⟨⟩
    exact Error.among_ofFault rfl (by decide)
  · rw [writeOutputs_of_ne_nil hnil]
    have hresolve : (resolveOutputs config db).FailsAmong Output.failures := by
      refine (reads_resolveOutputs config db).failsAmong fun _ _ e he => ?_
      obtain ⟨_, request, _, -, -, hmade⟩ := mapM_eq_error_iff.1 he
      exact (Output.made_eq_error_iff.1 hmade).among.mono (by decide)
    refine hresolve.bind fun outputs => Run.failsAmong_forM (fun pair => ?_) _
    exact ((Output.failsAmong_writeDatabase pair.2 db).during _).bind fun _ =>
      Run.failsAmong_notify _

end SchemaCompiler
