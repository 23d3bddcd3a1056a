import SchemaCompiler.Object.Definition
import SchemaCompiler.Proofs.Results

namespace SchemaCompiler

/-! # Function definitions in one pass

A function definition is read in two passes: `Source.blockLines` prepares the lines with a flag of
its own, and `FunctionEntry.readLines` goes over the prepared lines with another. `OnePass.parse`
goes over the raw lines once with a single flag, collecting the function as it goes. Main statements:

* `OnePass.foldlM_step`: from every state the single pass and the two passes stay in lock step;
* `OnePass.step_body`, `OnePass.run_body`: what one line, and then a whole run, does to the body;
* `Object.parse_function_eq_onePass`: both ways give the same function or the same error, and the
  body is made of the lines inside the blocks, as they stand.
-/

/-! ## The single pass -/

namespace OnePass

/-- What has been collected so far, and whether a body block is open. -/
structure State where
  inBody : Bool
  name : Option Text
  properties : Properties
  params : List Parameter
  returns : Option Return
  /-- The lines appended to the body. -/
  body : List Text

namespace State

/-- Nothing is collected yet. -/
def initial : State := ⟨false, none, OrderedMap.empty, [], none, []⟩

/-- Takes up what a line says. -/
def add (s : State) : FunctionEntry → State
  | .name n => { s with name := some n }
  | .properties args => { s with properties := s.properties.extend args }
  | .parameter p => { s with params := s.params ++ [p] }
  | .returns r => { s with returns := some r }
  | .body line => { s with body := s.body ++ [line] }
  | .ignored => s

/-- The function collected at the end of the text. -/
def finish (s : State) : Except Error Function :=
  if s.inBody then .error (.definition .openBody)
  else match s.name with
    | none => .error (.definition (.nameless .function))
    | some name => .ok {
        name
        properties := s.properties
        params := s.params
        returns := s.returns.getD Return.default
        body := Text.join ['\n'] s.body }

end State

/-- A line that says nothing outside a block: it is blank, or its text starts with `#`. -/
def isSkipped (line : Text) : Bool := line.trim = [] || line.trim.head? = some '#'

/-- Takes up a raw line behind the first one. -/
def step (mapping : Mapping) (s : State) (line : Text) : Except Error State :=
  if s.inBody then
    if line.trim = bodyClosing then .ok { s with inBody := false }
    else .ok { s with body := s.body ++ [line] }
  else if line.trim = bodyOpening then .ok { s with inBody := true }
  else if isSkipped line then .ok s
  else (during (.readingLine line.trim) (FunctionEntry.parse mapping line.trim)).map s.add

/-- Reads raw lines: the first one that is not skipped must name the kind, whatever else it may be,
and all others are taken up one by one. -/
def parse (mapping : Mapping) (lines : List Text) : Except Error Function :=
  match lines.dropWhile isSkipped with
  | [] => .error (.definition (.wrongFirstLine .function none))
  | line :: rest =>
    if line.trim = ObjectKind.function.discriminator then
      rest.foldlM (step mapping) State.initial >>= State.finish
    else .error (.definition (.wrongFirstLine .function (some line.trim)))

end OnePass

/-- The lines between the marker lines of blocks, as they stand. -/
def Source.insideBlocks (block : VerbatimBlock) : Bool → List Text → List Text
  | _, [] => []
  | true, line :: rest =>
    if line.trim = block.closing then insideBlocks block false rest
    else line :: insideBlocks block true rest
  | false, line :: rest => insideBlocks block (decide (line.trim = block.opening)) rest

namespace OnePass

/-! ## One line -/

section

variable {mapping : Mapping} {s : State} {line : Text}

theorem step_closing (hbody : s.inBody = true) (h : line.trim = bodyClosing) :
    step mapping s line = .ok { s with inBody := false } := by
  rw [step, if_pos hbody, if_pos h]

theorem step_inside (hbody : s.inBody = true) (h : line.trim ≠ bodyClosing) :
    step mapping s line = .ok { s with body := s.body ++ [line] } := by
  rw [step, if_pos hbody, if_neg h]

theorem step_opening (hbody : s.inBody = false) (h : line.trim = bodyOpening) :
    step mapping s line = .ok { s with inBody := true } := by
  rw [step, if_neg (by simp [hbody]), if_pos h]

/-- A line that opens a block says something. -/
theorem ne_bodyOpening_of_isSkipped (h : isSkipped line = true) : line.trim ≠ bodyOpening := by
  intro hopening
  rw [isSkipped, hopening] at h
  exact absurd h (by decide)

theorem step_skipped (hbody : s.inBody = false) (h : isSkipped line = true) :
    step mapping s line = .ok s := by
  rw [step, if_neg (by simp [hbody]), if_neg (ne_bodyOpening_of_isSkipped h), if_pos h]

theorem step_line (hbody : s.inBody = false) (hopening : line.trim ≠ bodyOpening)
    (hskipped : isSkipped line = false) :
    step mapping s line =
      (during (.readingLine line.trim) (FunctionEntry.parse mapping line.trim)).map s.add := by
  rw [step, if_neg (by simp [hbody]), if_neg hopening, if_neg (by simp [hskipped])]

end

end OnePass

namespace Source

open OnePass (isSkipped)

variable {line : Text} (rest : List Text)

theorem isEffective_trim (line : Text) : isEffective line.trim = !isSkipped line := by
  simp [isEffective, isSkipped]

theorem blockLines_closing (h : line.trim = bodyClosing) :
    blockLines bodyBlock true (line :: rest) = bodyClosing :: blockLines bodyBlock false rest := by
  rw [blockLines, h]
  rfl

theorem blockLines_opening (h : line.trim = bodyOpening) :
    blockLines bodyBlock false (line :: rest) = bodyOpening :: blockLines bodyBlock true rest := by
  rw [blockLines, h]
  rfl

theorem blockLines_skipped (h : isSkipped line = true) :
    blockLines bodyBlock false (line :: rest) = blockLines bodyBlock false rest := by
  have heffective : isEffective line.trim = false := by rw [isEffective_trim, h, Bool.not_true]
  have hopening : decide (line.trim = bodyBlock.opening) = false :=
    decide_eq_false (OnePass.ne_bodyOpening_of_isSkipped h)
  simp only [blockLines, heffective, hopening]
  rfl

theorem blockLines_line (hopening : line.trim ≠ bodyOpening) (hskipped : isSkipped line = false) :
    blockLines bodyBlock false (line :: rest) = line.trim :: blockLines bodyBlock false rest := by
  have heffective : isEffective line.trim = true := by rw [isEffective_trim, hskipped, Bool.not_false]
  have hopening : decide (line.trim = bodyBlock.opening) = false := decide_eq_false hopening
  simp only [blockLines, heffective, hopening]
  rfl

theorem insideBlocks_closing (h : line.trim = bodyClosing) :
    insideBlocks bodyBlock true (line :: rest) = insideBlocks bodyBlock false rest := if_pos h

theorem insideBlocks_inside (h : line.trim ≠ bodyClosing) :
    insideBlocks bodyBlock true (line :: rest) = line :: insideBlocks bodyBlock true rest :=
  if_neg h

theorem insideBlocks_opening (h : line.trim = bodyOpening) :
    insideBlocks bodyBlock false (line :: rest) = insideBlocks bodyBlock true rest :=
  congrArg (insideBlocks bodyBlock · rest) (decide_eq_true h)

theorem insideBlocks_outside (h : line.trim ≠ bodyOpening) :
    insideBlocks bodyBlock false (line :: rest) = insideBlocks bodyBlock false rest :=
  congrArg (insideBlocks bodyBlock · rest) (decide_eq_false h)

end Source

namespace OnePass

/-! ## Lock step -/

/-- The state behind lines that say `entries`. -/
def collected (inBody : Bool) (entries : List FunctionEntry) : State where
  inBody
  name := (entries.filterMap FunctionEntry.name?).getLast?
  properties := Definition.mergeProperties (entries.filterMap FunctionEntry.properties?)
  params := entries.filterMap FunctionEntry.parameter?
  returns := (entries.filterMap FunctionEntry.returns?).getLast?
  body := entries.filterMap FunctionEntry.body?

theorem collected_add (inBody : Bool) (entries : List FunctionEntry) (e : FunctionEntry) :
    (collected inBody entries).add e = collected inBody (entries ++ [e]) := by
  cases e <;>
    simp [collected, State.add, FunctionEntry.name?, FunctionEntry.properties?,
      FunctionEntry.parameter?, FunctionEntry.returns?, FunctionEntry.body?,
      Definition.mergeProperties, filterMap_cons_toList]

/-- Collecting line by line gives what putting the entries together at the end gives. -/
theorem finish_collected (entries : List FunctionEntry) :
    (collected false entries).finish = Function.ofEntries entries := by
  unfold State.finish Function.ofEntries Definition.lastName
  simp only [collected]
  cases (entries.filterMap FunctionEntry.name?).getLast? <;> rfl

/-- The single pass and the two passes stay in lock step. -/
theorem foldlM_step (mapping : Mapping) (inBody : Bool) (entries : List FunctionEntry)
    (lines : List Text) :
    lines.foldlM (step mapping) (collected inBody entries) >>= State.finish =
      FunctionEntry.readLines mapping inBody (Source.blockLines bodyBlock inBody lines) >>=
        fun rest => Function.ofEntries (entries ++ rest) := by
  induction lines generalizing inBody entries with
  | nil =>
      cases inBody with
      | true => rfl
      | false =>
          have hempty : FunctionEntry.readLines mapping false [] = .ok [] := rfl
          rw [List.foldlM_nil, Source.blockLines, hempty, ok_bind, List.append_nil]
          exact finish_collected entries
  | cons line rest ih =>
      rw [List.foldlM_cons]
      cases inBody with
      | true =>
          by_cases hclosing : line.trim = bodyClosing
          · -- both passes leave the block
            have hread : ∀ ls, FunctionEntry.readLines mapping true (bodyClosing :: ls) =
                FunctionEntry.readLines mapping false ls := fun _ => rfl
            rw [step_closing rfl hclosing, Source.blockLines_closing rest hclosing, hread]
            exact ih false entries
          · -- the line belongs to the body
            have hblock : Source.blockLines bodyBlock true (line :: rest) =
                line :: Source.blockLines bodyBlock true rest := if_neg hclosing
            have hadd : { collected true entries with
                body := (collected true entries).body ++ [line] } =
                collected true (entries ++ [.body line]) := collected_add true entries (.body line)
            rw [step_inside rfl hclosing, hadd, ok_bind, ih, hblock, FunctionEntry.readLines,
              if_neg hclosing, map_bind]
            simp only [List.append_assoc, List.singleton_append]
      | false =>
          by_cases hopening : line.trim = bodyOpening
          · -- both passes enter the block
            have hread : ∀ ls, FunctionEntry.readLines mapping false (bodyOpening :: ls) =
                FunctionEntry.readLines mapping true ls := fun _ => rfl
            rw [step_opening rfl hopening, Source.blockLines_opening rest hopening, hread]
            exact ih true entries
          · cases hskipped : isSkipped line with
            | true =>
                -- the first pass drops the line
                rw [step_skipped rfl hskipped, Source.blockLines_skipped rest hskipped]
                exact ih false entries
            | false =>
                -- the second pass reads the line
                rw [step_line rfl hopening hskipped, Source.blockLines_line rest hopening hskipped,
                  FunctionEntry.readLines, if_neg hopening, map_bind]
                cases during (.readingLine line.trim) (FunctionEntry.parse mapping line.trim) with
                | error e => rfl
                | ok e =>
                    rw [ok_bind, ok_bind, collected_add, ih, map_bind]
                    simp only [List.append_assoc, List.singleton_append]

/-- The first pass drops what the single pass skips ahead of the first line. -/
theorem blockLines_dropWhile (lines : List Text) :
    Source.blockLines bodyBlock false (lines.dropWhile isSkipped) =
      Source.blockLines bodyBlock false lines := by
  induction lines with
  | nil => rfl
  | cons line rest ih =>
      cases hskipped : isSkipped line with
      | true => rw [List.dropWhile_cons_of_pos hskipped, Source.blockLines_skipped rest hskipped, ih]
      | false => rw [List.dropWhile_cons_of_neg (by simp [hskipped])]

/-- A line that is not skipped reaches the second pass, whether it opens a block or not. -/
theorem blockLines_cons {line : Text} (h : isSkipped line = false) (rest : List Text) :
    ∃ tail, Source.blockLines bodyBlock false (line :: rest) = line.trim :: tail := by
  by_cases hopening : line.trim = bodyOpening
  · exact ⟨_, hopening ▸ Source.blockLines_opening rest hopening⟩
  · exact ⟨_, Source.blockLines_line rest hopening h⟩

/-- One pass over the raw lines gives what two passes give. -/
theorem parse_eq_ofLines (mapping : Mapping) (lines : List Text) :
    parse mapping lines =
      Function.ofLines mapping (Source.blockLines bodyBlock false lines) := by
  rw [parse, ← blockLines_dropWhile lines, Function.ofLines]
  have hhead := List.head?_dropWhile_not isSkipped lines
  rcases hlines : lines.dropWhile isSkipped with _ | ⟨line, rest⟩
  · rfl
  · rw [hlines] at hhead
    have hskipped : isSkipped line = false := hhead
    dsimp only
    by_cases hfirst : line.trim = ObjectKind.function.discriminator
    · have hopening : line.trim ≠ bodyOpening := by
        rw [hfirst]
        decide
      have hafter : ∀ ls, Definition.afterFirstLine .function (line.trim :: ls) = .ok ls :=
        fun _ => if_pos hfirst
      rw [if_pos hfirst, Source.blockLines_line rest hopening hskipped, hafter, ok_bind]
      exact foldlM_step mapping false [] rest
    · obtain ⟨tail, htail⟩ := blockLines_cons hskipped rest
      have hafter : Definition.afterFirstLine .function (line.trim :: tail) =
          .error (.definition (.wrongFirstLine .function (some line.trim))) := if_neg hfirst
      rw [if_neg hfirst, htail, hafter]
      rfl

/-! ## The body -/

/-- No line is read as a body line outside a block. -/
theorem body_add_of_parse {mapping : Mapping} {line : Text} {e : FunctionEntry}
    (h : FunctionEntry.parse mapping line = .ok e) (s : State) : (s.add e).body = s.body := by
  unfold FunctionEntry.parse at h
  split at h
  · obtain ⟨n, -, rfl⟩ := exists_of_map_eq_ok h
    rfl
  · cases h
    rfl
  · obtain ⟨p, -, rfl⟩ := exists_of_map_eq_ok h
    rfl
  · obtain ⟨r, -, rfl⟩ := exists_of_map_eq_ok h
    rfl
  · cases h
    rfl

/-- What is in the body and what is still to come to it do not change together. -/
theorem step_body {mapping : Mapping} {s s' : State} {line : Text}
    (h : step mapping s line = .ok s') (rest : List Text) :
    s'.body ++ Source.insideBlocks bodyBlock s'.inBody rest =
      s.body ++ Source.insideBlocks bodyBlock s.inBody (line :: rest) := by
  cases hbody : s.inBody with
  | true =>
      by_cases hclosing : line.trim = bodyClosing
      · rw [step_closing hbody hclosing] at h
        cases h
        rw [Source.insideBlocks_closing rest hclosing]
      · -- the line goes from what is to come to what is there
        rw [step_inside hbody hclosing] at h
        cases h
        rw [Source.insideBlocks_inside rest hclosing, hbody, List.append_assoc,
          List.singleton_append]
  | false =>
      by_cases hopening : line.trim = bodyOpening
      · rw [step_opening hbody hopening] at h
        cases h
        rw [Source.insideBlocks_opening rest hopening]
      · rw [Source.insideBlocks_outside rest hopening]
        cases hskipped : isSkipped line with
        | true =>
            rw [step_skipped hbody hskipped] at h
            cases h
            rw [hbody]
        | false =>
            rw [step_line hbody hopening hskipped] at h
            obtain ⟨e, hread, rfl⟩ := exists_of_map_eq_ok h
            have hparse := eq_ok_of_during_eq_ok hread
            -- whatever the line says, it neither opens a block nor adds to the body
            have hflag : (s.add e).inBody = s.inBody := by cases e <;> rfl
            rw [body_add_of_parse hparse, hflag, hbody]

/-- A run appends to the body the lines inside the blocks. -/
theorem run_body {mapping : Mapping} {s s' : State} {lines : List Text}
    (h : lines.foldlM (step mapping) s = .ok s') :
    s'.body = s.body ++ Source.insideBlocks bodyBlock s.inBody lines := by
  induction lines generalizing s with
  | nil =>
      cases h
      simp [Source.insideBlocks]
  | cons line rest ih =>
      rw [List.foldlM_cons] at h
      obtain ⟨t, hstep, hrest⟩ := exists_of_bind_eq_ok h
      rw [ih hrest, step_body hstep]

/-- The lines skipped ahead of the first one open no block. -/
theorem insideBlocks_dropWhile (lines : List Text) :
    Source.insideBlocks bodyBlock false (lines.dropWhile isSkipped) =
      Source.insideBlocks bodyBlock false lines := by
  induction lines with
  | nil => rfl
  | cons line rest ih =>
      cases hskipped : isSkipped line with
      | true =>
          rw [List.dropWhile_cons_of_pos hskipped,
            Source.insideBlocks_outside rest (ne_bodyOpening_of_isSkipped hskipped), ih]
      | false => rw [List.dropWhile_cons_of_neg (by simp [hskipped])]

/-- The body of a finished function is what has been appended. -/
theorem body_of_finish {s : State} {f : Function} (h : s.finish = .ok f) :
    f.body = Text.join ['\n'] s.body := by
  unfold State.finish at h
  split at h
  · cases h
  · split at h
    · cases h
    · cases h
      rfl

/-- The body of a function is made of the lines inside the blocks. -/
theorem body_of_parse {mapping : Mapping} {lines : List Text} {f : Function}
    (h : parse mapping lines = .ok f) :
    f.body = Text.join ['\n'] (Source.insideBlocks bodyBlock false lines) := by
  rw [parse] at h
  rw [← insideBlocks_dropWhile lines]
  rcases hlines : lines.dropWhile isSkipped with _ | ⟨line, rest⟩
  · rw [hlines] at h
    cases h
  · rw [hlines] at h
    dsimp only at h
    by_cases hfirst : line.trim = ObjectKind.function.discriminator
    · -- the first line opens no block, so the run starts outside of one
      have hopening : line.trim ≠ bodyOpening := by
        rw [hfirst]
        decide
      rw [if_pos hfirst] at h
      obtain ⟨s, hrun, hfinish⟩ := exists_of_bind_eq_ok h
      have hbody : s.body = Source.insideBlocks bodyBlock false rest := run_body hrun
      rw [Source.insideBlocks_outside rest hopening, body_of_finish hfinish, hbody]
    · rw [if_neg hfirst] at h
      cases h

end OnePass

/-- One pass over the raw lines of a function definition gives the same function, or the same error,
as preparing the lines first. The body is made of the lines inside the blocks, all of them and no
others, as they stand. -/
theorem Object.parse_function_eq_onePass (mapping : Mapping) (contents : Text) :
    parse mapping .function contents =
        (OnePass.parse mapping contents.dropMark.lines).map .function ∧
      ∀ f, parse mapping .function contents = .ok (.function f) →
        f.body =
          Text.join ['\n'] (Source.insideBlocks bodyBlock false contents.dropMark.lines) := by
  have hparse : parse mapping .function contents =
      (OnePass.parse mapping contents.dropMark.lines).map .function := by
    rw [OnePass.parse_eq_ofLines]
    rfl
  refine ⟨hparse, ?_⟩
  intro f hf
  rw [hparse] at hf
  obtain ⟨g, honce, hg⟩ := exists_of_map_eq_ok hf
  cases hg
  exact OnePass.body_of_parse honce

theorem Object.parse_function_eq_onePass_comment :
    parse Mapping.default .function "FUNC\nNAME:f\nBODY:\n  # kept \nBODY;" =
        .ok (.function ⟨"f", OrderedMap.empty, [], Return.default, "  # kept "⟩) ∧
      Text.join ['\n'] (Source.insideBlocks bodyBlock false
        (Text.lines (Text.dropMark "FUNC\nNAME:f\nBODY:\n  # kept \nBODY;"))) = "  # kept " := by
  have hparse : parse Mapping.default .function "FUNC\nNAME:f\nBODY:\n  # kept \nBODY;" =
      .ok (.function ⟨"f", OrderedMap.empty, [], Return.default, "  # kept "⟩) := rfl
  exact ⟨hparse, ((parse_function_eq_onePass _ _).2 _ hparse).symm⟩

end SchemaCompiler
