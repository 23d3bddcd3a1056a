import SchemaCompiler.Makefile
import SchemaCompiler.Mapping.Source
import SchemaCompiler.Proofs.RoundTrip.Line
import SchemaCompiler.Proofs.Substitution

namespace SchemaCompiler

/-! # Makefiles and mapping files are read back

A makefile and a mapping are written line by line. Of the lines that say where the mapping is, which
definitions to read or what a token stands for, the last one decides, so there may be others ahead
of it; every output line counts. What else a file holds makes no difference. Both files are read by
a fold over their lines, and each part of the result is a view that only some lines have a say in.
Main statements:

* `view_foldl_last`: the last entry with a say in a view decides it;
* `Makefile.parse_of_writtenIn`, `Mapping.parse_of_writtenIn`: a file that writes a makefile or a
  mapping, in whatever company, is read as exactly that one;
* `Makefile.parse_text`, `Mapping.parse_text`: so every well-formed one has a file;
* `Makefile.exists_parse_of_request?`: a line that makes a request has it among the outputs.
-/

/-! ## Views of a fold -/

section

variable {σ α β : Type} {step : σ → α → σ}

/-- Entries without a say in a view leave it as it is. -/
theorem view_foldl (view : σ → β) {entries : List α}
    (h : ∀ s, ∀ a ∈ entries, view (step s a) = view s) (s : σ) :
    view (entries.foldl step s) = view s := by
  induction entries generalizing s with
  | nil => rfl
  | cons a rest ih =>
      have hrest := ih fun s b hb => h s b (List.mem_cons_of_mem a hb)
      rw [List.foldl_cons, hrest, h s a List.mem_cons_self]

/-- Where a view depends on no entry but those with a property, the last of these decides it. -/
theorem view_foldl_last (view : σ → β) {p : α → Bool}
    (h : ∀ s b, p b = false → view (step s b) = view s) {entries : List α} {a : α}
    (hlast : (entries.filter p).getLast? = some a) (s : σ) :
    ∃ before : List α, view (entries.foldl step s) = view (step (before.foldl step s) a) := by
  obtain ⟨ahead, hfilter⟩ := List.getLast?_eq_some_iff.1 hlast
  obtain ⟨front, back, rfl, -, hback⟩ := List.filter_eq_append_iff.1 hfilter
  obtain ⟨middle, after, rfl, hmiddle, -, hafter⟩ := List.filter_eq_cons_iff.1 hback
  have hno : ∀ b ∈ after, p b = false := by simpa using List.filter_eq_nil_iff.1 hafter
  refine ⟨front ++ middle, ?_⟩
  rw [← List.append_assoc, List.foldl_append, List.foldl_cons,
    view_foldl view fun s b hb => h s b (hno b hb)]

/-- Lines that say nothing may be left out ahead of a fold that they have no say in. -/
theorem Source.foldl_effective {step : σ → Text → σ}
    (h : ∀ s line, Source.isEffective line = false → step s line = s) (lines : List Text) (s : σ) :
    (lines.filter Source.isEffective).foldl step s = lines.foldl step s := by
  induction lines generalizing s with
  | nil => rfl
  | cons line rest ih =>
      cases heffective : Source.isEffective line with
      | true => rw [List.filter_cons_of_pos heffective, List.foldl_cons, List.foldl_cons, ih]
      | false =>
          have hskip : ¬Source.isEffective line = true := by simp [heffective]
          rw [List.filter_cons_of_neg hskip, List.foldl_cons, h s line heffective, ih]

end

theorem Text.after?_eq_some_iff {start t rest : Text} :
    Text.after? start t = some rest ↔ start ++ rest = t := by
  induction start generalizing t with
  | nil => simp [after?, eq_comm]
  | cons p ps ih =>
      cases t with
      | nil => simp [after?]
      | cons c cs =>
          by_cases hpc : p = c
          · simp [after?, hpc, ih]
          · simp [after?, hpc]

theorem Text.after?_append (start rest : Text) : Text.after? start (start ++ rest) = some rest :=
  Text.after?_eq_some_iff.2 rfl

/-- Line by line, trimmed, as both files are read. -/
def Source.trimmedLines (contents : Text) : List Text := contents.dropMark.lines.map Text.trim

/-! ## Makefiles as they are written -/

namespace OutputRequest

/-- The request can be written on a line. -/
@[mk_iff]
structure WellFormed (request : OutputRequest) : Prop where
  name : Text.Inline request.name
  name_ne_nil : request.name ≠ []
  open_not_mem_name : '(' ∉ request.name
  args : NamedArgs.WellFormed ';' request.args.entries

/-- The line of a request, `OUTPUT=name(key=value;…)`. -/
def line (request : OutputRequest) : Text :=
  "OUTPUT=".toList ++
    (request.name ++ '(' :: (NamedArgs.list ';' request.args.entries ++ [')']))

instance (request : OutputRequest) : Decidable request.WellFormed :=
  decidable_of_iff' _ (wellFormed_iff request)

end OutputRequest

namespace Makefile

/-- The makefile can be written. -/
@[mk_iff]
structure WellFormed (makefile : Makefile) : Prop where
  mappingFile : Text.Inline makefile.mappingFile ∧ makefile.mappingFile ≠ []
  definitions : Text.Inline makefile.definitions ∧ makefile.definitions ≠ []
  outputs : ∀ request ∈ makefile.outputs, request.WellFormed

instance (makefile : Makefile) : Decidable makefile.WellFormed :=
  decidable_of_iff' _ (wellFormed_iff makefile)

/-- The lines that begin with a keyword. -/
def linesOf (keyword : Text) (lines : List Text) : List Text :=
  lines.filter fun line => keyword.isPrefixOf line

/-- The lines write the makefile: the last of the mapping lines and the last of the definition lines
are its own, and so are all the output lines. There may be any other lines. -/
@[mk_iff]
structure WrittenIn (makefile : Makefile) (lines : List Text) : Prop where
  mappingFile : (linesOf "MAP=" lines).getLast? = some ("MAP=".toList ++ makefile.mappingFile)
  definitions : (linesOf "DEFINITIONS=" lines).getLast? =
    some ("DEFINITIONS=".toList ++ makefile.definitions)
  outputs : linesOf "OUTPUT=" lines = makefile.outputs.map OutputRequest.line

instance (makefile : Makefile) (lines : List Text) : Decidable (makefile.WrittenIn lines) :=
  decidable_of_iff' _ (writtenIn_iff makefile lines)

/-- Takes a line in. -/
def readLine (makefile : Makefile) (line : Text) : Makefile := makefile.apply (.parse line)

theorem parse_mappingFile (rest : Text) :
    Entry.parse ("MAP=".toList ++ rest) = .mappingFile rest.trim := rfl

theorem parse_definitions (rest : Text) :
    Entry.parse ("DEFINITIONS=".toList ++ rest) = .definitions rest.trim := rfl

/-- An output line is read as the request that it writes. -/
theorem parse_output {request : OutputRequest} (h : request.WellFormed) :
    Entry.parse request.line = .output request := by
  have hspec := Spec.parse_call h.name.trimmed h.open_not_mem_name
    (NamedArgs.list ';' request.args.entries)
  have hargs : NamedArgs.parse ';' (NamedArgs.list ';' request.args.entries) = request.args :=
    Definition.readProperties_list h.args
  have hrequest : OutputRequest.parse
      (request.name ++ '(' :: (NamedArgs.list ';' request.args.entries ++ [')'])) = request := by
    simp only [OutputRequest.parse, NamedSpec.parse, hspec, hargs]
  exact congrArg Entry.output hrequest

/-! ## What a line has a say in -/

/-- What the line of an entry begins with. -/
def Entry.keyword? : Entry → Option Text
  | mappingFile _ => some "MAP="
  | definitions _ => some "DEFINITIONS="
  | output _ => some "OUTPUT="
  | unknown => none

/-- A line without a keyword is no entry of that keyword. -/
theorem Entry.keyword?_ne {line keyword : Text} (h : keyword.isPrefixOf line = false) :
    (Entry.parse line).keyword? ≠ some keyword := by
  have hprefix : ∀ start rest : Text, Text.after? start line = some rest → start ≠ keyword := by
    rintro start rest hrest rfl
    have hstart : start <+: line := ⟨rest, Text.after?_eq_some_iff.1 hrest⟩
    rw [List.isPrefixOf_iff_prefix.2 hstart] at h
    cases h
  intro hkeyword
  rw [Entry.parse] at hkeyword
  split at hkeyword
  · exact hprefix _ _ ‹_› (Option.some.inj hkeyword)
  · exact hprefix _ _ ‹_› (Option.some.inj hkeyword)
  · exact hprefix _ _ ‹_› (Option.some.inj hkeyword)
  · cases hkeyword

/-- An entry has a say in one part of the makefile at most, the one of its keyword. -/
theorem apply_of_keyword?_ne (makefile : Makefile) (entry : Entry) :
    (entry.keyword? ≠ some "MAP=".toList →
      (makefile.apply entry).mappingFile = makefile.mappingFile) ∧
    (entry.keyword? ≠ some "DEFINITIONS=".toList →
      (makefile.apply entry).definitions = makefile.definitions) ∧
    (entry.keyword? ≠ some "OUTPUT=".toList →
      (makefile.apply entry).outputs = makefile.outputs) := by
  cases entry with
  | mappingFile value => exact ⟨fun h => absurd rfl h, fun _ => rfl, fun _ => rfl⟩
  | definitions value => exact ⟨fun _ => rfl, fun h => absurd rfl h, fun _ => rfl⟩
  | output request =>
      rw [apply]
      split
      · exact ⟨fun _ => rfl, fun _ => rfl, fun _ => rfl⟩
      · exact ⟨fun _ => rfl, fun _ => rfl, fun h => absurd rfl h⟩
  | unknown => exact ⟨fun _ => rfl, fun _ => rfl, fun _ => rfl⟩

theorem readLine_ineffective (makefile : Makefile) {line : Text}
    (h : Source.isEffective line = false) : makefile.readLine line = makefile := by
  rw [readLine]
  cases line with
  | nil => rfl
  | cons c cs =>
      obtain rfl : c = '#' := by simpa [Source.isEffective] using h
      rfl

/-- All output lines count, in their order. -/
theorem outputs_foldl {lines : List Text} {requests : List OutputRequest}
    (hwf : ∀ request ∈ requests, request.WellFormed)
    (h : linesOf "OUTPUT=" lines = requests.map OutputRequest.line) (makefile : Makefile) :
    (lines.foldl readLine makefile).outputs = makefile.outputs ++ requests := by
  induction lines generalizing makefile requests with
  | nil =>
      obtain rfl := List.map_eq_nil_iff.1 h.symm
      exact (List.append_nil _).symm
  | cons line rest ih =>
      cases hline : "OUTPUT=".toList.isPrefixOf line with
      | true =>
          rw [linesOf, List.filter_cons_of_pos hline] at h
          obtain ⟨request, others, rfl, rfl, hrest⟩ := List.map_eq_cons_iff.1 h.symm
          have hrequest := hwf request List.mem_cons_self
          have hothers := ih (fun r hr => hwf r (List.mem_cons_of_mem _ hr)) hrest.symm
          have htaken : (makefile.readLine request.line).outputs =
              makefile.outputs ++ [request] := by
            rw [readLine, parse_output hrequest, apply, if_neg hrequest.name_ne_nil]
          rw [List.foldl_cons, hothers, htaken, List.append_assoc, List.singleton_append]
      | false =>
          rw [linesOf, List.filter_cons_of_neg (ne_true_of_eq_false hline)] at h
          have hkept : (makefile.readLine line).outputs = makefile.outputs :=
            (makefile.apply_of_keyword?_ne _).2.2 (Entry.keyword?_ne hline)
          rw [List.foldl_cons, ih hwf h, hkept]

/-- A file with a line that says something is read line by line. -/
theorem parse_eq_foldl {contents line : Text} (hmem : line ∈ Source.trimmedLines contents)
    (heffective : Source.isEffective line = true) :
    parse contents = .ok ((Source.trimmedLines contents).foldl readLine default) := by
  have hfold := Source.foldl_effective (fun m _ h => m.readLine_ineffective h)
    (Source.trimmedLines contents) default
  have hlines : Source.lines none contents =
      (Source.trimmedLines contents).filter Source.isEffective := rfl
  have hne : line ∈ Source.lines none contents := by
    rw [hlines]
    exact List.mem_filter.2 ⟨hmem, heffective⟩
  obtain ⟨first, rest, hcons⟩ := List.exists_cons_of_ne_nil (List.ne_nil_of_mem hne)
  rw [parse, hcons]
  show Except.ok (((first :: rest).map Entry.parse).foldl apply default) = _
  rw [List.foldl_map, ← hcons, hlines]
  exact congrArg Except.ok hfold

/-- The request that a line makes. An output without a name is none. -/
def request? (line : Text) : Option OutputRequest :=
  match Entry.parse line with
  | .output request => if request.name = [] then none else some request
  | _ => none

/-- A well-formed request is made by its line. -/
theorem request?_line {request : OutputRequest} (h : request.WellFormed) :
    request? request.line = some request := by
  rw [request?, parse_output h]
  exact if_neg h.name_ne_nil

/-- A line adds the request that it makes. -/
theorem outputs_readLine (makefile : Makefile) (line : Text) :
    (makefile.readLine line).outputs = makefile.outputs ++ (request? line).toList := by
  rw [readLine, request?]
  cases Entry.parse line with
  | output request =>
      rw [apply]
      dsimp only
      split
      · exact (List.append_nil _).symm
      · rfl
  | mappingFile value => exact (List.append_nil _).symm
  | definitions value => exact (List.append_nil _).symm
  | unknown => exact (List.append_nil _).symm

theorem outputs_foldl_readLine (lines : List Text) (makefile : Makefile) :
    (lines.foldl readLine makefile).outputs = makefile.outputs ++ lines.filterMap request? := by
  induction lines generalizing makefile with
  | nil => exact (List.append_nil _).symm
  | cons line rest ih =>
      rw [List.foldl_cons, ih, outputs_readLine, List.append_assoc, filterMap_cons_toList]

/-- A line that makes a request has its output among those of the makefile, in its place. -/
theorem exists_parse_of_request? {contents line : Text} {front back : List Text}
    {request : OutputRequest} (hline : Source.trimmedLines contents = front ++ line :: back)
    (hrequest : request? line = some request) :
    ∃ makefile, parse contents = .ok makefile ∧
      makefile.outputs = front.filterMap request? ++ request :: back.filterMap request? := by
  have hmem : line ∈ Source.trimmedLines contents := by
    rw [hline]
    exact List.mem_append_right _ List.mem_cons_self
  have heffective : Source.isEffective line = true := by
    -- a line that says nothing makes no request
    by_contra hnot
    have houtputs := outputs_readLine default line
    rw [readLine_ineffective default (Bool.eq_false_iff.2 hnot), hrequest] at houtputs
    cases houtputs
  refine ⟨_, parse_eq_foldl hmem heffective, ?_⟩
  rw [outputs_foldl_readLine, hline, List.filterMap_append, List.filterMap_cons_some hrequest]
  rfl

/-- A file that writes a well-formed makefile is read as exactly that one. -/
theorem parse_of_writtenIn {makefile : Makefile} {contents : Text} (hwf : makefile.WellFormed)
    (h : makefile.WrittenIn (Source.trimmedLines contents)) :
    parse contents = .ok makefile := by
  have hmapping : ((Source.trimmedLines contents).foldl readLine default).mappingFile =
      makefile.mappingFile := by
    have hview : ∀ (m : Makefile) line, "MAP=".toList.isPrefixOf line = false →
        (m.readLine line).mappingFile = m.mappingFile :=
      fun m line hline => (m.apply_of_keyword?_ne _).1 (Entry.keyword?_ne hline)
    obtain ⟨before, hlast⟩ := view_foldl_last mappingFile hview h.mappingFile default
    rw [hlast, readLine, parse_mappingFile, apply, hwf.mappingFile.1.trim_eq,
      if_neg hwf.mappingFile.2]
  have hdefinitions : ((Source.trimmedLines contents).foldl readLine default).definitions =
      makefile.definitions := by
    have hview : ∀ (m : Makefile) line, "DEFINITIONS=".toList.isPrefixOf line = false →
        (m.readLine line).definitions = m.definitions :=
      fun m line hline => (m.apply_of_keyword?_ne _).2.1 (Entry.keyword?_ne hline)
    obtain ⟨before, hlast⟩ := view_foldl_last definitions hview h.definitions default
    rw [hlast, readLine, parse_definitions, apply, hwf.definitions.1.trim_eq,
      if_neg hwf.definitions.2]
  have houtputs : ((Source.trimmedLines contents).foldl readLine default).outputs =
      makefile.outputs := outputs_foldl hwf.outputs h.outputs default
  have hmem : "MAP=".toList ++ makefile.mappingFile ∈ Source.trimmedLines contents :=
    (List.mem_filter.1 (List.mem_of_getLast? h.mappingFile)).1
  rw [parse_eq_foldl hmem rfl]
  -- the three views are all there is of a makefile
  cases makefile
  cases hread : (Source.trimmedLines contents).foldl readLine default
  simp only [hread] at hmapping hdefinitions houtputs
  rw [hmapping, hdefinitions, houtputs]

end Makefile

/-! ## Mappings as they are written -/

namespace Mapping

/-- The mapping can be written. -/
def WellFormed (mapping : Mapping) : Prop :=
  ∀ token value, mapping.assigned token = some value → Text.Inline value

/-- The line that assigns a value to a token, `MAP:token=value`. -/
def line (token : Token) (value : Text) : Text := "MAP:".toList ++ (token.name ++ '=' :: value)

/-- The line assigns something to the token. -/
def Assigns (token : Token) (line : Text) : Prop :=
  ∃ name value, line = "MAP:".toList ++ (name ++ '=' :: value) ∧ '=' ∉ name ∧
    name.trim = token.name

theorem ofName?_name (token : Token) : Token.ofName? token.name = some token := by
  cases token <;> rfl

theorem name_of_ofName? {name : Text} {token : Token} (h : Token.ofName? name = some token) :
    token.name = name := by
  simpa using List.find?_some h

theorem assignment?_line (token : Token) (value : Text) :
    assignment? (line token value) = some (token.name, value) := by
  have hname : '=' ∉ token.name := by cases token <;> decide
  rw [assignment?, line, Text.after?_append, Option.bind_some, Text.splitOnce_append hname]

theorem trim_name (token : Token) : token.name.trim = token.name := by
  cases token <;> decide

/-- The line of an assignment is read as the assignment. -/
theorem readLine_line (mapping : Mapping) (token : Token) {value : Text} (h : Text.Inline value) :
    mapping.readLine (line token value) = mapping.assign token value := by
  rw [readLine, assignment?_line]
  simp only [trim_name, ofName?_name, h.trim_eq]

theorem assigns_iff {token : Token} {line : Text} :
    Assigns token line ↔ (assignment? line).map (fun sides => sides.1.trim) = some token.name := by
  constructor
  · rintro ⟨name, value, rfl, hname, htrim⟩
    rw [assignment?, Text.after?_append, Option.bind_some, Text.splitOnce_append hname,
      Option.map_some, htrim]
  · intro h
    obtain ⟨⟨name, value⟩, hsides, htrim⟩ := Option.map_eq_some_iff.1 h
    obtain ⟨rest, hrest, hsplit⟩ := Option.bind_eq_some_iff.1 hsides
    obtain ⟨rfl, hname⟩ := Text.splitOnce_eq_some hsplit
    exact ⟨name, value, (Text.after?_eq_some_iff.1 hrest).symm, hname, htrim⟩

instance (token : Token) (line : Text) : Decidable (Assigns token line) :=
  decidable_of_iff' _ assigns_iff

/-- The lines write the mapping: the last line that assigns a token gives it its value, and no line
assigns a token that the mapping does not. There may be any other lines. -/
def WrittenIn (mapping : Mapping) (lines : List Text) : Prop :=
  ∀ token ∈ Token.all, (lines.filter fun line => Assigns token line).getLast? =
    (mapping.assigned token).map (line token)

instance (mapping : Mapping) (lines : List Text) : Decidable (mapping.WrittenIn lines) :=
  inferInstanceAs (Decidable (∀ _ ∈ _, _))

/-- A line that does not assign a token has no say in it. -/
theorem assigned_readLine (mapping : Mapping) {token : Token} {line : Text}
    (h : ¬Assigns token line) :
    (mapping.readLine line).assigned token = mapping.assigned token := by
  rw [assigns_iff] at h
  rw [readLine]
  cases hsides : assignment? line with
  | none => rfl
  | some sides =>
      obtain ⟨name, value⟩ := sides
      cases hother : Token.ofName? name.trim with
      | none => simp only [hother]
      | some other =>
          have hne : token ≠ other := by
            rintro rfl
            exact h (by rw [hsides, Option.map_some, name_of_ofName? hother])
          simp only [hother, assign, if_neg hne]

theorem readLine_ineffective (mapping : Mapping) {line : Text}
    (h : Source.isEffective line = false) : mapping.readLine line = mapping := by
  cases line with
  | nil => rfl
  | cons c cs =>
      obtain rfl : c = '#' := by simpa [Source.isEffective] using h
      rfl

/-- A file that writes a well-formed mapping is read as exactly that one. -/
theorem parse_of_writtenIn {mapping : Mapping} {contents : Text} (hwf : mapping.WellFormed)
    (h : mapping.WrittenIn (Source.trimmedLines contents)) : parse contents = mapping := by
  have hfold : parse contents = (Source.trimmedLines contents).foldl readLine default :=
    Source.foldl_effective (fun m _ h => m.readLine_ineffective h) _ default
  have hassigned : ∀ token, (parse contents).assigned token = mapping.assigned token := by
    intro token
    have hlines := h token token.mem_all
    have hview : ∀ m line, decide (Assigns token line) = false →
        (readLine m line).assigned token = m.assigned token :=
      fun m line hline => m.assigned_readLine (of_decide_eq_false hline)
    rw [hfold]
    cases hvalue : mapping.assigned token with
    | none =>
        have hnone : ∀ line ∈ Source.trimmedLines contents, ¬Assigns token line := by
          rw [hvalue, Option.map_none, List.getLast?_eq_none_iff] at hlines
          simpa using List.filter_eq_nil_iff.1 hlines
        exact view_foldl (fun m : Mapping => m.assigned token)
          (fun m line hline => m.assigned_readLine (hnone line hline)) default
    | some value =>
        rw [hvalue, Option.map_some] at hlines
        obtain ⟨before, hlast⟩ := view_foldl_last (fun m : Mapping => m.assigned token) hview
          hlines default
        refine hlast.trans ?_
        rw [readLine_line _ _ (hwf token value hvalue)]
        exact if_pos rfl
  cases mapping
  cases hread : parse contents
  rw [hread] at hassigned
  exact congrArg Mapping.mk (funext hassigned)

end Mapping

/-! ## Texts of makefiles and mappings -/

/-- The lines of a text are the ones that it was made of. -/
theorem Source.trimmedLines_unlines {lines : List Text} (h : ∀ line ∈ lines, Text.Inline line)
    (hmark : ∀ c ∈ (Text.unlines lines).head?, c ≠ '\uFEFF') :
    trimmedLines (Text.unlines lines) = lines := by
  have hdrop : (Text.unlines lines).dropMark = Text.unlines lines := by
    cases htext : Text.unlines lines with
    | nil => rfl
    | cons c cs => exact dropMark_of_ne (hmark c (by rw [htext]; rfl)) cs
  have hlines := Text.lines_unlines (fun line hline => (h line hline).newline_not_mem)
    fun line hline => (h line hline).trimmed.getLast?_ne_return
  rw [trimmedLines, hdrop, hlines, List.map_congr_left fun line hline => (h line hline).trim_eq,
    List.map_id']

theorem OutputRequest.WellFormed.inline_line {request : OutputRequest} (h : request.WellFormed) :
    Text.Inline request.line := by
  have hargs := NamedArgs.WellFormed.inline (by decide) h.args
  have hkeyword : Text.Inline "OUTPUT=" := by decide
  refine hkeyword.append ⟨Spec.trimmed_call h.name.trimmed _, ?_⟩
  simp [h.name.newline_not_mem, hargs.newline_not_mem]

namespace Makefile

/-- A makefile of one output line says nothing else. -/
theorem parse_line {request : OutputRequest} (h : request.WellFormed) :
    parse (Text.unlines [request.line]) = .ok { default with outputs := [request] } := by
  have hlines : Source.trimmedLines (Text.unlines [request.line]) = [request.line] := by
    refine Source.trimmedLines_unlines ?_ ?_
    · intro line hline
      obtain rfl := List.mem_singleton.1 hline
      exact h.inline_line
    · rintro c ⟨⟩
      decide
  have heffective : Source.isEffective request.line = true := rfl
  rw [parse_eq_foldl (by rw [hlines]; exact List.mem_cons_self) heffective, hlines]
  show Except.ok (default.apply (Entry.parse request.line)) = _
  rw [parse_output h, apply, if_neg h.name_ne_nil]
  rfl

/-- A file for the makefile, without a line too many. -/
def text (makefile : Makefile) : Text :=
  Text.unlines (("MAP=".toList ++ makefile.mappingFile) ::
    ("DEFINITIONS=".toList ++ makefile.definitions) :: makefile.outputs.map OutputRequest.line)

theorem writtenIn_text {makefile : Makefile} (h : makefile.WellFormed) :
    makefile.WrittenIn (Source.trimmedLines makefile.text) := by
  have hinline : ∀ line ∈ ("MAP=".toList ++ makefile.mappingFile) ::
      ("DEFINITIONS=".toList ++ makefile.definitions) :: makefile.outputs.map OutputRequest.line,
      Text.Inline line := by
    intro line hline
    have hmap : Text.Inline "MAP=" := by decide
    have hdefinitions : Text.Inline "DEFINITIONS=" := by decide
    rw [List.mem_cons, List.mem_cons, List.mem_map] at hline
    obtain rfl | rfl | ⟨request, hrequest, rfl⟩ := hline
    · exact hmap.append h.mappingFile.1
    · exact hdefinitions.append h.definitions.1
    · exact (h.outputs request hrequest).inline_line
  rw [text, Source.trimmedLines_unlines hinline (by rintro c ⟨⟩; decide)]
  -- no output line begins with another keyword
  have hnone : ∀ keyword : Text,
      (∀ request : OutputRequest, keyword.isPrefixOf request.line = false) →
        linesOf keyword (makefile.outputs.map OutputRequest.line) = [] := by
    intro keyword hkeyword
    apply List.filter_eq_nil_iff.2
    intro line hline
    obtain ⟨request, -, rfl⟩ := List.mem_map.1 hline
    exact ne_true_of_eq_false (hkeyword request)
  have hall : linesOf "OUTPUT=" (makefile.outputs.map OutputRequest.line) =
      makefile.outputs.map OutputRequest.line := by
    apply List.filter_eq_self.2
    intro line hline
    obtain ⟨request, -, rfl⟩ := List.mem_map.1 hline
    rfl
  constructor
  · show (_ :: linesOf "MAP=" (makefile.outputs.map OutputRequest.line)).getLast? = _
    rw [hnone _ fun _ => rfl]
    rfl
  · show (_ :: linesOf "DEFINITIONS=" (makefile.outputs.map OutputRequest.line)).getLast? = _
    rw [hnone _ fun _ => rfl]
    rfl
  · exact hall

/-- A makefile comes back from its file. -/
theorem parse_text {makefile : Makefile} (h : makefile.WellFormed) :
    parse makefile.text = .ok makefile := parse_of_writtenIn h (writtenIn_text h)

end Makefile

namespace Mapping

/-- A file for the mapping, without a line too many. -/
def text (mapping : Mapping) : Text :=
  Text.unlines (Token.all.filterMap fun token => (mapping.assigned token).map (line token))

theorem assigns_line {token other : Token} {value : Text} (h : Assigns token (line other value)) :
    token = other := by
  rw [assigns_iff, assignment?_line, Option.map_some, trim_name] at h
  exact Token.name_injective (Option.some.inj h).symm

theorem mem_assignments {mapping : Mapping} {tokens : List Token} {other : Text}
    (h : other ∈ tokens.filterMap fun token => (mapping.assigned token).map (line token)) :
    ∃ token ∈ tokens, ∃ value, mapping.assigned token = some value ∧ line token value = other := by
  obtain ⟨token, htoken, hline⟩ := List.mem_filterMap.1 h
  exact ⟨token, htoken, Option.map_eq_some_iff.1 hline⟩

theorem writtenIn_text {mapping : Mapping} (h : mapping.WellFormed) :
    mapping.WrittenIn (Source.trimmedLines mapping.text) := by
  have hinline : ∀ other ∈ Token.all.filterMap
      fun token => (mapping.assigned token).map (line token), Text.Inline other := by
    intro other hother
    obtain ⟨token, -, value, hvalue, rfl⟩ := mem_assignments hother
    have hstart : Text.Inline ("MAP:".toList ++ (token.name ++ ['='])) := by
      cases token <;> decide
    have hline : line token value = ("MAP:".toList ++ (token.name ++ ['='])) ++ value := by
      simp [line]
    rw [hline]
    exact hstart.append (h token value hvalue)
  have hmark : ∀ c ∈ mapping.text.head?, c ≠ '\uFEFF' := by
    rw [text]
    cases hlines : Token.all.filterMap fun token => (mapping.assigned token).map (line token) with
    | nil => rintro c ⟨⟩
    | cons first rest =>
        have hfirst := mem_assignments (hlines ▸ List.mem_cons_self)
        obtain ⟨token, -, value, -, rfl⟩ := hfirst
        rintro c ⟨⟩
        decide
  rw [text, Source.trimmedLines_unlines hinline hmark]
  intro token _
  have hothers : ∀ tokens : List Token, token ∉ tokens →
      (tokens.filterMap fun other => (mapping.assigned other).map (line other)).filter
        (fun line => Assigns token line) = [] := by
    intro tokens hnot
    rw [List.filter_eq_nil_iff]
    intro other hother hassigns
    obtain ⟨assigned, hmem, value, -, rfl⟩ := mem_assignments hother
    rw [assigns_line (of_decide_eq_true hassigns)] at hnot
    exact hnot hmem
  -- every token stands in the list once
  obtain ⟨before, after, hall⟩ := List.append_of_mem token.mem_all
  have hnodup : (before ++ token :: after).Nodup := hall ▸ by decide
  have hbefore : token ∉ before := fun hmem =>
    (List.nodup_append.1 hnodup).2.2 token hmem token List.mem_cons_self rfl
  have hafter : token ∉ after := (List.nodup_cons.1 (List.nodup_append.1 hnodup).2.1).1
  rw [hall, List.filterMap_append, List.filter_append, hothers before hbefore, List.nil_append]
  cases hvalue : mapping.assigned token with
  | none =>
      rw [List.filterMap_cons_none (by rw [hvalue]; rfl), hothers after hafter]
      rfl
  | some value =>
      have hassigns : Assigns token (line token value) := by
        rw [assigns_iff, assignment?_line, Option.map_some, trim_name]
      rw [List.filterMap_cons_some (by rw [hvalue]; rfl), List.filter_cons_of_pos (by simpa),
        hothers after hafter]
      rfl

/-- A mapping comes back from its file. -/
theorem parse_text {mapping : Mapping} (h : mapping.WellFormed) : parse mapping.text = mapping :=
  parse_of_writtenIn h (writtenIn_text h)

end Mapping

/-- Whatever else a file holds, if it writes a makefile or a mapping, it is read as exactly that
one. -/
theorem Source.read_back (contents : Text) :
    (∀ makefile : Makefile, makefile.WellFormed →
      makefile.WrittenIn (trimmedLines contents) → Makefile.parse contents = .ok makefile) ∧
    (∀ mapping : Mapping, mapping.WellFormed →
      mapping.WrittenIn (trimmedLines contents) → Mapping.parse contents = mapping) :=
  ⟨fun _ => Makefile.parse_of_writtenIn, fun _ => Mapping.parse_of_writtenIn⟩

/-- A makefile with parentheses and an equals sign among its values. -/
def jobsMakefile : Makefile where
  mappingFile := "jobs=1.dbmap"
  definitions := "defs/*.dbdef"
  outputs :=
    [⟨"sql_script", OrderedMap.ofList [("dir", some ("sql (a=b)" : Text)), ("force", none)]⟩,
     ⟨"console", OrderedMap.ofList []⟩]

/-- A mapping with an equals sign in one value and nothing in another. -/
def jobsMapping : Mapping :=
  (Mapping.default.assign .queueTable "jobs=1").assign .metricsTable ""

/-- Each of the two among lines that say nothing and lines that it makes void. -/
def jobsMakefileText : Text :=
  Text.unlines ["# jobs", "MAP=old.dbmap", "MAPS=none", "",
    "OUTPUT=sql_script(dir=sql (a=b);force)", "  MAP=jobs=1.dbmap", "DEFINITIONS=",
    "DEFINITIONS=defs/*.dbdef\r", "OUTPUT=console()"]

@[inherit_doc jobsMakefileText]
def jobsMappingText : Text :=
  Text.unlines ["MAP:queue_table_name=old", "MAP:metrics_table_name=",
    "MAP: queue_table_name =older", "# MAP:dequeue_function_name=f", "MAP:unknown=1",
    "  MAP:queue_table_name=jobs=1"]

theorem Source.read_back_jobs :
    Makefile.parse jobsMakefileText = .ok jobsMakefile ∧
      Mapping.parse jobsMappingText = jobsMapping := by
  constructor
  · exact (Source.read_back jobsMakefileText).1 jobsMakefile (by decide) (by decide +kernel)
  · refine (Source.read_back jobsMappingText).2 jobsMapping ?_ (by decide +kernel)
    intro token value hvalue
    cases token <;> cases hvalue <;> decide

end SchemaCompiler
