import SchemaCompiler.Proofs.ColumnSpellings
import SchemaCompiler.Proofs.LineEnds
import SchemaCompiler.Proofs.Pieces

namespace SchemaCompiler

/-! # Arguments taken apart and put together

An argument list is read as the list ahead of a separator extended by the list behind it, so
properties may be spread over as many lines as one likes. Main statements:

* `Properties.holds_run`: properties that have been inserted and merged hold, for each key at its
  first place, the last value that was assigned to it;
* `Object.parse_split`: a properties line can be cut into two at a semicolon, and two such lines
  joined, without a change to the object;
* `NamedArgs.lists_compose`: both of them, with how lists are read in parts and read back.
-/

/-! ## Properties that change -/

/-- To extend by an extended map is to extend twice. -/
theorem OrderedMap.extend_extend {κ ν : Type} [DecidableEq κ] (map a b : OrderedMap κ ν) :
    map.extend (a.extend b) = (map.extend a).extend b := by
  have hboth : a.extend b = ofList (a.entries ++ b.entries) := by
    rw [ofList_append, ofList_entries, ofList_entries]
  rw [hboth, ← insertAll_eq_extend, insertAll_append]
  rfl

namespace Properties

open NamedArgs (lastAssigned)

/-- What can be done to properties. -/
inductive Operation where
  | insert (key : Text) (value : Option Text)
  | extend (args : NamedArgs)

namespace Operation

/-- The assignments that an operation makes, in order. -/
def assigned : Operation → List (Text × Option Text)
  | insert key value => [(key, value)]
  | extend args => args.entries

/-- The properties behind an operation. -/
def apply (properties : Properties) : Operation → Properties
  | insert key value => OrderedMap.insert properties key value
  | extend args => OrderedMap.extend properties args

theorem apply_eq (properties : Properties) (operation : Operation) :
    operation.apply properties = properties.insertAll operation.assigned := by
  cases operation <;> rfl

end Operation

/-- The properties behind operations one after another. -/
def run (operations : List Operation) (properties : Properties) : Properties :=
  operations.foldl Operation.apply properties

/-- Operations assign what they are given, behind what is there before. -/
theorem run_eq (operations : List Operation) (properties : Properties) :
    run operations properties =
      OrderedMap.ofList (properties.entries ++ operations.flatMap Operation.assigned) := by
  induction operations generalizing properties with
  | nil =>
      rw [List.flatMap_nil, List.append_nil, OrderedMap.ofList_entries]
      rfl
  | cons operation rest ih =>
      have hstep : OrderedMap.ofList (operation.apply properties).entries =
          OrderedMap.ofList (properties.entries ++ operation.assigned) := by
        rw [OrderedMap.ofList_entries, Operation.apply_eq, OrderedMap.insertAll_eq_extend,
          OrderedMap.ofList_append, OrderedMap.ofList_entries]
      show run rest (operation.apply properties) = _
      rw [ih, OrderedMap.ofList_append, hstep, ← OrderedMap.ofList_append, List.flatMap_cons,
        List.append_assoc]

/-- The keys that have been assigned, in the order of their first assignments. -/
def keysOf (assigned : List (Text × Option Text)) : List Text :=
  (assigned.map Prod.fst).eraseDups

/-- Keys with the values last assigned to them. -/
def lastOf (assigned : List (Text × Option Text)) (keys : List Text) : List (Text × Option Text) :=
  keys.filterMap fun key => (lastAssigned assigned key).map fun value => (key, value)

/-- The properties hold what has been assigned: each key once, at the place of its first assignment
and with the value of the last one. -/
structure Holds (assigned : List (Text × Option Text)) (properties : Properties) : Prop where
  nodup : properties.keys.Nodup
  get? : ∀ key, properties.get? key = lastAssigned assigned key
  value? : ∀ key, NamedArgs.value? properties key = (lastAssigned assigned key).join
  entries : properties.entries = lastOf assigned (keysOf assigned)
  nonMeta : nonMeta properties = lastOf assigned
    ((keysOf assigned).filter fun key => key ≠ titleKey ∧ key ≠ descriptionKey)

theorem holds_ofList (assigned : List (Text × Option Text)) :
    Holds assigned (OrderedMap.ofList assigned) := by
  have hget := OrderedMap.get?_ofList assigned
  -- keys stand in the order of their first assignments, whichever of them are looked at
  have hfilter : ∀ p : Text → Bool,
      (OrderedMap.ofList assigned).entries.filter (fun entry => p entry.1) =
        lastOf assigned ((keysOf assigned).filter p) := by
    intro p
    rw [OrderedMap.filter_entries, OrderedMap.keys_ofList]
    simp only [hget]
    rfl
  refine ⟨OrderedMap.nodup_keys _, hget, fun key => congrArg Option.join (hget key), ?_, ?_⟩
  · have hall := hfilter fun _ => true
    rwa [List.filter_true, List.filter_true] at hall
  · rw [Properties.nonMeta, ← hfilter]
    simp only [Bool.decide_and]

/-- Properties that have been inserted and merged hold what has been assigned. -/
theorem holds_run (operations : List Operation) (properties : Properties) :
    Holds (properties.entries ++ operations.flatMap Operation.assigned)
      (run operations properties) := by
  rw [run_eq]
  exact holds_ofList _

end Properties

/-! ## Lines of properties -/

namespace Text

theorem dropReturn_append {front : Text} (h : front.getLast? ≠ some '\r') (back : Text) :
    dropReturn (front ++ back) = front ++ dropReturn back := by
  rcases List.eq_nil_or_concat back with rfl | ⟨cs, c, rfl⟩
  · rw [List.append_nil, dropReturn_eq_self h]
    exact (List.append_nil front).symm
  · by_cases hc : c = '\r'
    · subst hc
      rw [List.concat_eq_append, ← List.append_assoc, dropReturn_append_return,
        dropReturn_append_return]
    · rw [dropReturn_eq_self (by simpa using hc), dropReturn_eq_self (by simpa using hc)]

/-- A carriage return at the end of a line is trimmed with the blanks there. -/
theorem trimEnd_dropReturn (line : Text) : trimEnd (dropReturn line) = trimEnd line := by
  rcases List.eq_nil_or_concat line with rfl | ⟨cs, c, rfl⟩
  · rfl
  · by_cases hc : c = '\r'
    · subst hc
      have hblank : isBlank '\r' = true := by decide
      rw [List.concat_eq_append, dropReturn_append_return, trimEnd, trimEnd, List.reverse_append]
      simp [hblank]
    · rw [dropReturn_eq_self (by simpa using hc)]

/-- What a text adds to the line that it goes on with, and the lines behind this one. -/
theorem exists_lines_append (rest : Text) :
    ∃ b more, ∀ (front : Text) (c : Char), '\n' ∉ front → c ≠ '\n' → c ≠ '\r' →
      lines (front ++ c :: rest) = (front ++ c :: b) :: more := by
  by_cases hnewline : '\n' ∈ rest
  · obtain ⟨line, back, rfl, hline⟩ := List.eq_append_cons_of_mem hnewline
    refine ⟨dropReturn line, lines back, fun front c hfront hc hreturn => ?_⟩
    have hwhole : '\n' ∉ front ++ [c] ++ line := by simp [hfront, Ne.symm hc, hline]
    have hlast : (front ++ [c]).getLast? ≠ some '\r' := by simpa using hreturn
    have hdrop := dropReturn_append hlast line
    have hcut := lines_append_cons hwhole back
    rw [hdrop] at hcut
    simpa using hcut
  · refine ⟨rest, [], fun front c hfront hc _ => ?_⟩
    have hwhole : '\n' ∉ front ++ c :: rest := by simp [hfront, Ne.symm hc, hnewline]
    rw [lines, splitOn_of_not_mem hwhole]
    exact if_neg (List.append_ne_nil_of_right_ne_nil front (List.cons_ne_nil c rest))

theorem dropMark_append {a b : Text} (h : b.head? ≠ some '\uFEFF') :
    dropMark (a ++ b) = dropMark a ++ b := by
  cases a with
  | nil => exact dropMark_eq_self h
  | cons c cs =>
      by_cases hc : c = '\uFEFF'
      · subst hc
        rfl
      · rw [List.cons_append, Source.dropMark_of_ne hc, Source.dropMark_of_ne hc, List.cons_append]

/-- The blanks ahead of what a line says. -/
structure Indent (t : Text) : Prop where
  blank : ∀ c ∈ t, isBlank c = true
  newline_not_mem : '\n' ∉ t

end Text

namespace Marker

/-- A properties line is trimmed ahead of its marker and at its end. -/
theorem trim_propertiesLine {indent : Text} (h : Text.Indent indent) (rest : Text) :
    Text.trim (indent ++ properties.line rest) = properties.line (Text.trimEnd rest) := by
  have hstart : Text.trimStart indent = [] := by
    rw [Text.trimStart, ← List.append_nil indent, List.dropWhile_append_of_pos h.blank]
    rfl
  have hline : ∀ u : Text, properties.line u = 'P' :: ("ROPS".toList ++ ':' :: u) := fun _ => rfl
  rw [hline, hline, Text.trim_append_cons (by decide), hstart, Text.trimEnd_append_cons (by decide)]
  rfl

end Marker

/-- The raw line gives some properties. -/
def Piece.GivesProperties (l : Text) (args : NamedArgs) : Prop :=
  ∃ rest, l.trim = Marker.properties.line rest ∧ NamedArgs.parse ';' rest = args

/-- Properties as an entry of any kind. -/
def Entry.properties : (kind : ObjectKind) → NamedArgs → Entry kind
  | .table => TableEntry.properties
  | .sequence => SequenceEntry.properties
  | .function => FunctionEntry.properties

theorem Entry.parse_propertiesLine (m : Mapping) (kind : ObjectKind) (rest : Text) :
    parse m kind (Marker.properties.line rest) =
      .ok (Entry.properties kind (NamedArgs.parse ';' rest)) := by
  have htrim : NamedArgs.parse ';' rest.trim = NamedArgs.parse ';' rest :=
    NamedArgs.parse_trim (by decide) rest
  cases kind <;>
    simp only [parse, TableEntry.parse, SequenceEntry.parse, FunctionEntry.parse,
      Marker.split?_line, Definition.readProperties, htrim] <;> rfl

theorem Definition.mergeProperties_split (front back : List NamedArgs) (a b : NamedArgs) :
    mergeProperties (front ++ a.extend b :: back) = mergeProperties (front ++ a :: b :: back) := by
  simp only [mergeProperties, List.foldl_append, List.foldl_cons, OrderedMap.extend_extend]

section

variable (a b : NamedArgs)

theorem Table.ofEntries_split (front back : List TableEntry) :
    ofEntries (front ++ .properties (a.extend b) :: back) =
      ofEntries (front ++ .properties a :: .properties b :: back) := by
  simp only [ofEntries, List.filterMap_append, List.filterMap_cons, TableEntry.name?,
    TableEntry.properties?, TableEntry.column?, TableEntry.constraint?, TableEntry.index?,
    Definition.mergeProperties_split]

theorem Sequence.ofEntries_split (front back : List SequenceEntry) :
    ofEntries (front ++ .properties (a.extend b) :: back) =
      ofEntries (front ++ .properties a :: .properties b :: back) := by
  simp only [ofEntries, List.filterMap_append, List.filterMap_cons, SequenceEntry.name?,
    SequenceEntry.properties?, Definition.mergeProperties_split]

theorem Function.ofEntries_split (front back : List FunctionEntry) :
    ofEntries (front ++ .properties (a.extend b) :: back) =
      ofEntries (front ++ .properties a :: .properties b :: back) := by
  simp only [ofEntries, List.filterMap_append, List.filterMap_cons, FunctionEntry.name?,
    FunctionEntry.properties?, FunctionEntry.parameter?, FunctionEntry.returns?,
    FunctionEntry.body?, Definition.mergeProperties_split]

/-- Properties may be given by one entry or by two in a row. -/
theorem Entry.assemble_split (kind : ObjectKind) (front back : List (Entry kind)) :
    assemble kind (front ++ Entry.properties kind (a.extend b) :: back) =
      assemble kind (front ++ Entry.properties kind a :: Entry.properties kind b :: back) := by
  cases kind with
  | table => exact congrArg (Except.map Object.table) (Table.ofEntries_split a b front back)
  | sequence => exact congrArg (Except.map Object.sequence) (Sequence.ofEntries_split a b front back)
  | function => exact congrArg (Except.map Object.function) (Function.ofEntries_split a b front back)

end

namespace Piece

open OnePass (isSkipped)

variable {l : Text} {args : NamedArgs}

theorem GivesProperties.isSkipped_eq_false (h : GivesProperties l args) : isSkipped l = false := by
  obtain ⟨rest, htrim, -⟩ := h
  have heffective := Source.isEffective_trim l
  rw [htrim, Marker.isEffective_line] at heffective
  simpa using heffective.symm

theorem GivesProperties.trim_ne_bodyOpening (h : GivesProperties l args) :
    l.trim ≠ bodyOpening := by
  obtain ⟨rest, htrim, -⟩ := h
  rw [htrim]
  exact Marker.properties.line_ne_bodyOpening rest

/-- A line of properties names no kind. -/
theorem GivesProperties.trim_ne_discriminator (h : GivesProperties l args) (kind : ObjectKind) :
    l.trim ≠ kind.discriminator := by
  obtain ⟨rest, htrim, -⟩ := h
  rw [htrim]
  intro heq
  have hsplit := Marker.properties.split?_line rest
  rw [heq] at hsplit
  cases kind <;> cases hsplit

theorem GivesProperties.read (h : GivesProperties l args) (m : Mapping) (kind : ObjectKind) :
    read m kind (line l) = .ok [Entry.properties kind args] := by
  obtain ⟨rest, htrim, rfl⟩ := id h
  rw [read_line m h.isSkipped_eq_false, htrim, Entry.parse_propertiesLine, during_ok]
  rfl

/-- Behind a row of pieces, one line of properties gives the same object as two in a row. -/
theorem readAll_split {a b : NamedArgs} {l₁ l₂ : Text} (h : GivesProperties l (a.extend b))
    (h₁ : GivesProperties l₁ a) (h₂ : GivesProperties l₂ b) (m : Mapping) (kind : ObjectKind)
    (closed : Bool) (before after : List Piece) (entries : List (Entry kind)) :
    ((readAll m kind closed (before ++ line l :: after)).map (entries ++ ·) >>=
        Entry.assemble kind) =
      (readAll m kind closed (before ++ line l₁ :: line l₂ :: after)).map (entries ++ ·) >>=
        Entry.assemble kind := by
  induction before generalizing entries with
  | nil =>
      rw [List.nil_append, List.nil_append, readAll_cons, readAll_cons, readAll_cons, h.read m kind,
        h₁.read m kind, h₂.read m kind, ok_bind, ok_bind, ok_bind]
      cases readAll m kind closed after with
      | error e => rfl
      | ok rest => exact Entry.assemble_split a b kind entries rest
  | cons piece before ih =>
      rw [List.cons_append, List.cons_append, readAll_cons, readAll_cons]
      cases piece.read m kind with
      | error e => rfl
      | ok es =>
          -- the entries of the piece join those that stand ahead of it
          have hjoin : ∀ x : Except Error (List (Entry kind)),
              (x.map (es ++ ·)).map (entries ++ ·) = x.map (entries ++ es ++ ·) := by
            intro x
            cases x with
            | error e => rfl
            | ok rest => exact congrArg Except.ok (List.append_assoc entries es rest).symm
          rw [ok_bind, ok_bind, hjoin, hjoin, ih]

/-! ### Pieces of a file -/

variable {kind : ObjectKind} {front : List Text}

/-- Lines that leave no block open are cut by themselves. -/
theorem cut_append (body : Option (List Text)) {front : List Text}
    (h : closed body.isSome front = true) (rest : List Text) :
    cut body (front ++ rest) = cut body front ++ cut none rest ∧
      closed body.isSome (front ++ rest) = closed false rest := by
  induction front generalizing body with
  | nil =>
      cases body with
      | none => exact ⟨rfl, rfl⟩
      | some _ => cases h
  | cons l front ih =>
      cases body with
      | none =>
          by_cases hopening : l.trim = bodyOpening
          · have hstep : ∀ ls, closed false (l :: ls) = closed true ls := fun ls =>
              congrArg (closed · ls) (decide_eq_true hopening)
            obtain ⟨hcut, hclosed⟩ := ih (some []) ((hstep front).symm.trans h)
            refine ⟨?_, (hstep _).trans hclosed⟩
            rw [List.cons_append, cut, if_pos hopening, cut, if_pos hopening, hcut]
          · have hstep : ∀ ls, closed false (l :: ls) = closed false ls := fun ls =>
              congrArg (closed · ls) (decide_eq_false hopening)
            obtain ⟨hcut, hclosed⟩ := ih none ((hstep front).symm.trans h)
            refine ⟨?_, (hstep _).trans hclosed⟩
            rw [List.cons_append, cut, if_neg hopening, cut, if_neg hopening, hcut,
              List.cons_append]
      | some lines =>
          by_cases hclosing : l.trim = bodyClosing
          · have hstep : ∀ ls, closed true (l :: ls) = closed false ls := fun ls =>
              congrArg (closed · ls) (decide_eq_false (not_not.2 hclosing))
            obtain ⟨hcut, hclosed⟩ := ih none ((hstep front).symm.trans h)
            refine ⟨?_, (hstep _).trans hclosed⟩
            rw [List.cons_append, cut, if_pos hclosing, cut, if_pos hclosing, hcut,
              List.cons_append]
          · have hstep : ∀ ls, closed true (l :: ls) = closed true ls := fun ls =>
              congrArg (closed · ls) (decide_eq_true hclosing)
            obtain ⟨hcut, hclosed⟩ := ih (some (lines ++ [l])) ((hstep front).symm.trans h)
            refine ⟨?_, (hstep _).trans hclosed⟩
            rw [List.cons_append, cut, if_neg hclosing, cut, if_neg hclosing, hcut]

theorem ofLines_append (h : allClosed kind front = true) (rest : List Text) :
    ofLines kind (front ++ rest) = ofLines kind front ++ ofLines kind rest ∧
      allClosed kind (front ++ rest) = allClosed kind rest := by
  cases kind with
  | table => exact ⟨List.map_append, rfl⟩
  | sequence => exact ⟨List.map_append, rfl⟩
  | function => exact cut_append none h rest

theorem ofLines_cons (kind : ObjectKind) (h : l.trim ≠ bodyOpening) (rest : List Text) :
    ofLines kind (l :: rest) = line l :: ofLines kind rest ∧
      allClosed kind (l :: rest) = allClosed kind rest := by
  cases kind with
  | table => exact ⟨rfl, rfl⟩
  | sequence => exact ⟨rfl, rfl⟩
  | function =>
      refine ⟨if_neg h, ?_⟩
      show closed (decide (l.trim = bodyOpening)) rest = closed false rest
      rw [decide_eq_false h]

/-- Skipped lines open no block. -/
theorem allClosed_dropWhile (kind : ObjectKind) (ls : List Text) :
    allClosed kind (ls.dropWhile isSkipped) = allClosed kind ls := by
  cases kind with
  | table => rfl
  | sequence => rfl
  | function =>
      induction ls with
      | nil => rfl
      | cons l rest ih =>
          cases hskipped : isSkipped l with
          | false => rw [List.dropWhile_cons_of_neg (by simp [hskipped])]
          | true =>
              have hopening := OnePass.ne_bodyOpening_of_isSkipped hskipped
              rw [List.dropWhile_cons_of_pos hskipped, ih, (ofLines_cons _ hopening rest).2]

end Piece

/-! ## Files -/

namespace Object

open OnePass (isSkipped)
open Piece (GivesProperties)

/-- Where no block is open, a line of properties gives the same object as two in a row. -/
theorem parse_split_lines {kind : ObjectKind} {contents contents' l l₁ l₂ : Text}
    {front more : List Text} {a b : NamedArgs}
    (hlines : contents.dropMark.lines = front ++ l :: more)
    (hlines' : contents'.dropMark.lines = front ++ l₁ :: l₂ :: more)
    (hclosed : Piece.allClosed kind front = true) (h : GivesProperties l (a.extend b))
    (h₁ : GivesProperties l₁ a) (h₂ : GivesProperties l₂ b) (m : Mapping) :
    (parse m kind contents).toOption = (parse m kind contents').toOption := by
  simp only [parse_eq_pieces, Source.firstLine?_eq, Source.behindFirst, hlines, hlines',
    List.dropWhile_append]
  rcases hfront : front.dropWhile isSkipped with _ | ⟨first, rest⟩
  · -- the properties come first, so that no kind is named
    have hskip : ∀ {line : Text} {args : NamedArgs}, GivesProperties line args →
        ∀ ls, (line :: ls).dropWhile isSkipped = line :: ls := fun hline ls =>
      List.dropWhile_cons_of_neg (by simp [hline.isSkipped_eq_false])
    simp only [List.isEmpty_nil, if_true, hskip h, hskip h₁, List.head?_cons, Option.map_some,
      if_neg (h.trim_ne_discriminator kind), if_neg (h₁.trim_ne_discriminator kind)]
    rfl
  · simp only [List.isEmpty_cons, if_false, List.cons_append, List.head?_cons, Option.map_some,
      List.tail_cons, Bool.false_eq_true]
    by_cases hkind : first.trim = kind.discriminator
    · have hrest : Piece.allClosed kind rest = true := by
        have hopening : first.trim ≠ bodyOpening := by
          rw [hkind]
          cases kind <;> decide
        rw [← (Piece.ofLines_cons _ hopening rest).2, ← hfront, Piece.allClosed_dropWhile, hclosed]
      obtain ⟨hcut, hclosed⟩ := Piece.ofLines_append hrest (l :: more)
      obtain ⟨hcut', hclosed'⟩ := Piece.ofLines_append hrest (l₁ :: l₂ :: more)
      obtain ⟨hl, hcl⟩ := Piece.ofLines_cons kind h.trim_ne_bodyOpening more
      obtain ⟨hl₁, hcl₁⟩ := Piece.ofLines_cons kind h₁.trim_ne_bodyOpening (l₂ :: more)
      obtain ⟨hl₂, hcl₂⟩ := Piece.ofLines_cons kind h₂.trim_ne_bodyOpening more
      have hread := Piece.readAll_split h h₁ h₂ m kind (Piece.allClosed kind more)
        (Piece.ofLines kind rest) (Piece.ofLines kind more) []
      have hnil : ∀ x : Except Error (List (Entry kind)), x.map ([] ++ ·) = x := fun x => by
        cases x <;> rfl
      rw [hnil, hnil] at hread
      rw [if_pos hkind, if_pos hkind, hcut, hclosed, hcut', hclosed', hl, hcl, hl₁, hcl₁, hl₂, hcl₂,
        hread]
    · rw [if_neg hkind, if_neg hkind]

/-- The text behind a part of a file starts a line, and no block is open there. -/
structure StartsLine (kind : ObjectKind) (front : Text) : Prop where
  ended : front.dropMark = [] ∨ front.getLast? = some '\n'
  closed : Piece.allClosed kind front.dropMark.lines = true

theorem StartsLine.lines_append {kind : ObjectKind} {front back : Text} (h : StartsLine kind front)
    (hback : back.head? ≠ some '\uFEFF') :
    (front ++ back).dropMark.lines = front.dropMark.lines ++ back.lines := by
  rw [Text.dropMark_append hback]
  rcases h.ended with hnil | hlast
  · rw [hnil]
    rfl
  · obtain ⟨ls, rfl⟩ := List.getLast?_eq_some_iff.1 hlast
    have hmark : ['\n'].head? ≠ some '\uFEFF' := by decide
    rw [Text.dropMark_append hmark, List.append_assoc, List.singleton_append,
      Text.lines_append_newline, Text.lines_append_newline]
    exact (congrArg (· ++ back.lines) (List.append_nil _)).symm

theorem head?_propertiesLine_ne {indent : Text} (h : Text.Indent indent) (rest : Text) :
    (indent ++ Marker.properties.line rest).head? ≠ some '\uFEFF' := by
  cases indent with
  | nil =>
      have hhead : (Marker.properties.line rest).head? = some 'P' := rfl
      rw [List.nil_append, hhead]
      decide
  | cons c cs =>
      intro hc
      have hblank : isBlank '\uFEFF' = true := Option.some.inj hc ▸ h.blank c List.mem_cons_self
      exact absurd hblank (by decide)

/-- A line of properties gives what stands on it, also without a carriage return at its end. -/
theorem givesProperties_propertiesLine {indent : Text} (h : Text.Indent indent) (rest : Text) :
    GivesProperties (indent ++ Marker.properties.line rest) (NamedArgs.parse ';' rest) ∧
      GivesProperties (Text.dropReturn (indent ++ Marker.properties.line rest))
        (NamedArgs.parse ';' rest) := by
  have hcolon : (indent ++ Marker.properties.line []).getLast? = some ':' := by
    rw [List.getLast?_append]
    rfl
  have hline : ∀ u, indent ++ Marker.properties.line u = indent ++ Marker.properties.line [] ++ u :=
    fun u => by rw [List.append_assoc]; rfl
  have hreturn : Text.dropReturn (indent ++ Marker.properties.line rest) =
      indent ++ Marker.properties.line (Text.dropReturn rest) := by
    rw [hline, Text.dropReturn_append (by rw [hcolon]; decide), ← hline]
  refine ⟨⟨_, Marker.trim_propertiesLine h rest, NamedArgs.parse_trimEnd (by decide) rest⟩,
    ⟨_, ?_, NamedArgs.parse_trimEnd (by decide) rest⟩⟩
  rw [hreturn, Marker.trim_propertiesLine h, Text.trimEnd_dropReturn]

/-- A properties line can be cut into two at a semicolon, and two such lines joined: neither changes
whether the file can be read, nor the object that it describes. -/
theorem parse_split {kind : ObjectKind} {front indent indent' a : Text}
    (hfront : StartsLine kind front) (hindent : Text.Indent indent)
    (hindent' : Text.Indent indent') (ha : '\n' ∉ a) (rest : Text) (m : Mapping) :
    (parse m kind
        (front ++ (indent ++ Marker.properties.line (a ++ ';' :: rest)))).toOption =
      (parse m kind (front ++ (indent ++ Marker.properties.line (a ++ '\n' ::
        (indent' ++ Marker.properties.line rest))))).toOption := by
  have hkeyword : ∀ u, Marker.properties.line u = "PROPS".toList ++ ':' :: u := fun _ => rfl
  have hfirst : '\n' ∉ indent ++ Marker.properties.line a := by
    have hnot : '\n' ∉ "PROPS:".toList := by decide
    rw [List.mem_append, Marker.line, List.mem_append, not_or, not_or]
    exact ⟨hindent.newline_not_mem, hnot, ha⟩
  have hsecond : '\n' ∉ indent' ++ "PROPS".toList := by
    rw [List.mem_append, not_or]
    exact ⟨hindent'.newline_not_mem, by decide⟩
  obtain ⟨b, more, hb⟩ := Text.exists_lines_append rest
  have hjoined : Text.lines (indent ++ Marker.properties.line (a ++ ';' :: rest)) =
      (indent ++ Marker.properties.line (a ++ ';' :: b)) :: more := by
    have hline := hb (indent ++ Marker.properties.line a) ';' hfirst (by decide) (by decide)
    rwa [List.append_assoc, List.append_assoc, Marker.line, List.append_assoc,
      List.append_assoc] at hline
  have hsplit : Text.lines (indent ++ Marker.properties.line (a ++ '\n' ::
        (indent' ++ Marker.properties.line rest))) =
      Text.dropReturn (indent ++ Marker.properties.line a) ::
        (indent' ++ Marker.properties.line b) :: more := by
    have hline := hb (indent' ++ "PROPS".toList) ':' hsecond (by decide) (by decide)
    have hcut := Text.lines_append_cons hfirst (indent' ++ Marker.properties.line rest)
    rw [List.append_assoc, List.append_assoc, ← hkeyword, ← hkeyword] at hline
    rw [hline, List.append_assoc, Marker.line, List.append_assoc] at hcut
    exact hcut
  have hlines := hfront.lines_append (head?_propertiesLine_ne hindent (a ++ ';' :: rest))
  have hlines' := hfront.lines_append (head?_propertiesLine_ne hindent
    (a ++ '\n' :: (indent' ++ Marker.properties.line rest)))
  have hall := (givesProperties_propertiesLine hindent (a ++ ';' :: b)).1
  rw [hjoined] at hlines
  rw [hsplit] at hlines'
  rw [NamedArgs.parse_append] at hall
  exact parse_split_lines hlines hlines' hfront.closed hall
    (givesProperties_propertiesLine hindent a).2 (givesProperties_propertiesLine hindent' b).1 m

end Object

namespace NamedArgs

open Object (StartsLine)

/-- Argument lists compose: around a separator they are read one by one, the second one extending
the first; what is written for a map is read back; properties lines can be cut and joined at
semicolons; and properties that change hold what has been assigned to them. -/
theorem lists_compose :
    (∀ (sep : Char) (a b : Text),
      parse sep (a ++ sep :: b) = (parse sep a).extend (parse sep b)) ∧
    (∀ (sep : Char) (map : NamedArgs), sep ≠ '=' → (∀ entry ∈ map.entries, Writable sep entry) →
      parse sep (list sep map.entries) = map) ∧
    (∀ (m : Mapping) (kind : ObjectKind) (front indent indent' a rest : Text),
      StartsLine kind front → Text.Indent indent → Text.Indent indent' → '\n' ∉ a →
      (Object.parse m kind
          (front ++ (indent ++ Marker.properties.line (a ++ ';' :: rest)))).toOption =
        (Object.parse m kind (front ++ (indent ++ Marker.properties.line (a ++ '\n' ::
          (indent' ++ Marker.properties.line rest))))).toOption) ∧
    ∀ (operations : List Properties.Operation) (properties : Properties),
      Properties.Holds (properties.entries ++ operations.flatMap Properties.Operation.assigned)
        (Properties.run operations properties) := by
  refine ⟨parse_append, fun sep map hsep hmap => ?_, ?_, Properties.holds_run⟩
  · rw [parse_list hsep hmap, OrderedMap.ofList_entries]
  · intro m kind front indent indent' a rest hfront hindent hindent' ha
    exact Object.parse_split hfront hindent hindent' ha rest m

/-- Properties with a bare key and with an equals sign in a value. -/
def queueProperties : NamedArgs :=
  .ofList [("title", some "Queue"), ("unlogged", none), ("check", some "a=b")]

/-- The start of a function, with a line in its body that looks like one of properties. -/
def bodyFirst : Text := "FUNC\nNAME:f\nBODY:\nPROPS:x;y\nBODY;\n"

/-- What stands on a line of properties ahead of a semicolon. -/
def languageAndTitle : Text := "lang=sql; title=F"

/-- What stands behind the semicolon, to the end of the file. -/
def titleAndReturn : Text := "title=G\nRET:int"

theorem lists_compose_queue :
    (',' ≠ '=' ∧ (∀ entry ∈ queueProperties.entries, Writable ',' entry) ∧
      parse ',' (list ',' queueProperties.entries) = queueProperties) ∧
    (StartsLine .function bodyFirst ∧ Text.Indent [' '] ∧ Text.Indent ['\t'] ∧
      '\n' ∉ languageAndTitle ∧
      (Object.parse Mapping.default .function (bodyFirst ++ ([' '] ++
          Marker.properties.line (languageAndTitle ++ ';' :: titleAndReturn)))).toOption =
        (Object.parse Mapping.default .function (bodyFirst ++ ([' '] ++
          Marker.properties.line (languageAndTitle ++ '\n' ::
            (['\t'] ++ Marker.properties.line titleAndReturn))))).toOption) := by
  obtain ⟨-, hback, hsplit, -⟩ := lists_compose
  have hsep : ',' ≠ '=' := by decide
  have hmap : ∀ entry ∈ queueProperties.entries, Writable ',' entry := by decide
  have hfront : StartsLine .function bodyFirst := ⟨.inr (by decide), rfl⟩
  have hindent : Text.Indent [' '] := ⟨fun c hc => by rw [List.mem_singleton.1 hc]; rfl, by decide⟩
  have hindent' : Text.Indent ['\t'] :=
    ⟨fun c hc => by rw [List.mem_singleton.1 hc]; rfl, by decide⟩
  have ha : '\n' ∉ languageAndTitle := by decide
  exact ⟨⟨hsep, hmap, hback ',' queueProperties hsep hmap⟩, hfront, hindent, hindent', ha,
    hsplit Mapping.default .function bodyFirst [' '] ['\t'] languageAndTitle titleAndReturn hfront
      hindent hindent' ha⟩

example : Object.parse Mapping.default .function
    (bodyFirst ++ ([' '] ++ Marker.properties.line (languageAndTitle ++ ';' :: titleAndReturn))) =
      .ok (.function ⟨"f", .ofList [("lang", some "sql"), ("title", some "G")], [],
        Return.ofType "int" .empty, "PROPS:x;y"⟩) := rfl

end NamedArgs

end SchemaCompiler
