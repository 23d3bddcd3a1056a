import Mathlib.Data.List.TakeWhile
import SchemaCompiler.Proofs.Results
import SchemaCompiler.Template

namespace SchemaCompiler.Template

/-! # Templates and what they are written from

A template is written from parts: the dollar signs of literal text are doubled, and a placeholder is
written with braces, or without them where no name could go on behind it (`Encodes`). Main statements:

* `segmentsFrom_encodes`: the scanner reads off the parts that a text was written from, whatever
  stands behind it;
* `encodes_or_stops`: every text is written from parts that have values, up to a dollar sign that
  stops the scanner, if there is one;
* `render_encoded`: a template renders to what its parts stand for, and is refused for the first
  dollar sign that starts nothing or starts a placeholder without a value.
-/

/-! ## Names -/

/-- A letter or an underscore with letters, digits and underscores behind it. -/
def IsName (name : Text) : Prop :=
  ∃ c cs, name = c :: cs ∧ startsName c = true ∧ ∀ d ∈ cs, continuesName d = true

/-- No name goes on into this text. -/
def EndsName (t : Text) : Prop := ∀ c ∈ t.head?, continuesName c = false

theorem endsName_nil : EndsName [] := nofun

theorem endsName_dollar (t : Text) : EndsName ('$' :: t) := by
  intro c hc
  cases hc
  decide

theorem continuesName_of_startsName {c : Char} (h : startsName c = true) :
    continuesName c = true := by
  rw [startsName, Bool.or_eq_true] at h
  rw [continuesName, Bool.or_eq_true, Char.isAlphanum, Bool.or_eq_true]
  exact h.imp_left .inl

/-- Characters outside names are in none. -/
theorem IsName.not_mem {name : Text} (h : IsName name) {c : Char} (hc : continuesName c = false) :
    c ∉ name := by
  obtain ⟨d, ds, rfl, hd, hds⟩ := h
  intro hmem
  have hcontinues : continuesName c = true := by
    rcases List.mem_cons.1 hmem with rfl | hmem
    · exact continuesName_of_startsName hd
    · exact hds c hmem
  rw [hc] at hcontinues
  cases hcontinues

/-- A name is read as far as it goes. -/
theorem name?_append {name rest : Text} (h : IsName name) (hrest : EndsName rest) :
    name? (name ++ rest) = some name := by
  obtain ⟨c, cs, rfl, hc, hcs⟩ := h
  have hstop : rest.takeWhile continuesName = [] := by
    cases rest with
    | nil => rfl
    | cons d ds => exact List.takeWhile_cons_of_neg (by simp [hrest d rfl])
  rw [List.cons_append, name?, if_pos hc, List.takeWhile_append_of_pos hcs, hstop, List.append_nil]

/-- What is read as a name is one, and no name goes on behind it. -/
theorem exists_of_name?_eq_some {t name : Text} (h : name? t = some name) :
    IsName name ∧ ∃ rest, t = name ++ rest ∧ EndsName rest := by
  cases t with
  | nil => cases h
  | cons c cs =>
      rw [name?] at h
      split at h
      · rename_i hc
        cases h
        refine ⟨⟨c, _, rfl, hc, fun d hd => List.mem_takeWhile_imp hd⟩,
          cs.dropWhile continuesName, ?_, ?_⟩
        · rw [List.cons_append, List.takeWhile_append_dropWhile]
        · intro d hd
          have hnot := List.head?_dropWhile_not continuesName cs
          rw [hd] at hnot
          exact hnot
      · cases h

/-! ## Parts -/

/-- What a template is written from. -/
inductive Part where
  | literal (text : Text)
  | placeholder (name : Text)
  deriving DecidableEq, Repr

/-- Behind a dollar sign, a text starts with the rest of a part. -/
inductive Starts : Text → Part → Text → Prop
  | dollar (rest : Text) : Starts ('$' :: rest) (.literal ['$']) rest
  | braced {name : Text} (h : IsName name) (rest : Text) :
      Starts ('\x7b' :: (name ++ '\x7d' :: rest)) (.placeholder name) rest
  | bare {name rest : Text} (h : IsName name) (hrest : EndsName rest) :
      Starts (name ++ rest) (.placeholder name) rest

/-- A text with every dollar sign doubled. -/
def doubled (t : Text) : Text := t.flatMap fun c => if c = '$' then ['$', '$'] else [c]

/-- A text is written from parts: literal text with its dollar signs doubled, a placeholder with
braces, or without them where no name goes on behind it. -/
inductive Encodes : List Part → Text → Prop
  | nil : Encodes [] []
  | literal (text : Text) {parts : List Part} {t : Text} (h : Encodes parts t) :
      Encodes (.literal text :: parts) (doubled text ++ t)
  | braced {name : Text} (hname : IsName name) {parts : List Part} {t : Text}
      (h : Encodes parts t) :
      Encodes (.placeholder name :: parts) ('$' :: '\x7b' :: (name ++ '\x7d' :: t))
  | bare {name : Text} (hname : IsName name) {parts : List Part} {t : Text} (hend : EndsName t)
      (h : Encodes parts t) :
      Encodes (.placeholder name :: parts) ('$' :: (name ++ t))

/-- What a part stands for, if it has a value. -/
def Part.text? (values : Text → Option Text) : Part → Option Text
  | literal text => some text
  | placeholder name => values name

/-- What parts stand for, one after another, if all have a value. -/
def contents? (values : Text → Option Text) : List Part → Option Text
  | [] => some []
  | part :: parts => do
    let text ← part.text? values
    let rest ← contents? values parts
    return text ++ rest

/-- Why the scanner stops at a dollar sign on a line, given what follows it. -/
inductive Offends (values : Text → Option Text) (line : Nat) : Text → ConfigurationFault → Prop
  | malformed {t : Text} (h : ∀ part rest, ¬Starts t part rest) :
      Offends values line t (.badPlaceholder line)
  | unknown {t name rest : Text} (h : Starts t (.placeholder name) rest)
      (hvalue : values name = none) : Offends values line t (.unknownPlaceholder name)

/-- The scanner comes through some parts that have values and stops at the dollar sign behind them. -/
inductive Stops (values : Text → Option Text) : Text → ConfigurationFault → Prop
  | behind {parts : List Part} {front text rest : Text} {fault : ConfigurationFault}
      (hfront : Encodes parts front) (hvalues : contents? values parts = some text)
      (h : Offends values (1 + front.count '\n') rest fault) :
      Stops values (front ++ '$' :: rest) fault

/-! ## One dollar sign -/

/-- The pieces that the scanner makes of a part. -/
def Part.segments : Part → List Segment
  | literal text => text.map .literal
  | placeholder name => [.placeholder name]

theorem afterDollar_bare (line : Nat) {c : Char} {cs : Text} (hdollar : c ≠ '$')
    (hbrace : c ≠ '\x7b') :
    afterDollar line (c :: cs) = match name? (c :: cs) with
      | some name => (.placeholder name, name.length)
      | none => (.malformed line, 0) := by
  unfold afterDollar
  split
  · rename_i heq
    exact absurd (List.cons.inj heq).1 hdollar
  · rename_i heq
    exact absurd (List.cons.inj heq).1 hbrace
  · rfl

/-- The scanner takes up the part that a text starts with, and goes on behind it. -/
theorem afterDollar_of_starts {t rest : Text} {part : Part} (h : Starts t part rest) (line : Nat) :
    ∃ n segment, afterDollar line t = (segment, n) ∧ part.segments = [segment] ∧
      t.drop n = rest := by
  cases h with
  | dollar => exact ⟨1, _, rfl, rfl, rfl⟩
  | @braced name hname =>
      have hend : EndsName ('\x7d' :: rest) := by
        intro c hc
        cases hc
        decide
      have hbrace : (name ++ '\x7d' :: rest)[name.length]? = some '\x7d' := by simp
      refine ⟨name.length + 2, .placeholder name, ?_, rfl, ?_⟩
      · simp only [afterDollar, name?_append hname hend, hbrace, if_true]
      · rw [List.drop_succ_cons, List.append_cons, List.drop_left']
        simp
  | @bare name _ hname hend =>
      have hread := name?_append hname hend
      refine ⟨name.length, .placeholder name, ?_, rfl, List.drop_left⟩
      obtain ⟨c, cs, rfl, hc, -⟩ := hname
      -- the first character of a name is neither a dollar sign nor a brace
      have hdollar : c ≠ '$' := by
        rintro rfl
        exact absurd hc (by decide)
      have hbrace : c ≠ '\x7b' := by
        rintro rfl
        exact absurd hc (by decide)
      rw [List.cons_append] at hread ⊢
      rw [afterDollar_bare line hdollar hbrace, hread]

/-- A dollar sign ahead of anything else is malformed, and nothing more belongs to it. -/
theorem afterDollar_of_not_starts {t : Text} (h : ∀ part rest, ¬Starts t part rest) (line : Nat) :
    afterDollar line t = (.malformed line, 0) := by
  unfold afterDollar
  split
  · exact absurd (.dollar _) (h _ _)
  · rename_i inner
    cases hname : name? inner with
    | none => rfl
    | some name =>
        obtain ⟨hisName, rest, rfl, -⟩ := exists_of_name?_eq_some hname
        dsimp only
        split
        · rename_i hbrace
          rw [List.getElem?_append_right (Nat.le_refl _), Nat.sub_self] at hbrace
          cases rest with
          | nil => cases hbrace
          | cons c cs =>
              cases hbrace
              exact absurd (.braced hisName cs) (h _ _)
        · rfl
  · cases hname : name? t with
    | none => rfl
    | some name =>
        obtain ⟨hisName, rest, rfl, hend⟩ := exists_of_name?_eq_some hname
        exact absurd (.bare hisName hend) (h _ _)

/-! ## Scanning -/

theorem segmentsFrom_eq_drop (line n : Nat) (t : Text) :
    segmentsFrom line n t = segmentsFrom line 0 (t.drop n) := by
  induction t generalizing n with
  | nil => cases n <;> rfl
  | cons c cs ih =>
      cases n with
      | zero => rfl
      | succ n => exact ih n

theorem segmentsFrom_starts {t rest : Text} {part : Part} (h : Starts t part rest) (line : Nat) :
    segmentsFrom line 0 ('$' :: t) = part.segments ++ segmentsFrom line 0 rest := by
  obtain ⟨n, segment, hafter, hsegments, hdrop⟩ := afterDollar_of_starts h line
  rw [segmentsFrom, if_pos rfl, hafter, hsegments, segmentsFrom_eq_drop, hdrop]
  rfl

theorem segmentsFrom_not_starts {t : Text} (h : ∀ part rest, ¬Starts t part rest) (line : Nat) :
    segmentsFrom line 0 ('$' :: t) = .malformed line :: segmentsFrom line 0 t := by
  rw [segmentsFrom, if_pos rfl, afterDollar_of_not_starts h]

theorem doubled_dollar (t : Text) : doubled ('$' :: t) = '$' :: '$' :: doubled t := rfl

theorem doubled_cons_of_ne {c : Char} (h : c ≠ '$') (t : Text) :
    doubled (c :: t) = c :: doubled t := by
  rw [doubled, List.flatMap_cons, if_neg h]
  rfl

/-- Literal text comes back character by character, and its newlines are counted. -/
theorem segmentsFrom_doubled (text rest : Text) (line : Nat) :
    segmentsFrom line 0 (doubled text ++ rest) =
      text.map .literal ++ segmentsFrom (line + text.count '\n') 0 rest := by
  induction text generalizing line with
  | nil => rfl
  | cons c cs ih =>
      by_cases hdollar : c = '$'
      · rw [hdollar, doubled_dollar, List.cons_append, List.cons_append,
          segmentsFrom_starts (.dollar _), ih, List.count_cons_of_ne (by decide)]
        rfl
      · rw [doubled_cons_of_ne hdollar, List.cons_append, segmentsFrom, if_neg hdollar, ih]
        by_cases hline : c = '\n'
        · simp [hline, Nat.add_assoc, Nat.add_comm 1]
        · simp [hline]

theorem count_doubled (text : Text) : (doubled text).count '\n' = text.count '\n' := by
  induction text with
  | nil => rfl
  | cons c cs ih =>
      by_cases hdollar : c = '$'
      · rw [hdollar, doubled_dollar, List.count_cons_of_ne (by decide),
          List.count_cons_of_ne (by decide), List.count_cons_of_ne (by decide), ih]
      · rw [doubled_cons_of_ne hdollar, List.count_cons, ih, List.count_cons]

theorem IsName.count_newline {name : Text} (h : IsName name) : name.count '\n' = 0 :=
  List.count_eq_zero.2 (h.not_mem (by decide))

/-- The scanner reads off the parts that a text was written from. What stands behind the text does
not matter, as long as no name goes on into it. -/
theorem segmentsFrom_encodes {parts : List Part} {front rest : Text} (h : Encodes parts front)
    (hrest : EndsName rest) (line : Nat) :
    segmentsFrom line 0 (front ++ rest) =
      parts.flatMap Part.segments ++ segmentsFrom (line + front.count '\n') 0 rest := by
  induction h generalizing line with
  | nil => rfl
  | literal text _ ih =>
      rw [List.append_assoc, segmentsFrom_doubled, ih, List.count_append, count_doubled,
        List.flatMap_cons, Part.segments, List.append_assoc, Nat.add_assoc]
  | @braced name hname parts t _ ih =>
      have hcount : ('$' :: '\x7b' :: (name ++ '\x7d' :: t)).count '\n' = t.count '\n' := by
        simp [hname.count_newline]
      have hstarts := Starts.braced hname (t ++ rest)
      simp only [List.cons_append, List.append_assoc]
      rw [segmentsFrom_starts hstarts, ih, hcount, List.flatMap_cons, List.append_assoc]
  | @bare name hname parts t hend _ ih =>
      have hcount : ('$' :: (name ++ t)).count '\n' = t.count '\n' := by
        simp [hname.count_newline]
      -- behind the name, the text goes on with another part or with what follows it
      have hends : EndsName (t ++ rest) := by
        intro c hc
        cases t with
        | nil => exact hrest c hc
        | cons d ds => exact hend c hc
      have hstarts := Starts.bare hname hends
      rw [List.cons_append, List.append_assoc, segmentsFrom_starts hstarts, ih, hcount,
        List.flatMap_cons, List.append_assoc]

/-! ## Rendering -/

/-- The text of pieces, one after another. -/
def renderAll (values : Text → Option Text) (segments : List Segment) : Except Error Text :=
  (segments.mapM (Segment.render values)).map List.flatten

theorem renderAll_append (values : Text → Option Text) (a b : List Segment) :
    renderAll values (a ++ b) =
      renderAll values a >>= fun text => (renderAll values b).map (text ++ ·) := by
  unfold renderAll
  rw [List.mapM_append]
  cases a.mapM (Segment.render values) with
  | error e => rfl
  | ok texts =>
      cases b.mapM (Segment.render values) with
      | error e => rfl
      | ok more => exact congrArg Except.ok List.flatten_append

theorem renderAll_singleton (values : Text → Option Text) (segment : Segment) :
    renderAll values [segment] = segment.render values := by
  rw [renderAll, List.mapM_cons]
  cases segment.render values with
  | error e => rfl
  | ok text => exact congrArg Except.ok (List.append_nil text)

theorem renderAll_literal (values : Text → Option Text) (text : Text) :
    renderAll values (text.map .literal) = .ok text := by
  induction text with
  | nil => rfl
  | cons c cs ih =>
      rw [List.map_cons, ← List.singleton_append, renderAll_append, renderAll_singleton, ih]
      rfl

/-- Parts with values are rendered to what they stand for. -/
theorem renderAll_parts {values : Text → Option Text} {parts : List Part} {text : Text}
    (h : contents? values parts = some text) :
    renderAll values (parts.flatMap Part.segments) = .ok text := by
  induction parts generalizing text with
  | nil =>
      cases h
      rfl
  | cons part parts ih =>
      rw [contents?] at h
      obtain ⟨first, hfirst, h⟩ := Option.bind_eq_some_iff.1 h
      obtain ⟨rest, hrest, h⟩ := Option.bind_eq_some_iff.1 h
      cases h
      rw [List.flatMap_cons, renderAll_append, ih hrest]
      cases part with
      | literal literal =>
          cases hfirst
          rw [Part.segments, renderAll_literal]
          rfl
      | placeholder name =>
          have hvalue : values name = some first := hfirst
          rw [Part.segments, renderAll_singleton, Segment.render, hvalue]
          rfl

theorem render_eq_renderAll (values : Text → Option Text) (t : Text) :
    render values t = renderAll values (segmentsFrom 1 0 t) := rfl

/-- A text written from parts with values renders to what they stand for. -/
theorem render_of_encodes {values : Text → Option Text} {parts : List Part} {t text : Text}
    (h : Encodes parts t) (hvalues : contents? values parts = some text) :
    render values t = .ok text := by
  have hsegments := segmentsFrom_encodes h endsName_nil 1
  rw [List.append_nil, segmentsFrom, List.append_nil] at hsegments
  rw [render_eq_renderAll, hsegments, renderAll_parts hvalues]

/-- A dollar sign that stops the scanner is what rendering fails for. -/
theorem render_of_stops {values : Text → Option Text} {t : Text} {fault : ConfigurationFault}
    (h : Stops values t fault) : render values t = .error (.configuration fault) := by
  cases h with
  | @behind parts front text rest _ hfront hvalues h =>
      rw [render_eq_renderAll, segmentsFrom_encodes hfront (endsName_dollar rest),
        renderAll_append, renderAll_parts hvalues, ok_bind]
      cases h with
      | malformed hnot =>
          rw [segmentsFrom_not_starts hnot, ← List.singleton_append, renderAll_append,
            renderAll_singleton]
          rfl
      | unknown hstarts hvalue =>
          rw [segmentsFrom_starts hstarts, renderAll_append, Part.segments, renderAll_singleton,
            Segment.render, hvalue]
          rfl

/-! ## Every text -/

theorem EndsName.of_append {a b : Text} (h : EndsName (a ++ b)) : EndsName a := by
  intro c hc
  cases a with
  | nil => cases hc
  | cons d ds => exact h c hc

/-- What starts with a part is longer than what stands behind the part. -/
theorem Starts.length_lt {t rest : Text} {part : Part} (h : Starts t part rest) :
    rest.length < t.length := by
  cases h with
  | dollar => exact Nat.lt_succ_self _
  | braced =>
      simp only [List.length_cons, List.length_append]
      omega
  | bare hname _ =>
      obtain ⟨c, cs, rfl, -⟩ := hname
      simp only [List.length_cons, List.length_append]
      omega

/-- A part can be put ahead of parts that a beginning of the text behind it is written from. -/
theorem Starts.encodes {t front back : Text} {part : Part} (h : Starts t part (front ++ back))
    {parts : List Part} (hfront : Encodes parts front) :
    ∃ begins, '$' :: t = begins ++ back ∧ Encodes (part :: parts) begins := by
  generalize hrest : front ++ back = rest at h
  cases h with
  | dollar =>
      refine ⟨'$' :: '$' :: front, ?_, .literal ['$'] hfront⟩
      rw [← hrest]
      rfl
  | @braced name hname =>
      refine ⟨'$' :: '\x7b' :: (name ++ '\x7d' :: front), ?_, .braced hname hfront⟩
      rw [← hrest]
      simp
  | @bare name _ hname hend =>
      refine ⟨'$' :: (name ++ front), ?_, .bare hname (hrest ▸ hend).of_append hfront⟩
      rw [← hrest]
      simp

/-- The scanner comes through parts that have values, to the end of the text or to a dollar sign that
stops it, on whichever line this stands. -/
def Scans (values : Text → Option Text) (t : Text) : Prop :=
  ∃ parts text front back, t = front ++ back ∧ Encodes parts front ∧
    contents? values parts = some text ∧
    (back = [] ∨ ∃ rest, back = '$' :: rest ∧ ∀ line, ∃ fault, Offends values line rest fault)

theorem contents?_cons {values : Text → Option Text} {part : Part} {parts : List Part}
    {first text : Text} (hpart : part.text? values = some first)
    (hparts : contents? values parts = some text) :
    contents? values (part :: parts) = some (first ++ text) := by
  rw [contents?, hpart, hparts]
  rfl

/-- The scanner comes through every text in this way. -/
theorem scans (values : Text → Option Text) (t : Text) : Scans values t := by
  induction hlength : t.length using Nat.strong_induction_on generalizing t with
  | _ n ih =>
      cases t with
      | nil => exact ⟨[], [], [], [], rfl, .nil, rfl, .inl rfl⟩
      | cons c cs =>
          have hshorter : cs.length < n := by
            rw [← hlength]
            exact Nat.lt_succ_self _
          by_cases hdollar : c = '$'
          · subst hdollar
            by_cases hstarts : ∃ part rest, Starts cs part rest
            · obtain ⟨part, rest, hstarts⟩ := hstarts
              cases hvalue : part.text? values with
              | none =>
                  -- only a placeholder can lack a value
                  cases part with
                  | literal text => cases hvalue
                  | placeholder name =>
                      exact ⟨[], [], [], '$' :: cs, rfl, .nil, rfl,
                        .inr ⟨cs, rfl, fun line => ⟨_, .unknown hstarts hvalue⟩⟩⟩
              | some first =>
                  have hlt : rest.length < n := hstarts.length_lt.trans hshorter
                  obtain ⟨parts, text, front, back, rfl, hfront, hvalues, hback⟩ :=
                    ih _ hlt rest rfl
                  obtain ⟨begins, hbegins, hencodes⟩ := hstarts.encodes hfront
                  exact ⟨_, _, begins, back, hbegins, hencodes, contents?_cons hvalue hvalues, hback⟩
            · have hnot : ∀ part rest, ¬Starts cs part rest :=
                fun part rest h => hstarts ⟨part, rest, h⟩
              exact ⟨[], [], [], '$' :: cs, rfl, .nil, rfl,
                .inr ⟨cs, rfl, fun line => ⟨_, .malformed hnot⟩⟩⟩
          · obtain ⟨parts, text, front, back, rfl, hfront, hvalues, hback⟩ := ih _ hshorter cs rfl
            have hencodes := Encodes.literal [c] hfront
            rw [doubled_cons_of_ne hdollar] at hencodes
            exact ⟨_, _, c :: front, back, rfl, hencodes, contents?_cons rfl hvalues, hback⟩

/-- A text is written from parts with values, or a dollar sign stops the scanner. -/
theorem encodes_or_stops (values : Text → Option Text) (t : Text) :
    (∃ parts text, Encodes parts t ∧ contents? values parts = some text) ∨
      ∃ fault, Stops values t fault := by
  obtain ⟨parts, text, front, back, rfl, hfront, hvalues, rfl | ⟨rest, rfl, hoffends⟩⟩ :=
    scans values t
  · rw [List.append_nil]
    exact .inl ⟨parts, text, hfront, hvalues⟩
  · obtain ⟨fault, hfault⟩ := hoffends (1 + front.count '\n')
    exact .inr ⟨fault, .behind hfront hvalues hfault⟩

/-- A template renders exactly if it is written from parts that have values, to what the parts stand
for, one after another and as they are. It is refused exactly if a dollar sign behind such parts
starts nothing, with the number of its line, or starts a placeholder without a value, with the name
of the placeholder. -/
theorem render_encoded (values : Text → Option Text) (t : Text) :
    (∀ text, render values t = .ok text ↔
        ∃ parts, Encodes parts t ∧ contents? values parts = some text) ∧
      ∀ e, render values t = .error e ↔ ∃ fault, Stops values t fault ∧ e = .configuration fault := by
  constructor
  · intro text
    constructor
    · intro hrender
      rcases encodes_or_stops values t with ⟨parts, text', hencodes, hvalues⟩ | ⟨fault, hstops⟩
      · rw [render_of_encodes hencodes hvalues] at hrender
        cases hrender
        exact ⟨parts, hencodes, hvalues⟩
      · rw [render_of_stops hstops] at hrender
        cases hrender
    · rintro ⟨parts, hencodes, hvalues⟩
      exact render_of_encodes hencodes hvalues
  · intro e
    constructor
    · intro hrender
      rcases encodes_or_stops values t with ⟨parts, text', hencodes, hvalues⟩ | ⟨fault, hstops⟩
      · rw [render_of_encodes hencodes hvalues] at hrender
        cases hrender
      · rw [render_of_stops hstops] at hrender
        cases hrender
        exact ⟨fault, hstops, rfl⟩
    · rintro ⟨fault, hstops, rfl⟩
      exact render_of_stops hstops

/-- The value is not looked through for placeholders, and the last dollar sign starts nothing. -/
example : render (fun name => if name = "x" then some "$y" else none) "$$x is $x.\n$x$$ $" =
    .error (.configuration (.badPlaceholder 2)) := rfl

end SchemaCompiler.Template
