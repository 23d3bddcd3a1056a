import SchemaCompiler.Output.Options
import SchemaCompiler.Proofs.Requests
import SchemaCompiler.Proofs.RoundTrip.Configuration

namespace SchemaCompiler

/-! # Requests for a database are read back

The settings of a connection are written as pairs between commas, `host:…,port:…,user:…,
password:…,database:…`, in a request on a line of a makefile. The pairs may come in any order; of
several pairs with one key the last one counts, and a key without a pair has its default. Main
statements:

* `ConnectionSettings.parse_written`: written pairs are read as the settings that they say;
* `DatabaseOptions.ofRequest_written`: so is a line of a makefile that holds these pairs and a flag.
-/

/-! ## Pairs -/

/-- A setting of a connection, with its key. -/
inductive ConnectionPair where
  | host (value : Text)
  | port (value : Nat)
  | user (value : Text)
  | password (value : Text)
  | database (value : Text)
  deriving DecidableEq, Repr

namespace ConnectionPair

/-- The key of a pair. -/
def key : ConnectionPair → Text
  | host _ => "host"
  | port _ => "port"
  | user _ => "user"
  | password _ => "password"
  | database _ => "database"

/-- The value of a pair, a port in decimal digits. -/
def value : ConnectionPair → Text
  | host value | user value | password value | database value => value
  | port value => Text.ofNat value

/-- A pair as it is written. -/
def text (pair : ConnectionPair) : Text := pair.key ++ ':' :: pair.value

/-- The pair can be written among others: its value runs into no other one, and a port has sixteen
bits. -/
def Writable : ConnectionPair → Prop
  | host value | user value | password value | database value => Text.IsValue value ∧ ',' ∉ value
  | port value => value ≤ 65535

instance : DecidablePred Writable
  | host _ | user _ | password _ | database _ => inferInstanceAs (Decidable (_ ∧ _))
  | port _ => inferInstanceAs (Decidable (_ ≤ _))

theorem Writable.value {pair : ConnectionPair} (h : pair.Writable) :
    Text.IsValue pair.value ∧ ',' ∉ pair.value := by
  cases pair with
  | port n =>
      have hdigit : ∀ c : Char, c.isDigit = false → c ∉ Text.ofNat n := by
        intro c hc hmem
        rw [Text.isDigit_of_mem_ofNat hmem] at hc
        cases hc
      exact ⟨⟨⟨Text.trimmed_ofNat n, hdigit '\n' rfl⟩, hdigit ';' rfl⟩, hdigit ',' rfl⟩
  | host value => exact h
  | user value => exact h
  | password value => exact h
  | database value => exact h

theorem key_mem : ∀ pair : ConnectionPair, pair.key ∈ ConnectionSettings.keys
  | host _ => .head _
  | port _ => .tail _ (.head _)
  | user _ => .tail _ (.tail _ (.head _))
  | password _ => .tail _ (.tail _ (.tail _ (.head _)))
  | database _ => .tail _ (.tail _ (.tail _ (.tail _ (.head _))))

theorem text_ne_nil (pair : ConnectionPair) : pair.text ≠ [] := by
  rw [text]
  exact List.append_ne_nil_of_right_ne_nil _ (List.cons_ne_nil _ _)

theorem Writable.text_trimmed {pair : ConnectionPair} (h : pair.Writable) :
    Text.Trimmed pair.text := by
  have hkeys : ∀ key ∈ ConnectionSettings.keys, Text.Trimmed (key ++ [':']) := by decide
  rw [text, List.append_cons]
  exact (hkeys _ pair.key_mem).append h.value.1.trimmed

/-- A character that is in no key is in a pair only if it is in the value. -/
theorem not_mem_text {pair : ConnectionPair} {c : Char}
    (hkeys : ∀ key ∈ ConnectionSettings.keys, c ∉ key ++ [':']) (hvalue : c ∉ pair.value) :
    c ∉ pair.text := by
  rw [text, List.append_cons, List.mem_append, not_or]
  exact ⟨hkeys _ pair.key_mem, hvalue⟩

theorem Writable.comma_not_mem {pair : ConnectionPair} (h : pair.Writable) : ',' ∉ pair.text :=
  not_mem_text (by decide) h.value.2

theorem Writable.isValue_text {pair : ConnectionPair} (h : pair.Writable) :
    Text.IsValue pair.text where
  trimmed := h.text_trimmed
  newline_not_mem := not_mem_text (by decide) h.value.1.newline_not_mem
  semicolon_not_mem := not_mem_text (by decide) h.value.1.semicolon_not_mem

end ConnectionPair

/-! ## Settings -/

namespace ConnectionSettings

/-- The settings with what pairs say, the last of several pairs with one key. -/
def updated (settings : ConnectionSettings) (pairs : List ConnectionPair) :
    ConnectionSettings where
  host := (pairs.filterMap fun | .host value => some value | _ => none).getLastD settings.host
  port := (pairs.filterMap fun | .port value => some value | _ => none).getLastD settings.port
  user := (pairs.filterMap fun | .user value => some value | _ => none).getLastD settings.user
  password :=
    (pairs.filterMap fun | .password value => some value | _ => none).getLastD settings.password
  database :=
    (pairs.filterMap fun | .database value => some value | _ => none).getLastD settings.database

/-- Pairs behind another one update what that one has updated. -/
theorem updated_cons (settings : ConnectionSettings) (pair : ConnectionPair)
    (pairs : List ConnectionPair) :
    settings.updated (pair :: pairs) = (settings.updated [pair]).updated pairs := by
  cases pair <;> simp only [updated, List.filterMap_cons, List.filterMap_nil, List.getLastD_cons,
    List.getLastD_nil]

/-- A port is read from its digits. -/
theorem port?_ofNat {n : Nat} (h : n ≤ 65535) : port? (Text.ofNat n) = some n := by
  have hplus : Text.after? ['+'] (Text.ofNat n) = none := by
    cases hdigits : Text.ofNat n with
    | nil => rfl
    | cons c cs =>
        have hc : c.isDigit = true :=
          Text.isDigit_of_mem_ofNat (by rw [hdigits]; exact List.mem_cons_self)
        have hne : '+' ≠ c := by
          rintro rfl
          cases hc
        rw [Text.after?, if_neg hne]
  have hdigits : ((Text.ofNat n).all Char.isDigit) = true :=
    List.all_eq_true.2 fun c hc => Text.isDigit_of_mem_ofNat hc
  simp only [port?, hplus, Option.getD_none, Text.ofNat_ne_nil, hdigits, Text.foldl_ofNat]
  simp [h]

/-- A pair is read as the setting that it says. -/
theorem applyPair_text (settings : ConnectionSettings) {pair : ConnectionPair}
    (h : pair.Writable) : applyPair settings pair.text = .ok (settings.updated [pair]) := by
  have hkeys : ∀ key ∈ keys, ':' ∉ key := by decide
  have hvalue : pair.value.trim = pair.value := h.value.1.toInline.trim_eq
  rw [applyPair, ConnectionPair.text, Text.splitOnce_append (hkeys _ pair.key_mem)]
  simp only [hvalue]
  cases pair with
  | port n =>
    have hport : port? (ConnectionPair.port n).value = some n := port?_ofNat h
    rw [hport]
    rfl
  | host value => rfl
  | user value => rfl
  | password value => rfl
  | database value => rfl

/-- Pairs are applied one by one, each to what those ahead of it have left. -/
theorem foldlM_applyPair {pairs : List ConnectionPair} (h : ∀ pair ∈ pairs, pair.Writable)
    (settings : ConnectionSettings) :
    (pairs.map ConnectionPair.text).foldlM applyPair settings = .ok (settings.updated pairs) := by
  induction pairs generalizing settings with
  | nil => rfl
  | cons pair rest ih =>
      have hpair : pair.Writable := h pair List.mem_cons_self
      have hrest := ih fun p hp => h p (List.mem_cons_of_mem _ hp)
      rw [List.map_cons, List.foldlM_cons, applyPair_text settings hpair, ok_bind, hrest,
        updated_cons settings pair rest]

/-- Pairs as they are written, with commas in between. -/
def written (pairs : List ConnectionPair) : Text :=
  Text.join [','] (pairs.map ConnectionPair.text)

theorem isValue_written {pairs : List ConnectionPair} (h : ∀ pair ∈ pairs, pair.Writable) :
    Text.IsValue (written pairs) where
  toInline := Text.Inline.join (by decide) fun p hp => by
    obtain ⟨pair, hpair, rfl⟩ := List.mem_map.1 hp
    exact (h pair hpair).isValue_text.toInline
  semicolon_not_mem := Text.not_mem_join (by decide) fun p hp => by
    obtain ⟨pair, hpair, rfl⟩ := List.mem_map.1 hp
    exact (h pair hpair).isValue_text.semicolon_not_mem

/-- Written pairs are no URL: a text that begins with a key has no scheme. -/
theorem authority?_written (pairs : List ConnectionPair) : authority? (written pairs) = none := by
  rcases pairs with _ | ⟨pair, _ | ⟨next, rest⟩⟩
  · rfl
  · cases pair <;> rfl
  · cases pair <;> rfl

/-- Written pairs are read as the settings that they say. -/
theorem parse_written {pairs : List ConnectionPair} (h : ∀ pair ∈ pairs, pair.Writable)
    (hne : pairs ≠ []) : parse (written pairs) = .ok (default.updated pairs) := by
  have hcut : ConnectionSettings.pairs (written pairs) = pairs.map ConnectionPair.text := by
    refine args_join ?_ ?_ ?_
    all_goals
      intro p hp
      obtain ⟨pair, hpair, rfl⟩ := List.mem_map.1 hp
    · exact (h pair hpair).comma_not_mem
    · exact (h pair hpair).text_trimmed
    · exact pair.text_ne_nil
  have hwritten : written pairs ≠ [] := by
    intro hnil
    rw [hnil] at hcut
    exact hne (List.map_eq_nil_iff.1 hcut.symm)
  rw [parse, (isValue_written h).toInline.trim_eq, if_neg hwritten, authority?_written]
  show ofPairs (written pairs) = _
  rw [ofPairs, hcut, foldlM_applyPair h]

end ConnectionSettings

/-! ## Requests -/

namespace DatabaseOptions

variable {pairs : List ConnectionPair} {flag : Bool}

/-- A flag as it is written. -/
def flagText (flag : Bool) : Text := if flag then "true" else "false"

/-- The line of a makefile that requests a database,
`OUTPUT=db_create(conn=…;drop_if_exists=…)`. -/
def line (pairs : List ConnectionPair) (flag : Bool) : Text :=
  "OUTPUT=db_create(conn=".toList ++ (ConnectionSettings.written pairs ++
    (";drop_if_exists=".toList ++ (flagText flag ++ ")".toList)))

/-- The request on that line. -/
def request (pairs : List ConnectionPair) (flag : Bool) : OutputRequest where
  name := OutputKind.createDatabase.name
  args := OrderedMap.ofList
    [("conn", some (ConnectionSettings.written pairs)), ("drop_if_exists", some (flagText flag))]

theorem entries_request : (request pairs flag).args.entries =
    [("conn".toList, some (ConnectionSettings.written pairs)),
      ("drop_if_exists".toList, some (flagText flag))] := by
  have hkeys : (["conn", "drop_if_exists"] : List Text).Nodup := by decide
  exact OrderedMap.entries_ofList hkeys

theorem line_request : (request pairs flag).line = line pairs flag := by
  have hfront : "OUTPUT=db_create(conn=".toList = "OUTPUT=".toList ++
      (OutputKind.createDatabase.name ++ '(' :: ("conn".toList ++ ['='])) := rfl
  have hmiddle : ";drop_if_exists=".toList = ';' :: ("drop_if_exists".toList ++ ['=']) := rfl
  have hback : ")".toList = [')'] := rfl
  have hname : (request pairs flag).name = OutputKind.createDatabase.name := rfl
  unfold OutputRequest.line line
  rw [entries_request, hname, hfront, hmiddle, hback]
  simp only [NamedArgs.list, List.map_cons, List.map_nil, NamedArgs.piece, Text.join,
    List.append_assoc, List.cons_append, List.nil_append]

theorem wellFormed_request (h : ∀ pair ∈ pairs, pair.Writable) :
    (request pairs flag).WellFormed := by
  have hname : Text.Inline OutputKind.createDatabase.name ∧ OutputKind.createDatabase.name ≠ [] ∧
      '(' ∉ OutputKind.createDatabase.name := by decide
  have hflag : Text.IsValue (flagText flag) := by
    cases flag
    · exact (by decide : Text.IsValue (flagText false))
    · exact (by decide : Text.IsValue (flagText true))
  refine ⟨hname.1, hname.2.1, hname.2.2, ?_⟩
  rw [entries_request]
  exact (NamedArgs.wellFormed_value (by decide) (ConnectionSettings.isValue_written h)).append
    (NamedArgs.wellFormed_value (by decide) hflag)

/-- The options of the request are what its pairs and its flag say. -/
theorem ofRequest_request (h : ∀ pair ∈ pairs, pair.Writable)
    (hdatabase : (ConnectionSettings.default.updated pairs).database ≠ []) :
    ofRequest (request pairs flag) = .ok ⟨ConnectionSettings.default.updated pairs, flag⟩ := by
  have hne : pairs ≠ [] := by
    rintro rfl
    exact hdatabase rfl
  have hnamed : (ConnectionSettings.default.updated pairs).hasDatabase = true := by
    simpa [ConnectionSettings.hasDatabase] using hdatabase
  have hconn : (request pairs flag).arg? "conn" = some (ConnectionSettings.written pairs) := by
    rw [OutputRequest.arg?, NamedArgs.value?, OrderedMap.get?, entries_request]
    rfl
  have hflag : (request pairs flag).flagOr "drop_if_exists" false = flag := by
    rw [OutputRequest.flagOr, NamedArgs.flag?, OrderedMap.get?, entries_request]
    cases flag <;> rfl
  rw [ofRequest_of_arg? hconn, ConnectionSettings.parse_written h hne, ok_bind, if_pos hnamed,
    hflag]

end DatabaseOptions

/-- A request for a database is read back from the line that writes it, whether the line makes up
the makefile or stands among others. -/
theorem DatabaseOptions.ofRequest_written {pairs : List ConnectionPair} {flag : Bool}
    (hpairs : ∀ pair ∈ pairs, pair.Writable)
    (hdatabase : (ConnectionSettings.default.updated pairs).database ≠ []) :
    ∃ request : OutputRequest,
      request.name = OutputKind.createDatabase.name ∧
      ofRequest request = .ok ⟨ConnectionSettings.default.updated pairs, flag⟩ ∧
      Makefile.parse (Text.unlines [line pairs flag]) =
        .ok { Makefile.default with outputs := [request] } ∧
      ∀ (contents : Text) (front back : List Text),
        Source.trimmedLines contents = front ++ line pairs flag :: back →
        ∃ makefile, Makefile.parse contents = .ok makefile ∧
          makefile.outputs = front.filterMap Makefile.request? ++
            request :: back.filterMap Makefile.request? := by
  have hwf : (request pairs flag).WellFormed := wellFormed_request hpairs
  refine ⟨request pairs flag, rfl, ofRequest_request hpairs hdatabase, ?_, ?_⟩
  · rw [← line_request]
    exact Makefile.parse_line hwf
  · intro contents front back hline
    rw [← line_request] at hline
    exact Makefile.exists_parse_of_request? hline (Makefile.request?_line hwf)

/-- A makefile that requests a database, with two passwords of which the second holds delimiters. -/
def jobsRequestText : Text :=
  Text.unlines ["# database", "MAP=sk.dbmap",
    "OUTPUT=db_create(conn=password:x,database:jobs,password::=(')\",port:1;drop_if_exists=true)\r",
    "OUTPUT=console()"]

theorem DatabaseOptions.ofRequest_written_jobs :
    ∃ makefile request, Makefile.parse jobsRequestText = .ok makefile ∧
      makefile.outputs = [request, ⟨"console", OrderedMap.empty⟩] ∧
      ofRequest request =
        .ok ⟨⟨"localhost", 1, "postgres", ":=(')\"", "jobs"⟩, true⟩ := by
  obtain ⟨request, -, hoptions, -, hmakefile⟩ := @ofRequest_written
    [.password "x", .database "jobs", .password ":=(')\"", .port 1] true (by decide) (by decide)
  obtain ⟨makefile, hparse, houtputs⟩ := hmakefile jobsRequestText
    ["# database", "MAP=sk.dbmap"] ["OUTPUT=console()"] (by decide +kernel)
  exact ⟨makefile, request, hparse, houtputs, hoptions⟩

end SchemaCompiler
