import Mathlib
import SchemaCompiler.Proofs.SentActions
import SchemaCompiler.Proofs.Text

namespace SchemaCompiler

/-! # Names in statements

The database reads a word outside quotes in lower case, and a name between quotes as it stands, with
a doubled quote for a single one. Main statements:

* `Sql.lexemes?_words`: keywords with blanks behind them are read one by one;
* `Sql.lexemes?_quoteName`: a name is read back as a single piece, whether it needs quotes or not;
* `Sql.lexemes?_of_database`: so whatever a database is called, a statement about it names it behind
  the keywords and says nothing else.
-/

/-! ## How statements are read -/

namespace Sql

/-- A piece of a statement, as it is read. -/
inductive Lexeme where
  /-- A word outside quotes, in lower case. -/
  | word (name : Text)
  /-- A name between quotes. -/
  | quoted (name : Text)
  /-- Any other character, blanks apart. -/
  | mark (c : Char)
  deriving DecidableEq, Repr

/-- The name that a piece stands for. -/
def Lexeme.name? : Lexeme → Option Text
  | word name => some name
  | quoted name => some name
  | mark _ => none

/-- What may stand between pieces without a meaning. -/
def isSpace (c : Char) : Bool := [' ', '\t', '\n', '\r', '\x0b', '\x0c'].contains c

/-- What a word begins with: an underscore or a letter, which everything outside ASCII counts as. -/
def beginsWord (c : Char) : Bool := c.isAlpha || c == '_' || decide (128 ≤ c.toNat)

/-- What a word goes on with. -/
def continuesWord (c : Char) : Bool := beginsWord c || c.isDigit || c == '$'

/-- How far the reading of a piece has come. -/
inductive Reading where
  /-- No piece has begun. -/
  | between
  /-- Inside a word. -/
  | word (read : Text)
  /-- Inside quotes. -/
  | quoted (read : Text)
  /-- Behind a quote, which ends the name unless a second one follows. -/
  | closing (read : Text)
  deriving DecidableEq, Repr

namespace Reading

/-- What has been read when a piece ends here. Quotes must be closed, and around something. -/
def ended? : Reading → Option (List Lexeme)
  | between => some []
  | word read => some [.word read]
  | quoted _ => none
  | closing read => if read = [] then none else some [.quoted read]

/-- The reading that goes on with the same piece. -/
def continued? : Reading → Char → Option Reading
  | between, _ => none
  | word read, c => if continuesWord c then some (.word (read ++ [c.toLower])) else none
  | quoted read, c => some (if c = '"' then .closing read else .quoted (read ++ [c]))
  | closing read, c => if c = '"' then some (.quoted (read ++ ['"'])) else none

/-- What a character begins that does not go on with a piece, and what is read at once. -/
def begun (c : Char) : List Lexeme × Reading :=
  if c = '"' then ([], .quoted [])
  else if beginsWord c then ([], .word [c.toLower])
  else if isSpace c then ([], .between)
  else ([.mark c], .between)

end Reading

/-- The pieces of the rest of a statement. No statement holds the character of number zero. -/
def lexemesFrom? (reading : Reading) : Text → Option (List Lexeme)
  | [] => reading.ended?
  | c :: cs =>
    if c = '\x00' then none
    else match reading.continued? c with
      | some next => lexemesFrom? next cs
      | none => do
        let ended ← reading.ended?
        let rest ← lexemesFrom? (Reading.begun c).2 cs
        pure (ended ++ (Reading.begun c).1 ++ rest)

/-- The pieces of a statement. -/
def lexemes? (sql : Text) : Option (List Lexeme) := lexemesFrom? .between sql

/-! ## Words -/

theorem beginsWord_ne {c : Char} (h : beginsWord c = true) : c ≠ '\x00' ∧ c ≠ '"' := by
  constructor
  · rintro rfl
    exact absurd h (by decide)
  · rintro rfl
    exact absurd h (by decide)

theorem continuesWord_ne_null {c : Char} (h : continuesWord c = true) : c ≠ '\x00' := by
  rintro rfl
  exact absurd h (by decide)

/-- Inside a word, everything that a word goes on with belongs to it. -/
theorem lexemesFrom?_word {w : Text} (h : ∀ c ∈ w, continuesWord c = true) (read rest : Text) :
    lexemesFrom? (.word read) (w ++ rest) = lexemesFrom? (.word (read ++ w.lowerAscii)) rest := by
  induction w generalizing read with
  | nil => simp [Text.lowerAscii]
  | cons c cs ih =>
      have hc : continuesWord c = true := h c List.mem_cons_self
      have hnext : (Reading.word read).continued? c = some (.word (read ++ [c.toLower])) :=
        if_pos hc
      have hcs := ih (fun d hd => h d (List.mem_cons_of_mem _ hd)) (read ++ [c.toLower])
      rw [List.cons_append, lexemesFrom?, if_neg (continuesWord_ne_null hc), hnext]
      simpa [Text.lowerAscii] using hcs

/-- The word begins as one and goes on as one. -/
def IsWord : Text → Prop
  | [] => False
  | c :: cs => beginsWord c = true ∧ ∀ d ∈ cs, continuesWord d = true

-- The instance is named: a search may decide `∀ d ∈ cs` by going through all characters.
instance : DecidablePred IsWord
  | [] => instDecidableFalse
  | _ :: _ => @instDecidableAnd _ _ _ (List.decidableBAll _ _)

/-- A word is read from its first character. -/
theorem lexemes?_word {w : Text} (h : IsWord w) (rest : Text) :
    lexemes? (w ++ rest) = lexemesFrom? (.word w.lowerAscii) rest := by
  cases w with
  | nil => exact absurd h id
  | cons c cs =>
      obtain ⟨hc, hcs⟩ := h
      obtain ⟨hnull, hquote⟩ := beginsWord_ne hc
      have hbegun : Reading.begun c = ([], .word [c.toLower]) := by
        rw [Reading.begun, if_neg hquote, if_pos hc]
      have hword := lexemesFrom?_word hcs [c.toLower] rest
      rw [List.cons_append, lexemes?, lexemesFrom?, if_neg hnull]
      simp [Reading.continued?, Reading.ended?, hbegun, hword, Text.lowerAscii]

/-- A blank ends a word. -/
theorem lexemes?_word_blank {w : Text} (h : IsWord w) (rest : Text) :
    lexemes? (w ++ ' ' :: rest) = (lexemes? rest).map (.word w.lowerAscii :: ·) := by
  have hcontinued : ∀ read, (Reading.word read).continued? ' ' = none := fun _ => rfl
  have hbegun : Reading.begun ' ' = ([], .between) := by decide
  rw [lexemes?_word h, lexemesFrom?, if_neg (by decide), hcontinued]
  simp only [Reading.ended?, hbegun, lexemes?]
  cases lexemesFrom? .between rest <;> rfl

/-- Words with a blank behind each are read one by one. -/
theorem lexemes?_words (words : List Text) (h : ∀ w ∈ words, IsWord w) (rest : Text) :
    lexemes? (words.flatMap (· ++ [' ']) ++ rest) =
      (lexemes? rest).map (words.map (.word ·.lowerAscii) ++ ·) := by
  induction words with
  | nil => simp
  | cons w ws ih =>
      have hw : IsWord w := h w List.mem_cons_self
      have hws := ih fun v hv => h v (List.mem_cons_of_mem _ hv)
      have hcons : (w :: ws).flatMap (· ++ [' ']) ++ rest =
          w ++ ' ' :: (ws.flatMap (· ++ [' ']) ++ rest) := by simp
      rw [hcons, lexemes?_word_blank hw, hws, Option.map_map]
      rfl

/-! ## Quotes -/

theorem lexemes?_quote (rest : Text) : lexemes? ('"' :: rest) = lexemesFrom? (.quoted []) rest := by
  have hbegun : Reading.begun '"' = ([], .quoted []) := by decide
  rw [lexemes?, lexemesFrom?, if_neg (by decide)]
  simp [Reading.continued?, Reading.ended?, hbegun]

/-- Inside quotes, every character belongs to the name, quotes doubled. -/
theorem lexemesFrom?_quoted {name : Text} (h : '\x00' ∉ name) (read rest : Text) :
    lexemesFrom? (.quoted read)
        (name.flatMap (fun c => if c = '"' then ['"', '"'] else [c]) ++ rest) =
      lexemesFrom? (.quoted (read ++ name)) rest := by
  induction name generalizing read with
  | nil => simp
  | cons c cs ih =>
      rw [List.mem_cons, not_or] at h
      have hcs := ih h.2 (read ++ [c])
      rw [List.append_assoc, List.singleton_append] at hcs
      rw [List.flatMap_cons, List.append_assoc, ← hcs]
      by_cases hc : c = '"'
      · -- the first quote may close the name, and the second one tells that it does not
        subst hc
        rfl
      · rw [if_neg hc, List.singleton_append, lexemesFrom?, if_neg (Ne.symm h.1)]
        simp [Reading.continued?, hc]

/-- The characters of a plain name make a word and are left alone by lower case. -/
theorem isWord_of_isPlainName {name : Text} (h : isPlainName name = true) :
    IsWord name ∧ name.lowerAscii = name := by
  unfold isPlainName at h
  rw [Bool.and_eq_true, List.all_eq_true] at h
  obtain ⟨hfirst, hall⟩ := h
  have hchar : ∀ c ∈ name, continuesWord c = true ∧ c.toLower = c := by
    intro c hc
    have hplain := hall c hc
    rw [Bool.or_eq_true, Bool.or_eq_true, beq_iff_eq] at hplain
    rcases hplain with (hlower | hdigit) | rfl
    · have hupper : ¬c.isUpper = true := Char.not_isUpper_of_isLower hlower
      exact ⟨by simp [continuesWord, beginsWord, Char.isAlpha, hlower],
        Char.toLower_eq_of_not_isUpper hupper⟩
    · have hupper : ¬c.isUpper = true := by
        intro hupper
        simp [Char.isUpper, Char.isDigit, UInt32.le_iff_toNat_le] at hupper hdigit
        omega
      exact ⟨by simp [continuesWord, hdigit], Char.toLower_eq_of_not_isUpper hupper⟩
    · exact ⟨by decide, by decide⟩
  constructor
  · cases name with
    | nil => exact absurd hfirst Bool.false_ne_true
    | cons c cs =>
        refine ⟨?_, fun d hd => (hchar d (List.mem_cons_of_mem _ hd)).1⟩
        rw [Bool.or_eq_true, beq_iff_eq] at hfirst
        rcases hfirst with hlower | rfl
        · simp [beginsWord, Char.isAlpha, hlower]
        · decide
  · rw [Text.lowerAscii, List.map_congr_left fun c hc => (hchar c hc).2, List.map_id']

/-- A name is read back as a single piece. -/
theorem lexemes?_quoteName {name : Text} (hne : name ≠ []) (hnull : '\x00' ∉ name) :
    ∃ lexeme : Lexeme, lexemes? (quoteName name) = some [lexeme] ∧ lexeme.name? = some name := by
  rw [quoteName]
  split
  · rename_i hplain
    obtain ⟨hword, hlower⟩ := isWord_of_isPlainName hplain
    have hread := lexemes?_word hword []
    rw [List.append_nil, hlower] at hread
    exact ⟨.word name, hread, rfl⟩
  · have hquoted := lexemesFrom?_quoted hnull [] ['"']
    have hclosed : lexemesFrom? (.quoted name) ['"'] = some [.quoted name] := by
      simp [lexemesFrom?, Reading.continued?, Reading.ended?, hne]
    refine ⟨.quoted name, ?_, rfl⟩
    rw [List.nil_append, hclosed] at hquoted
    rw [List.cons_append, lexemes?_quote]
    exact hquoted

/-! ## Statements about databases -/

/-- Whatever a database is called, the statements that are sent to make sure of it are read as their
keywords and, behind these, one piece that is the name. -/
theorem lexemes?_of_database {name : Text} (hne : name ≠ []) (hnull : '\x00' ∉ name) :
    ∃ lexeme : Lexeme, lexeme.name? = some name ∧
      lexemes? (dropDatabaseSql name) =
        some [.word "drop", .word "database", .word "if", .word "exists", lexeme] ∧
      lexemes? (createDatabaseSql name) = some [.word "create", .word "database", lexeme] ∧
      ∀ dropIfExists, (Output.ensureDatabase name dropIfExists).Sends fun action =>
        action ∈ [.lookUp name, .execute (dropDatabaseSql name),
          .execute (createDatabaseSql name)] := by
  obtain ⟨lexeme, hread, hname⟩ := lexemes?_quoteName hne hnull
  refine ⟨lexeme, hname, ?_, ?_, ?_⟩
  · have hwords := lexemes?_words ["DROP", "DATABASE", "IF", "EXISTS"] (by decide) (quoteName name)
    rw [hread] at hwords
    exact hwords
  · have hwords := lexemes?_words ["CREATE", "DATABASE"] (by decide) (quoteName name)
    rw [hread] at hwords
    exact hwords
  · exact Output.sends_ensureDatabase List.mem_cons_self
      (List.mem_cons_of_mem _ List.mem_cons_self)
      (List.mem_cons_of_mem _ (List.mem_cons_of_mem _ List.mem_cons_self))

/-- A name that ends its quotes, if they are not doubled, and goes on with a statement. -/
def hostileName : Text := "Jobs\"; drop table jobs --\""

theorem lexemes?_of_database_hostile :
    hostileName ≠ [] ∧ '\x00' ∉ hostileName ∧
      ∃ lexeme : Lexeme, lexeme.name? = some "Jobs\"; drop table jobs --\"".toList ∧
        lexemes? "CREATE DATABASE \"Jobs\"\"; drop table jobs --\"\"\"" =
          some [.word "create", .word "database", lexeme] := by
  have hne : hostileName ≠ [] := by decide
  have hnull : '\x00' ∉ hostileName := by decide
  obtain ⟨lexeme, hname, -, hcreate, -⟩ := lexemes?_of_database hne hnull
  exact ⟨hne, hnull, lexeme, hname, hcreate⟩

end Sql

end SchemaCompiler
