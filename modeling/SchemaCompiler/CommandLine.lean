import SchemaCompiler.Output.Basic

/-!
# Command lines

The words of a command line name a command and give its options. They are read one after another;
the first one that asks for help or the version, or that cannot be right, ends the reading.

An option is a letter behind a dash or a name behind two. Letters without a value may share a dash;
what follows a letter with a value is its value. Behind a word of two dashes no word is an option,
so none is right.

Main definitions: `CommandLine.Progress`, `CommandLine.step` and `CommandLine.parse`.
-/

namespace SchemaCompiler

/-- What the program can be told to do. -/
inductive Command where
  /-- Read a project and write its outputs. -/
  | compile
  /-- Read a project and list what it defines. -/
  | check
  deriving DecidableEq, Repr

namespace Command

/-- Every command. -/
def all : List Command := [.compile, .check]

/-- The word for a command. -/
def name : Command → Text
  | compile => "compile"
  | check => "check"

/-- The command of a word. -/
def ofName? (name : Text) : Option Command := all.find? fun command => command.name = name

end Command

namespace CommandLine

/-- An option that has a value. -/
inductive Setting where
  | sourceDir
  | outputDir
  | makefile
  deriving DecidableEq, Repr

namespace Setting

/-- Every option that has a value. -/
def all : List Setting := [.sourceDir, .outputDir, .makefile]

/-- The name behind two dashes. -/
def name : Setting → Text
  | sourceDir => "source"
  | outputDir => "output"
  | makefile => "makefile"

/-- The letter behind a dash. -/
def letter : Setting → Char
  | sourceDir => 's'
  | outputDir => 'o'
  | makefile => 'm'

/-- Directories are never empty text; a name may be. -/
def allowsEmpty : Setting → Bool
  | makefile => true
  | _ => false

end Setting

/-- An option without a value. -/
inductive Flag where
  | verbose
  | help
  | version
  deriving DecidableEq, Repr

namespace Flag

/-- Every option without a value. -/
def all : List Flag := [.verbose, .help, .version]

/-- The name behind two dashes. -/
def name : Flag → Text
  | verbose => "verbose"
  | help => "help"
  | version => "version"

/-- The letter behind a dash. -/
def letter : Flag → Char
  | verbose => 'v'
  | help => 'h'
  | version => 'V'

end Flag

/-- Why a command line cannot be right. -/
inductive Misuse where
  | missingCommand
  | unknownCommand (word : Text)
  | unexpected (word : Text)
  | missingValue (setting : Setting)
  | emptyValue (setting : Setting)
  | repeated (setting : Setting)
  | unexpectedValue (flag : Flag)
  deriving DecidableEq, Repr

/-- The fault in words. -/
def Misuse.message : Misuse → Text
  | missingCommand => "a command is required"
  | unknownCommand word => "unrecognized command '" ++ word ++ "'"
  | unexpected word => "unexpected argument '" ++ word ++ "'"
  | missingValue setting => "a value is required for '--" ++ setting.name ++ "'"
  | emptyValue setting => "an empty value is not allowed for '--" ++ setting.name ++ "'"
  | repeated setting => "the argument '--" ++ setting.name ++ "' cannot be used multiple times"
  | unexpectedValue flag => "no value is allowed for '--" ++ flag.name ++ "'"

/-- What ends the reading of a command line before anything is run. -/
inductive Stop where
  | help
  | version
  | misuse (fault : Misuse)
  deriving DecidableEq, Repr

/-- What a command line asks to be run. -/
structure Invocation where
  command : Command
  config : Config
  /-- How often more was asked for in the log. -/
  verbosity : Nat
  deriving DecidableEq, Repr

/-! ## Words -/

/-- A word by its dashes. -/
inductive Word where
  | plain (t : Text)
  /-- Two dashes and nothing else. -/
  | separator
  /-- A name behind two dashes, with what follows an equals sign. -/
  | long (name : Text) (value : Option Text)
  /-- Letters behind one dash. -/
  | short (letters : Text)
  deriving DecidableEq, Repr

/-- The word that a text is; a dash alone is plain. -/
def Word.ofText : Text → Word
  | ['-', '-'] => .separator
  | '-' :: '-' :: t => match Text.splitOnce '=' t with
    | some (name, value) => .long name (some value)
    | none => .long t none
  | ['-'] => .plain ['-']
  | '-' :: t => .short t
  | t => .plain t

/-! ## Reading -/

/-- Where in a command line the next word stands. -/
inductive Stage where
  /-- Before any command. -/
  | start
  /-- Behind a command. -/
  | options (command : Command)
  /-- Behind the word `help`, with or without the command that it asks about. -/
  | help (asked : Bool)
  deriving DecidableEq, Repr

/-- What the words so far have said. -/
structure Progress where
  stage : Stage
  /-- How often more was asked for before the command. -/
  outerVerbosity : Nat
  /-- How often more was asked for behind the command. -/
  innerVerbosity : Nat
  given : Setting → Option Text
  /-- The option whose value has to be next. -/
  awaiting : Option Setting
  /-- A word of two dashes has been read. -/
  closed : Bool

namespace Progress

/-- Nothing has been said. -/
def initial : Progress := ⟨.start, 0, 0, fun _ => none, none, false⟩

/-- Gives an option its value. -/
def give (progress : Progress) (setting : Setting) (value : Text) : Except Stop Progress :=
  if (progress.given setting).isSome then .error (.misuse (.repeated setting))
  else if value = [] ∧ !setting.allowsEmpty then .error (.misuse (.emptyValue setting))
  else .ok { progress with
    given := fun s => if s = setting then some value else progress.given s
    awaiting := none }

/-- Raises an option without a value. -/
def raise (progress : Progress) : Flag → Except Stop Progress
  | .help => .error .help
  | .version => .error .version
  | .verbose => .ok <| match progress.stage with
    | .start => { progress with outerVerbosity := progress.outerVerbosity + 1 }
    | _ => { progress with innerVerbosity := progress.innerVerbosity + 1 }

/-- The options with a value that may stand here: behind a command only. -/
def settings (progress : Progress) : List Setting :=
  match progress.stage with
  | .options _ => Setting.all
  | _ => []

/-- The options without a value that may stand here; the version is asked for without a command. -/
def flags (progress : Progress) : List Flag :=
  match progress.stage with
  | .start => Flag.all
  | _ => Flag.all.filter (· ≠ .version)

/-- Fails if a value has to be next. -/
def requireNoValue (progress : Progress) : Except Stop Unit :=
  match progress.awaiting with
  | some setting => .error (.misuse (.missingValue setting))
  | none => .ok ()

/-- Reads a name behind two dashes. -/
def long (progress : Progress) (name : Text) (value : Option Text) : Except Stop Progress :=
  match progress.flags.find? fun flag => flag.name = name with
  | some flag => if value.isSome then .error (.misuse (.unexpectedValue flag))
      else progress.raise flag
  | none => match progress.settings.find? fun setting => setting.name = name with
    | some setting => match value with
      | some value => progress.give setting value
      | none => .ok { progress with awaiting := some setting }
    | none => .error (.misuse (.unexpected ("--" ++ name)))

/-- Reads letters behind one dash. -/
def short (progress : Progress) : Text → Except Stop Progress
  | [] => .ok progress
  | c :: cs => match progress.flags.find? fun flag => flag.letter = c with
    | some flag => do (← progress.raise flag).short cs
    | none => match progress.settings.find? fun setting => setting.letter = c with
      | some setting => match cs with
        | [] => .ok { progress with awaiting := some setting }
        | '=' :: value => progress.give setting value
        | value => progress.give setting value
      | none => .error (.misuse (.unexpected ['-', c]))

/-- Reads a word without a dash. -/
def plain (progress : Progress) (t : Text) : Except Stop Progress :=
  match progress.awaiting with
  | some setting => progress.give setting t
  | none => match progress.stage with
    | .start =>
      if t = "help".toList then .ok { progress with stage := .help false }
      else match Command.ofName? t with
        | some command => .ok { progress with stage := .options command }
        | none => .error (.misuse (.unknownCommand t))
    | _ => .error (.misuse (.unexpected t))

/-- The value of an option, given or default. -/
def valueOr (progress : Progress) (setting : Setting) (default : Text) : Text :=
  (progress.given setting).getD default

/-- Where the run reads from and writes to. -/
def config (progress : Progress) : Config where
  sourceDir := progress.valueOr .sourceDir Config.default.sourceDir
  outputDir := progress.valueOr .outputDir Config.default.outputDir
  makefile := progress.valueOr .makefile Config.default.makefile

/-- How often more was asked for; what stands behind the command counts before the rest. -/
def verbosity (progress : Progress) : Nat :=
  if progress.innerVerbosity = 0 then progress.outerVerbosity else progress.innerVerbosity

end Progress

/-- Reads a word. -/
def step (progress : Progress) (word : Text) : Except Stop Progress :=
  if progress.closed then .error (.misuse (.unexpected word))
  else match progress.stage with
    | .help asked =>
      if !asked && (word = "help".toList || (Command.ofName? word).isSome) then
        .ok { progress with stage := .help true }
      else .error (.misuse (.unknownCommand word))
    | _ => match Word.ofText word with
      | .plain t => progress.plain t
      | .separator => do
        progress.requireNoValue
        return { progress with closed := true }
      | .long name value => do
        progress.requireNoValue
        progress.long name value
      | .short letters => do
        progress.requireNoValue
        progress.short letters

/-- What all words together ask for. -/
def finish (progress : Progress) : Except Stop Invocation :=
  match progress.awaiting with
  | some setting => .error (.misuse (.missingValue setting))
  | none => match progress.stage with
    | .start => .error (.misuse .missingCommand)
    | .help _ => .error .help
    | .options command => .ok ⟨command, progress.config, progress.verbosity⟩

/-- What a command line asks for. -/
def parse (words : List Text) : Except Stop Invocation :=
  words.foldlM step Progress.initial >>= finish

end CommandLine

end SchemaCompiler
