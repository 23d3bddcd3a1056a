import SchemaCompiler.CommandLine
import SchemaCompiler.Compile
import SchemaCompiler.Text.Ansi

/-!
# The program

What a command line does, from its words to everything that is left behind: the exit code, what is
printed, the log, the report about an error, and the files.

Main definitions: `Program.compile`, `Program.check` and `Program.run`.
-/

namespace SchemaCompiler.Program

/-- Prints texts on lines of their own, up to the first one that the terminal refuses; the result is
its fault. -/
def printLines : List Text → Run (Option FileFault)
  | [] => return none
  | line :: rest => do
    match ← Run.ask (.text (line ++ ['\n'])) with
    | none => printLines rest
    | some fault => return some fault

/-! ## Commands -/

section

variable (colors : Bool)

/-- What is said about a project that has been compiled. -/
def compiledLines (db : Database) : List Text :=
  let summary : Text := "  " ++ Ansi.styled colors .greenBold "✔" ++ " Compiled " ++
    Text.ofNat db.size ++ " object(s) into " ++ Text.ofNat db.outputs.length ++ " output(s)"
  let outputs := db.outputs.map fun output => ("    " ++ Ansi.styled colors .cyan "→" ++ [' '] ++
    Ansi.styled colors .bold output.name : Text)
  [[], summary] ++ outputs ++ [[]]

/-- The kind and the name of an object. -/
def objectLine (object : Object) : Text :=
  "  " ++ Ansi.styled colors .cyan "→" ++ [' '] ++ List.rightpad 9 ' ' object.kind.label ++ [' '] ++
    Ansi.styled colors .bold object.name

/-- The names of the outputs that a project asks for. -/
def outputLines (outputs : List OutputRequest) : List Text :=
  if outputs = [] then
    [("  " ++ Ansi.styled colors .yellowDim "No outputs configured in makefile." : Text)]
  else
    outputs.map fun output => ("  " ++ Ansi.styled colors .dim "•" ++ " output " ++
      Ansi.styled colors .bold output.name : Text)

/-- What is said about a project that has been read. -/
def checkedLines (db : Database) : List Text :=
  let title : Text := "  " ++ Ansi.styled colors .cyanBoldUnderlined "Definitions"
  let summary : Text := "  " ++ Ansi.styled colors .greenBold "✔" ++ [' '] ++ Text.ofNat db.size ++
    " object(s) parsed"
  [[], title, []] ++ db.objects.map (objectLine colors) ++ [[]] ++ outputLines colors db.outputs ++
    [[], summary, []]

end

/-- Compiles a project and prints what was written. -/
def compile (config : Config) : Run (Option FileFault) := do
  let db ← Compile.compile config
  let host ← read
  printLines (compiledLines host.colors db)

/-- Reads a project and prints what it defines. -/
def check (config : Config) : Run (Option FileFault) := do
  let db ← Compile.readProject config
  let host ← read
  printLines (checkedLines host.colors db)

/-- Carries out a command. -/
def command (config : Config) : Command → Run (Option FileFault)
  | .compile => compile config
  | .check => check config

/-! ## Runs -/

/-- What a run leaves behind. -/
structure Outcome where
  /-- Zero if all went well, two if the command line was wrong, a hundred and one if the terminal
  would not take what the program has to say, one if anything else was wrong. -/
  code : Nat
  printed : Text
  log : List Text
  /-- What was reported about an error. -/
  report : Text
  files : FileTree

/-- The name and the version of the program. -/
def version : Text := "dbdef 0.1.0"

/-- How the program is used. -/
def usage : Text :=
  "dbdef - Database definition compiler\n" ++
  "\n" ++
  "Usage: dbdef [OPTIONS] <COMMAND>\n" ++
  "\n" ++
  "Commands:\n" ++
  "  compile  Compile definitions and write every output requested by the makefile\n" ++
  "  check    Parse definitions and list them without writing any output\n" ++
  "  help     Print this message\n" ++
  "\n" ++
  "Options:\n" ++
  "  -s, --source <SOURCE>      Directory holding the makefile, mapping and definition files\n" ++
  "  -o, --output <OUTPUT>      Root directory for generated files\n" ++
  "  -m, --makefile <MAKEFILE>  Makefile name, relative to the source directory\n" ++
  "  -v, --verbose              Log more; repeat for debug output\n" ++
  "  -h, --help                 Print help\n" ++
  "  -V, --version              Print version\n"

/-- Carries out what a command line asks for. -/
def invoke (host : Host) (files : FileTree) (invocation : CommandLine.Invocation) : Outcome :=
  let run := command invocation.config invocation.command
  let (result, world) := run.execute host ⟨files, [], [], []⟩
  let log := Notice.log invocation.verbosity world.notices
  match result with
  | .ok none => ⟨0, world.printed, log, [], world.files⟩
  | .ok (some fault) =>
    ⟨101, world.printed, log, "failed printing to stdout: " ++ fault.message ++ ['\n'], world.files⟩
  | .error error => ⟨1, world.printed, log, error.report, world.files⟩

/-- What comes out of a text that is printed first and last. -/
def shown (host : Host) (t : Text) : Text := (Print.mk (.text t) (host.terminal [] (.text t))).text

/-- Answers a command line that is not carried out. -/
def stop (host : Host) (files : FileTree) : CommandLine.Stop → Outcome
  | .help => ⟨0, shown host usage, [], [], files⟩
  | .version => ⟨0, shown host (version ++ ['\n']), [], [], files⟩
  | .misuse fault => ⟨2, [], [], "error: " ++ fault.message ++ "\n\n" ++ usage, files⟩

/-- What the program does, given the words of its command line. -/
def run (host : Host) (files : FileTree) (words : List Text) : Outcome :=
  match CommandLine.parse words with
  | .ok invocation => invoke host files invocation
  | .error reason => stop host files reason

end SchemaCompiler.Program
