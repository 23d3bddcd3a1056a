import SchemaCompiler.Output.Markdown
import SchemaCompiler.Output.Options
import SchemaCompiler.Run
import SchemaCompiler.Template

/-!
# Outputs

An output takes in the mapping and then one object after another, and commits at the end. Outputs
that write files, and the one that creates a database, only collect until they commit; the terminal
output prints every object as it comes.

Main definitions: `Output.create`, `Output.writeMapping`, `Output.write`, `Output.commit` and
`Output.writeDatabase`.
-/

namespace SchemaCompiler

/-- Where a run reads from and writes to. -/
structure Config where
  sourceDir : Text
  outputDir : Text
  /-- The makefile, from the source directory. -/
  makefile : Text
  deriving DecidableEq, Repr

namespace Config

/-- Everything is in the working directory. -/
def default : Config := ⟨".", ".", "makefile"⟩

/-- The source files of a run. -/
def assets (config : Config) : Assets := ⟨config.sourceDir⟩

end Config

/-- An output, with what it has collected. -/
inductive Output where
  | console (options : ConsoleOptions)
  | sqlScript (options : ScriptOptions) (dir : Text) (scripts : ScriptBook)
  | createDatabase (options : DatabaseOptions) (scripts : ScriptBook)
  | markdownDocs (options : MarkdownOptions) (assets : Assets) (path document : Text)
  | mappingCode (options : CodeOptions) (assets : Assets) (path : Text) (code : Option Text)
  deriving DecidableEq, Repr

namespace Output

/-- The output of a kind that a request asks for, before it has collected anything. -/
def ofRequest (config : Config) (kind : OutputKind) (request : OutputRequest) :
    Except Error Output :=
  match kind with
  | .console => .ok (.console (.ofRequest request))
  | .sqlScript => (ScriptOptions.ofRequest request).map fun options =>
      .sqlScript options (Path.join config.outputDir options.dir) OrderedMap.empty
  | .createDatabase => (DatabaseOptions.ofRequest request).map fun options =>
      .createDatabase options OrderedMap.empty
  | .markdownDocs =>
    let options := MarkdownOptions.ofRequest request
    .ok (.markdownDocs options config.assets
      (Path.join (Path.join config.outputDir options.dir) options.file) [])
  | .mappingCode =>
    let options := CodeOptions.ofRequest request
    .ok (.mappingCode options config.assets
      (Path.join (Path.join config.outputDir options.dir) (options.className ++ ".cs")) none)

/-- The notices about a request, before its output is made. -/
def requestNotices (kind : OutputKind) (request : OutputRequest) : List Notice :=
  ⟨.debug, "creating output",
    [("output", .quoted kind.name), ("args", .arguments request.args.entries)]⟩ ::
    (if kind = .createDatabase then DatabaseOptions.notices request else [])

/-- Makes the output of a kind that a request asks for. -/
def create (config : Config) (kind : OutputKind) (request : OutputRequest) : Run Output := do
  Run.notifyAll (requestNotices kind request)
  Run.ofResult (ofRequest config kind request)

/-- Makes the output that a request names. -/
def resolve (config : Config) (request : OutputRequest) : Run Output :=
  match OutputKind.ofName? request.name with
  | some kind => create config kind request
  | none => throw (.ofFault (.output request.name))

/-! ## Taking in -/

/-- The values of placeholders from a list, later ones winning. -/
def valuesOf (values : List (Text × Text)) (name : Text) : Option Text :=
  (OrderedMap.ofList values).get? name

/-- The values of the placeholders in a class template. -/
def codeValues (options : CodeOptions) (header : Text) (mapping : Mapping) : List (Text × Text) :=
  ("license_header", header) :: ("class_namespace_name", options.nameSpace) ::
    ("class_name", options.className) ::
    Token.all.map fun token => (token.name, mapping.value token)

/-- Takes in the mapping. -/
def writeMapping (output : Output) (mapping : Mapping) : Run Output :=
  match output with
  | .mappingCode options assets path _ => do
    let template ← Run.readAsset assets options.template
    let license ← Run.readAsset assets options.license
    let host ← read
    let header ← Run.ofResult
      (Template.render (valuesOf [("current_year", Text.ofNat host.year)]) license)
    let code ← Run.ofResult
      (Template.render (valuesOf (codeValues options header mapping)) template)
    return .mappingCode options assets path (some (code ++ ['\n']))
  | output => pure output

/-- Prints the report of an object, if the options ask for one. -/
def printReport (options : ConsoleOptions) (object : Object) : Run Unit := do
  let host ← read
  match Report.object? host.colors options object with
  | some report => Run.print report
  | none => pure ()

/-- Takes in an object. -/
def write (output : Output) (object : Object) : Run Output :=
  match output with
  | .console options => do
    printReport options object
    return .console options
  | .sqlScript options dir scripts => pure (.sqlScript options dir (ScriptBook.add scripts object))
  | .createDatabase options scripts =>
    pure (.createDatabase options (ScriptBook.add scripts object))
  | .markdownDocs options assets path document =>
    pure (.markdownDocs options assets path (document ++ Markdown.object object))
  | .mappingCode options assets path code => pure (.mappingCode options assets path code)

/-! ## Committing -/

/-- Writes collected scripts to files. -/
def commitScripts (options : ScriptOptions) (dir : Text) (scripts : ScriptBook) : Run Unit :=
  match options.mode with
  | .single => do
    scripts.entries.forM fun (name, sql) =>
      Run.writeFile (Path.join dir (options.fileName name)) sql
    Run.notify ⟨.info, "wrote sql scripts",
      [("dir", .plain dir), ("files", .number scripts.size)]⟩
  | .consolidated => do
    let path := Path.join dir options.file
    Run.writeFile path (ScriptBook.text scripts)
    Run.notify ⟨.info, "wrote sql script",
      [("path", .plain path), ("objects", .number scripts.size)]⟩

/-- Makes sure that a database exists; the result tells whether it was created. -/
def ensureDatabase (name : Text) (dropIfExists : Bool) : Run Bool := do
  let found ← Run.send (.lookUp name)
  if found && dropIfExists then
    Run.notify ⟨.info, "dropping database", [("database", .quoted name)]⟩
    let _ ← Run.send (.execute (dropDatabaseSql name))
  if found && !dropIfExists then
    Run.notify ⟨.debug, "database already exists", [("database", .quoted name)]⟩
    return false
  else
    Run.notify ⟨.info, "creating database", [("database", .quoted name)]⟩
    let _ ← Run.send (.execute (createDatabaseSql name))
    return true

/-- Runs one collected script. -/
def createObject (name sql : Text) : Run Unit := do
  Run.notify ⟨.debug, "creating object", [("object", .quoted name)]⟩
  let _ ← Run.during (.creatingObject name) (Run.send (.execute sql))

/-- Creates the database and runs the collected scripts in it. -/
def commitDatabase (options : DatabaseOptions) (scripts : ScriptBook) : Run Unit := do
  let c := options.connection
  let _ ← Run.during (.connecting c.host c.port) (Run.send (.connect c none))
  let created ← Run.during (.creatingDatabase c.database)
    (ensureDatabase c.database options.dropIfExists)
  if created then Run.notify ⟨.info, "database created", [("database", .plain c.database)]⟩
  let _ ← Run.during (.connectingTo c.database c.host c.port)
    (Run.send (.connect c (some c.database)))
  scripts.entries.forM fun (name, sql) => createObject name sql
  Run.notify ⟨.info, "database objects created",
    [("database", .plain c.database), ("objects", .number scripts.size)]⟩

/-- The text of a source file that goes into a document, empty where there is none. -/
def readFragment (assets : Assets) (path : Text) : Run Text := do
  match ← Run.readOptionalAsset assets path with
  | some t => pure t
  | none => do
    Run.notify
      ⟨.debug, "documentation fragment not found; skipping", [("path", .quoted path)]⟩
    pure []

/-- Writes collected documentation to its file. -/
def commitMarkdown (options : MarkdownOptions) (assets : Assets) (path document : Text) :
    Run Unit := do
  let header ← readFragment assets options.header
  let footer ← readFragment assets options.footer
  Run.writeFile path (Markdown.document header document footer)
  Run.notify ⟨.info, "wrote markdown docs", [("path", .plain path)]⟩

/-- Writes collected code to its file. -/
def commitCode (path : Text) : Option Text → Run Unit
  | none => Run.notify ⟨.debug, "no mapping written; skipping mapping code", []⟩
  | some code => do
    Run.writeFile path code
    Run.notify ⟨.info, "wrote mapping code", [("path", .plain path)]⟩

/-- Finishes an output with what it has collected. -/
def commit : Output → Run Unit
  | .console _ => Run.flush
  | .sqlScript options dir scripts => commitScripts options dir scripts
  | .createDatabase options scripts => commitDatabase options scripts
  | .markdownDocs options assets path document => commitMarkdown options assets path document
  | .mappingCode _ _ path code => commitCode path code

/-- Takes in a whole database and commits: the mapping, then every sequence, table and function. -/
def writeDatabase (output : Output) (db : Database) : Run Unit := do
  let output ← output.writeMapping db.mapping
  let output ← db.objects.foldlM write output
  output.commit

end Output

end SchemaCompiler
