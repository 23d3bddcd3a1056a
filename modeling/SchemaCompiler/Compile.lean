import SchemaCompiler.Mapping.Source
import SchemaCompiler.Object.Definition
import SchemaCompiler.Output.Basic

/-!
# Compilation

A project is read in a fixed order: its makefile, its mapping, and its definition files in the order
of their paths. Then every requested output is made before any of them is written, so a request that
cannot be met leaves nothing half done.

Main definitions: `Compile.readProject`, `Compile.writeOutputs` and `Compile.compile`.
-/

namespace SchemaCompiler.Compile

/-- Reads the makefile. -/
def readMakefile (config : Config) : Run Makefile := do
  let contents ← Run.readAsset config.assets config.makefile
  let makefile ← Run.ofResult
    (during (.readingMakefile config.makefile) (Makefile.parse contents))
  Run.notifyAll (Makefile.notices contents)
  Run.notify ⟨.info, "read makefile",
    [("makefile", .plain config.makefile), ("outputs", .number makefile.outputs.length)]⟩
  return makefile

/-- Reads the mapping. -/
def readMapping (config : Config) (makefile : Makefile) : Run Mapping := do
  let contents ← Run.readAsset config.assets makefile.mappingFile
  Run.notifyAll (Mapping.notices contents)
  Run.notify ⟨.info, "read mapping", [("mapping", .plain makefile.mappingFile)]⟩
  return Mapping.parse contents

/-- Finds the definition files, of which there must be some. -/
def findDefinitions (config : Config) (makefile : Makefile) : Run (List Text) := do
  let files ← Run.discoverAssets config.assets makefile.definitions
  if files = [] then throw (.configuration (.noDefinitions makefile.definitions))
  Run.notify ⟨.info, "discovered definition files",
    [("count", .number files.length), ("pattern", .plain makefile.definitions)]⟩
  return files

/-- The object that the contents of a definition file describe. -/
def parseDefinition (mapping : Mapping) (file contents : Text) : Except Error Object :=
  match Object.sniff? contents with
  | some kind => during (.parsingFile file) (Object.parse mapping kind contents)
  | none => .error (.ofFault (.objectKind ((Source.firstLine? contents).getD []) file))

/-- The notices about the contents of a definition file. -/
def definitionNotices (mapping : Mapping) (contents : Text) : List Notice :=
  match Object.sniff? contents with
  | some kind => Object.notices mapping kind contents
  | none => []

/-- Reads a definition file. -/
def readDefinition (config : Config) (mapping : Mapping) (file : Text) : Run Object := do
  let contents ← Run.readAsset config.assets file
  Run.notifyAll (definitionNotices mapping contents)
  let object ← Run.ofResult (parseDefinition mapping file contents)
  Run.notify ⟨.debug, "parsed definition",
    [("file", .plain file), ("ty", .quoted object.kind.label), ("name", .quoted object.name)]⟩
  return object

/-- Reads a whole project. -/
def readProject (config : Config) : Run Database := do
  let makefile ← readMakefile config
  let mapping ← readMapping config makefile
  let files ← findDefinitions config makefile
  let objects ← files.mapM (readDefinition config mapping)
  return .ofObjects mapping makefile.outputs objects

/-- Makes every output that is requested, in the order of the makefile. -/
def resolveOutputs (config : Config) (db : Database) : Run (List Output) :=
  db.outputs.mapM (Output.resolve config)

/-- Writes an output that has been made. -/
def writeOutput (db : Database) (request : OutputRequest) (output : Output) : Run Unit := do
  Run.during (.writingOutput request.name) (output.writeDatabase db)
  Run.notify ⟨.info, "output committed", [("output", .plain request.name)]⟩

/-- Writes every output that is requested, of which there must be some. -/
def writeOutputs (config : Config) (db : Database) : Run Unit := do
  if db.outputs = [] then throw (.configuration .noOutputs)
  let outputs ← resolveOutputs config db
  (db.outputs.zip outputs).forM fun (request, output) => writeOutput db request output

/-- Reads a project and writes its outputs. -/
def compile (config : Config) : Run Database := do
  let db ← readProject config
  writeOutputs config db
  return db

end SchemaCompiler.Compile
