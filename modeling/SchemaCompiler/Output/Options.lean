import SchemaCompiler.Connection.Settings
import SchemaCompiler.Makefile
import SchemaCompiler.Output.Report

/-!
# Outputs and their options

The five outputs that a makefile can request, and how each reads its arguments. A text that is
absent or empty means its default, and a flag that is absent likewise; a mode or a connection counts
as it is given, also when it is empty.
-/

namespace SchemaCompiler

/-- The outputs. -/
inductive OutputKind where
  | console
  | sqlScript
  | createDatabase
  | markdownDocs
  | mappingCode
  deriving DecidableEq, Repr

namespace OutputKind

/-- Every output. -/
def all : List OutputKind := [.console, .sqlScript, .createDatabase, .markdownDocs, .mappingCode]

/-- The name by which a makefile requests the output. -/
def name : OutputKind → Text
  | console => "console"
  | sqlScript => "sql_script"
  | createDatabase => "db_create"
  | markdownDocs => "markdown_docs"
  | mappingCode => "mapping_code"

/-- The output of a name. -/
def ofName? (name : Text) : Option OutputKind := all.find? fun kind => kind.name = name

end OutputKind

/-! ## Scripts -/

/-- How scripts are divided into files. -/
inductive ScriptMode where
  /-- A file for each name. -/
  | single
  /-- One file for everything. -/
  | consolidated
  deriving DecidableEq, Repr

namespace ScriptMode

/-- The mode that a word names. -/
def ofText? (t : Text) : Option ScriptMode :=
  if t = "single".toList then some .single
  else if t = "consolidated".toList then some .consolidated
  else none

/-- The file that a mode writes when none is given. -/
def defaultFile : ScriptMode → Text
  | single => "$db_object$.sql"
  | consolidated => "sk_db.sql"

end ScriptMode

/-- The options of the script output. -/
structure ScriptOptions where
  mode : ScriptMode
  /-- The directory, from the output directory. -/
  dir : Text
  /-- The file name, which may hold a placeholder for the object. -/
  file : Text
  deriving DecidableEq, Repr

namespace ScriptOptions

/-- The options of a request without arguments. -/
def default : ScriptOptions := ⟨.single, [], ScriptMode.single.defaultFile⟩

/-- What stands for the name of the object in a file name. -/
def placeholder : Text := "$db_object$"

/-- The file of an object. -/
def fileName (options : ScriptOptions) (object : Text) : Text :=
  options.file.replaceAll placeholder object

/-- The options of a request. A mode that is given must be known. -/
def ofRequest (request : OutputRequest) : Except Error ScriptOptions := do
  let mode ← match request.arg? "mode" with
    | none => pure default.mode
    | some word => match ScriptMode.ofText? word with
      | some mode => pure mode
      | none => throw (.configuration (.unknownScriptMode word))
  return {
    mode,
    dir := request.argOr "dir" default.dir,
    file := request.argOr "file" mode.defaultFile }

end ScriptOptions

/-! ## Documentation -/

/-- The options of the documentation output. -/
structure MarkdownOptions where
  /-- The directory, from the output directory. -/
  dir : Text
  file : Text
  /-- The source file placed before the documentation. -/
  header : Text
  /-- The source file placed behind the documentation. -/
  footer : Text
  deriving DecidableEq, Repr

namespace MarkdownOptions

/-- The options of a request without arguments. -/
def default : MarkdownOptions :=
  ⟨[], "README-DB.md", "parts/readme_db_header.md", "parts/readme_db_footer.md"⟩

/-- The options of a request. -/
def ofRequest (request : OutputRequest) : MarkdownOptions where
  dir := request.argOr "dir" default.dir
  file := request.argOr "file" default.file
  header := request.argOr "header" default.header
  footer := request.argOr "footer" default.footer

end MarkdownOptions

/-! ## Mapping code -/

/-- The options of the mapping code output. -/
structure CodeOptions where
  /-- The directory, from the output directory. -/
  dir : Text
  /-- The name space of the class. -/
  nameSpace : Text
  /-- The name of the class, and of its file. -/
  className : Text
  /-- The source file that holds the template of the class. -/
  template : Text
  /-- The source file that holds the template of the licence header. -/
  license : Text
  deriving DecidableEq, Repr

namespace CodeOptions

/-- The options of a request without arguments. -/
def default : CodeOptions :=
  ⟨"Model", "LVD.Stakhanovise.NET.Model", "QueuedTaskMapping",
   "templates/queued_task_mapping.cstemplate", "templates/license_header.cstemplate"⟩

/-- The options of a request. -/
def ofRequest (request : OutputRequest) : CodeOptions where
  dir := request.argOr "dir" default.dir
  nameSpace := request.argOr "ns" default.nameSpace
  className := request.argOr "cls" default.className
  template := request.argOr "template" default.template
  license := request.argOr "license" default.license

end CodeOptions

/-! ## Databases -/

/-- The options of the database output. -/
structure DatabaseOptions where
  connection : ConnectionSettings
  /-- A database of the same name is dropped first. -/
  dropIfExists : Bool
  deriving DecidableEq, Repr

namespace DatabaseOptions

/-- The options of a request, whose connection must name a database. -/
def ofRequest (request : OutputRequest) : Except Error DatabaseOptions := do
  let some text := request.arg? "conn" | throw (.configuration .noConnection)
  let connection ← ConnectionSettings.parse text
  if !connection.hasDatabase then throw (.configuration .noDatabase)
  return { connection, dropIfExists := request.flagOr "drop_if_exists" false }

/-- The notices about the connection of a request. -/
def notices (request : OutputRequest) : List Notice :=
  match request.arg? "conn" with
  | none => []
  | some text => ConnectionSettings.notices text

end DatabaseOptions

end SchemaCompiler
