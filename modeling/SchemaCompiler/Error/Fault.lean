import SchemaCompiler.Connection.Url
import SchemaCompiler.Glob.Pattern
import SchemaCompiler.Object.Kind

/-!
# Faults

What can go wrong, as causes; the wording of each cause is given once, by `message`. A fault belongs
to at most one category, which is what callers can ask about (`Fault.category?`).
-/

namespace SchemaCompiler

/-- Why a definition file describes no object. -/
inductive DefinitionFault where
  /-- A name line without a name. -/
  | blankName
  /-- A line with nothing before its first separator. -/
  | emptyLine (marker : Marker)
  /-- A first line of another kind, or none. -/
  | wrongFirstLine (expected : ObjectKind) (found : Option Text)
  /-- No name line at all. -/
  | nameless (kind : ObjectKind)
  | constraintWithoutColumns (name : Text)
  | indexWithoutColumns (name : Text)
  | unknownSortOrder (column order : Text)
  | namelessParameter
  | unknownDirection (parameter direction : Text)
  | untypedReturn
  | untypedReturnColumn (column : Text)
  /-- A function body without its closing line. -/
  | openBody
  /-- Any other fault, in words. -/
  | other (message : Text)
  deriving DecidableEq, Repr

/-- The line that opens a function body. -/
def bodyOpening : Text := "BODY:"

/-- The line that closes a function body. -/
def bodyClosing : Text := "BODY;"

/-- The wording of a definition fault. -/
def DefinitionFault.message : DefinitionFault → Text
  | blankName => "`NAME:` line without a name"
  | emptyLine marker => "empty `" ++ marker.keyword ++ "` definition"
  | wrongFirstLine expected (some found) =>
    "expected `" ++ expected.discriminator ++ "` on the first line, found `" ++ found ++ "`"
  | wrongFirstLine expected none =>
    "expected `" ++ expected.discriminator ++ "` on the first line, found an empty file"
  | nameless .table => "table has no `NAME:` line"
  | nameless .sequence => "sequence has no `NAME:` line"
  | nameless .function => "function has no `NAME:` line"
  | constraintWithoutColumns name => "constraint `" ++ name ++ "` covers no columns"
  | indexWithoutColumns name => "index `" ++ name ++ "` covers no columns"
  | unknownSortOrder column order =>
    "index column `" ++ column ++ "` has unknown sort order `" ++ order ++ "`"
  | namelessParameter => "parameter without a name"
  | unknownDirection parameter direction =>
    "parameter `" ++ parameter ++ "` has unknown direction `" ++ direction ++ "`"
  | untypedReturn => "return without a type"
  | untypedReturnColumn column => "returned column `" ++ column ++ "` has no type"
  | openBody => "`" ++ bodyOpening ++ "` block is not closed by `" ++ bodyClosing ++ "`"
  | other message => message

/-- Why a run cannot be carried out as configured. -/
inductive ConfigurationFault where
  | emptyMakefile
  | noOutputs
  | noDefinitions (pattern : Text)
  | badPattern (pattern : Text) (fault : PatternFault)
  | unknownScriptMode (mode : Text)
  /-- A database output without a connection. -/
  | noConnection
  /-- A connection that names no database. -/
  | noDatabase
  | emptyConnection
  | badPort (port : Text)
  | badUrl (fault : UrlFault)
  | badPlaceholder (line : Nat)
  | unknownPlaceholder (name : Text)
  /-- Any other fault, in words. -/
  | other (message : Text)
  deriving DecidableEq, Repr

/-- The wording of a configuration fault. -/
def ConfigurationFault.message : ConfigurationFault → Text
  | emptyMakefile => "no contents found in makefile"
  | noOutputs => "no outputs configured in makefile"
  | noDefinitions pattern => "no definition files found matching `" ++ pattern ++ "`"
  | badPattern pattern fault =>
    "invalid definition files pattern `" ++ pattern ++ "`: " ++ fault.message
  | unknownScriptMode mode =>
    "unknown sql_script mode `" ++ mode ++ "`; expected `single` or `consolidated`"
  | noConnection => "`db_create` output requires a `conn` argument"
  | noDatabase => "`db_create` connection string does not name a database"
  | emptyConnection => "connection string is empty"
  | badPort port => "invalid port `" ++ port ++ "` in connection string"
  | badUrl fault => "invalid connection URL: " ++ fault.message
  | badPlaceholder line => "invalid placeholder on line " ++ Text.ofNat line ++ " of template"
  | unknownPlaceholder name => "template references unknown placeholder `" ++ name ++ "`"
  | other message => message

/-- Why a file or directory cannot be read or written. -/
inductive FileFault where
  | notFound
  | exists
  | notADirectory
  | isADirectory
  | nameTooLong
  | invalidText
  | zeroInName
  /-- Any other fault, in words. -/
  | other (message : Text)
  deriving DecidableEq, Repr

/-- The wording of a file fault. -/
def FileFault.message : FileFault → Text
  | notFound => "No such file or directory (os error 2)"
  | .exists => "File exists (os error 17)"
  | notADirectory => "Not a directory (os error 20)"
  | isADirectory => "Is a directory (os error 21)"
  | nameTooLong => "File name too long (os error 36)"
  | invalidText => "stream did not contain valid UTF-8"
  | zeroInName => "file name contained an unexpected NUL byte"
  | other message => message

/-- What was going on when something failed. -/
inductive Activity where
  | readingLine (line : Text)
  | parsingFile (path : Text)
  | readingMakefile (path : Text)
  | writingOutput (name : Text)
  | connecting (host : Text) (port : Nat)
  | connectingTo (database host : Text) (port : Nat)
  | creatingDatabase (name : Text)
  | creatingObject (name : Text)
  deriving DecidableEq, Repr

/-- The wording of an activity. -/
def Activity.message : Activity → Text
  | readingLine line => "line `" ++ line ++ "`"
  | parsingFile path => "failed to parse definition file `" ++ path ++ "`"
  | readingMakefile path => "failed to read makefile `" ++ path ++ "`"
  | writingOutput name => "output `" ++ name ++ "` failed"
  | connecting host port => "failed to connect to `" ++ host ++ ":" ++ Text.ofNat port ++ "`"
  | connectingTo database host port =>
    "failed to connect to database `" ++ database ++ "` on `" ++ host ++ ":" ++
      Text.ofNat port ++ "`"
  | creatingDatabase name => "failed to create database `" ++ name ++ "`"
  | creatingObject name => "failed to create object `" ++ name ++ "`"

/-- One link of an error: a cause, or what was going on when it arose. -/
inductive Fault where
  | note (message : Text)
  | during (activity : Activity)
  /-- A failure of some other library, with the remarks added to it, the latest last. -/
  | foreign (cause : Text) (remarks : List Text)
  | configuration (fault : ConfigurationFault)
  /-- A constraint whose type is missing or unknown. -/
  | constraintType (found : Option Text)
  | definition (fault : DefinitionFault)
  /-- A definition file whose first line, if it has one, names no kind. -/
  | objectKind (found path : Text)
  | output (name : Text)
  | file (path : Text) (fault : FileFault)
  /-- A failure of the database server, with its own chain of causes. -/
  | server (causes : List Text)
  deriving DecidableEq, Repr

/-- The categories of faults. -/
inductive Category where
  | configuration
  | constraintType
  | definition
  | objectKind
  | output
  | file
  | server
  deriving DecidableEq, Repr

/-- Every category. -/
def Category.all : List Category :=
  [.configuration, .constraintType, .definition, .objectKind, .output, .file, .server]

namespace Fault

/-- The category of a fault; remarks and foreign failures have none. -/
def category? : Fault → Option Category
  | note _ | during _ | foreign _ _ => none
  | configuration _ => some .configuration
  | constraintType _ => some .constraintType
  | definition _ => some .definition
  | objectKind _ _ => some .objectKind
  | output _ => some .output
  | file _ _ => some .file
  | server _ => some .server

/-- The wording of a fault. -/
def message : Fault → Text
  | note message => message
  | during activity => activity.message
  | foreign cause remarks => remarks.getLast?.getD cause
  | configuration fault => "invalid configuration: " ++ fault.message
  | constraintType none => "constraint type is mandatory"
  | constraintType (some found) => "constraint type is of invalid type: " ++ found
  | definition fault => "invalid definition: " ++ fault.message
  | objectKind [] path => "definition file `" ++ path ++ "` does not declare an object type"
  | objectKind found path =>
    "unknown object type `" ++ found ++ "` in definition file `" ++ path ++ "`"
  | output name => "invalid output type `" ++ name ++ "`"
  | file path fault => "failed to access `" ++ path ++ "`: " ++ fault.message
  | server causes => Text.join ": " causes

/-- What a fault itself names as its source, outermost first. -/
def sources : Fault → List Text
  | foreign cause remarks => (cause :: remarks).reverse
  | file path fault => [message (.file path fault), fault.message]
  | server causes => message (.server causes) :: causes
  | _ => []

end Fault

end SchemaCompiler
