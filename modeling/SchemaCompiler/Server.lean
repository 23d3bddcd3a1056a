import SchemaCompiler.Connection.Settings

/-!
# Database servers

What is sent to a database server, and what comes back. A server is any rule that answers an action
in the light of what happened before; statements are sent as text.

Main definitions: `Action`, `Reply`, `Exchange`, `Server` and `quoteName`.
-/

namespace SchemaCompiler

/-- Something done with a server. -/
inductive Action where
  /-- Connect, with a database selected or without. -/
  | connect (settings : ConnectionSettings) (database : Option Text)
  /-- Ask whether there is a database of this name. -/
  | lookUp (name : Text)
  /-- Run statements. -/
  | execute (sql : Text)
  deriving DecidableEq, Repr

/-- The query that looks a database up, with its name as a parameter. -/
def lookUpQuery : Text := "SELECT 1 FROM pg_database WHERE datname = $1"

/-- What a server answers. -/
inductive Reply where
  /-- Done; a query found nothing. -/
  | done
  /-- A query found something. -/
  | found
  /-- Refused, with a chain of causes. -/
  | failed (causes : List Text)
  deriving DecidableEq, Repr

/-- An action with its answer. -/
structure Exchange where
  action : Action
  reply : Reply
  deriving DecidableEq, Repr

/-- A server answers an action, given all exchanges before it, the latest last. -/
abbrev Server := List Exchange → Action → Reply

/-! ## Names in statements -/

/-- The name needs no quotes: it is made of small letters, digits and underscores, and starts with
no digit. -/
def isPlainName (name : Text) : Bool :=
  (match name with
   | [] => false
   | c :: _ => c.isLower || c == '_') &&
  name.all fun c => c.isLower || c.isDigit || c == '_'

/-- The name as a statement can hold it: plain, or between quotes with every quote doubled. -/
def quoteName (name : Text) : Text :=
  if isPlainName name then name
  else '"' :: name.flatMap (fun c => if c = '"' then ['"', '"'] else [c]) ++ ['"']

/-- The statement that drops a database. -/
def dropDatabaseSql (name : Text) : Text := "DROP DATABASE IF EXISTS " ++ quoteName name

/-- The statement that creates a database. -/
def createDatabaseSql (name : Text) : Text := "CREATE DATABASE " ++ quoteName name

end SchemaCompiler
