import SchemaCompiler.Connection.Url
import SchemaCompiler.Error.Basic
import SchemaCompiler.Notice

/-!
# Connection settings

Where a database is to be created. Settings are written as pairs, `host:…,port:…,user:…,
password:…,database:…`, each of them optional, or as a URL with the scheme `postgresql` or
`postgres`.

Main definitions: `ConnectionSettings.parse` and `ConnectionSettings.notices`.
-/

namespace SchemaCompiler

/-- A server, a user and a database; the empty name stands for no database. -/
structure ConnectionSettings where
  host : Text
  port : Nat
  user : Text
  password : Text
  database : Text
  deriving DecidableEq, Repr

namespace ConnectionSettings

/-- The settings that nothing is said about. -/
def default : ConnectionSettings := ⟨"localhost", 5432, "postgres", "postgres", []⟩

/-- The settings name a database. -/
def hasDatabase (settings : ConnectionSettings) : Bool := settings.database ≠ []

/-- A port in decimal digits, with an optional plus sign. -/
def port? (t : Text) : Option Nat :=
  let digits := (Text.after? ['+'] t).getD t
  if digits = [] ∨ !digits.all Char.isDigit then none
  else
    let n := digits.foldl (fun n c => n * 10 + (c.toNat - '0'.toNat)) 0
    if n ≤ 65535 then some n else none

/-! ## Pairs -/

/-- The pairs of a text, each trimmed and the empty ones left out. -/
def pairs (t : Text) : List Text :=
  ((t.splitOn ',').map Text.trim).filter fun pair => pair ≠ []

/-- Applies a pair. A pair without a colon and an unknown key change nothing. -/
def applyPair (settings : ConnectionSettings) (pair : Text) : Except Error ConnectionSettings :=
  match pair.splitOnce ':' with
  | none => .ok settings
  | some (key, value) =>
    let key := key.trim
    let value := value.trim
    if key = "host".toList then .ok { settings with host := value }
    else if key = "port".toList then
      match port? value with
      | some port => .ok { settings with port }
      | none => .error (.configuration (.badPort value))
    else if key = "user".toList then .ok { settings with user := value }
    else if key = "password".toList then .ok { settings with password := value }
    else if key = "database".toList then .ok { settings with database := value }
    else .ok settings

/-- The settings that pairs write, later ones winning. -/
def ofPairs (t : Text) : Except Error ConnectionSettings := (pairs t).foldlM applyPair default

/-! ## URLs -/

/-- What follows the scheme of a connection URL. -/
def authority? (t : Text) : Option Text :=
  (Text.after? "postgresql://" t).or (Text.after? "postgres://" t)

/-- The settings that a URL gives; what it does not mention has its default, and the database is
its path without leading slashes. -/
def ofUrl (url : Url) : ConnectionSettings where
  host := url.host.getD default.host
  port := url.port.getD default.port
  user := if url.username = [] then default.user else url.username
  password := url.password.getD default.password
  database := url.path.dropWhile (· == '/')

/-! ## Both forms -/

/-- The settings that a text writes, in either form. -/
def parse (t : Text) : Except Error ConnectionSettings :=
  let t := t.trim
  if t = [] then .error (.configuration .emptyConnection)
  else match authority? t with
    | none => ofPairs t
    | some rest => match Url.ofAuthority rest with
      | .ok url => .ok (ofUrl url)
      | .error fault => .error (.configuration (.badUrl fault))

/-- The keys that pairs may have. -/
def keys : List Text := ["host", "port", "user", "password", "database"]

/-- What there is to say about a pair that changes nothing. -/
def pairNotice? (pair : Text) : Option Notice :=
  match pair.splitOnce ':' with
  | none => some
      ⟨.debug, "ignoring connection string entry without a value", [("pair", .quoted pair)]⟩
  | some (key, _) =>
    if keys.contains key.trim then none
    else some ⟨.debug, "ignoring unknown connection string key", [("key", .quoted key.trim)]⟩

/-- The notices about pairs, up to the first one that cannot be applied. -/
def pairNotices : List Text → List Notice
  | [] => []
  | pair :: rest => match applyPair default pair with
    | .error _ => []
    | .ok _ => (pairNotice? pair).toList ++ pairNotices rest

/-- The notices about a text that writes settings. -/
def notices (t : Text) : List Notice :=
  if t.trim = [] ∨ (authority? t.trim).isSome then [] else pairNotices (pairs t.trim)

end ConnectionSettings

end SchemaCompiler
