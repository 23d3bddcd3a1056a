import SchemaCompiler.OrderedMap
import SchemaCompiler.Text.Basic

/-!
# Argument lists

Definition lines, properties and output requests carry arguments as pieces between separators. A
named argument is written `key=value`, or as a bare key without a value.

Main definitions:

* `args`: the non-empty pieces of a list, trimmed;
* `NamedArgs.parse`: the named arguments of a list, the last value of a key winning;
* `readsTrue`, `NamedArgs.flag`: how a value is read as yes or no.
-/

namespace SchemaCompiler

/-- The pieces between separators, each trimmed and the empty ones left out. -/
def args (sep : Char) (t : Text) : List Text :=
  ((t.splitOn sep).map Text.trim).filter fun piece => piece ≠ []

/-- Reads a flag: `true`, `yes`, `on` and `1`, in any case, mean yes and all else means no. -/
def readsTrue (value : Text) : Bool :=
  ["true", "yes", "on", "1"].any fun word => value.trim.eqIgnoreCase word.toList

/-- Named arguments in the order of their keys; a bare key has no value. -/
abbrev NamedArgs := OrderedMap Text (Option Text)

namespace NamedArgs

/-- The key and the value of a piece, cut at its first equals sign. A piece whose key is empty is
no argument. -/
def ofPiece? (piece : Text) : Option (Text × Option Text) :=
  let arg := match piece.splitOnce '=' with
    | some (key, value) => (key.trim, some value.trim)
    | none => (piece, none)
  if arg.1 = [] then none else some arg

/-- The arguments written in a text, in order and with repeated keys. -/
def assignments (sep : Char) (t : Text) : List (Text × Option Text) :=
  (args sep t).filterMap ofPiece?

/-- The named arguments written in a text. -/
def parse (sep : Char) (t : Text) : NamedArgs := OrderedMap.ofList (assignments sep t)

/-- The value of a key that is present and carries one. -/
def value? (args : NamedArgs) (key : Text) : Option Text := (args.get? key).join

/-- The flag of a key, when the key is present: a bare key means yes. -/
def flag? (args : NamedArgs) (key : Text) : Option Bool :=
  (args.get? key).map fun value => match value with
    | some word => readsTrue word
    | none => true

/-- The flag of a key, absent meaning no. -/
def flag (args : NamedArgs) (key : Text) : Bool := (args.flag? key).getD false

end NamedArgs

/-! ## Properties -/

/-- The free-form properties of an object. -/
abbrev Properties := NamedArgs

namespace Properties

/-- The key of the documentation title. -/
def titleKey : Text := "title"

/-- The key of the documentation description. -/
def descriptionKey : Text := "description"

/-- The documentation title. -/
def title (properties : Properties) : Option Text := NamedArgs.value? properties titleKey

/-- The documentation text. -/
def description (properties : Properties) : Option Text :=
  NamedArgs.value? properties descriptionKey

/-- The properties that say something about the object rather than document it. -/
def nonMeta (properties : Properties) : List (Text × Option Text) :=
  properties.entries.filter fun entry => entry.1 ≠ titleKey && entry.1 ≠ descriptionKey

end Properties

end SchemaCompiler
