import SchemaCompiler.Args

/-!
# Sequences

All settings of a sequence are properties; a setting without a value is not set.
-/

namespace SchemaCompiler

/-- A sequence of numbers. -/
structure Sequence where
  name : Text
  properties : Properties
  deriving DecidableEq, Repr

namespace Sequence

/-- The first number. -/
def start (sequence : Sequence) : Option Text := sequence.properties.value? "start"

/-- The step from one number to the next. -/
def increment (sequence : Sequence) : Option Text := sequence.properties.value? "increment"

/-- The least number. -/
def minValue (sequence : Sequence) : Option Text := sequence.properties.value? "min_value"

/-- The greatest number. -/
def maxValue (sequence : Sequence) : Option Text := sequence.properties.value? "max_value"

/-- How many numbers a session takes at once. -/
def cache (sequence : Sequence) : Option Text := sequence.properties.value? "cache"

/-- The sequence starts again after its last number. -/
def cycle (sequence : Sequence) : Bool := sequence.properties.flag "cycle"

end Sequence

end SchemaCompiler
