import SchemaCompiler.Error.Fault

/-!
# Errors

An error is a chain of faults: the cause at its root, and around it what was going on, the latest
outermost. Main definitions: `Error.within`, `Error.display`, `Error.root`, `Error.is` and
`Error.report`.
-/

namespace SchemaCompiler

/-- A chain of faults, outermost first. -/
structure Error where
  outermost : Fault
  inner : List Fault
  deriving DecidableEq, Repr

namespace Error

/-- The error of a single fault. -/
def ofFault (fault : Fault) : Error := ⟨fault, []⟩

/-- The error seen from an activity during which it arose. -/
def within (activity : Activity) (error : Error) : Error :=
  ⟨.during activity, error.outermost :: error.inner⟩

/-- The links of the chain, outermost first. -/
def faults (error : Error) : List Fault := error.outermost :: error.inner

/-- The innermost fault. -/
def root (error : Error) : Fault := error.inner.getLast?.getD error.outermost

/-- The chain in words. -/
def display (error : Error) : Text := Text.join ": " (error.faults.map Fault.message)

/-- Some link of the chain belongs to the category. -/
def is (category : Category) (error : Error) : Bool :=
  error.faults.any fun fault => fault.category? = some category

/-- The first category, in the order of `Category.all`, that some link belongs to. -/
def category? (error : Error) : Option Category := Category.all.find? error.is

/-- A definition fault as an error. -/
def definition (fault : DefinitionFault) : Error := ofFault (.definition fault)

/-- A configuration fault as an error. -/
def configuration (fault : ConfigurationFault) : Error := ofFault (.configuration fault)

/-- A file fault as an error. -/
def file (path : Text) (fault : FileFault) : Error := ofFault (.file path fault)

/-! ## Reports

What a run says about the error that ended it: the whole chain in words, and below it, where the
outermost fault names sources of its own, these sources, numbered if there are several.
-/

/-- A source behind its mark, its further lines set in by the width of the mark. -/
def sourceLine (mark source : Text) : Text :=
  mark ++ source.flatMap fun c => if c = '\n' then c :: List.replicate mark.length ' ' else [c]

/-- The sources below a report. -/
def sourceLines : List Text → List Text
  | [source] => [sourceLine "    " source]
  | sources => sources.zipIdx.map fun (source, i) =>
      sourceLine (List.leftpad 5 ' ' (Text.ofNat i) ++ ": ") source

/-- The report about an error. -/
def report (error : Error) : Text :=
  let sources := error.outermost.sources
  let below : Text :=
    if sources = [] then []
    else ("\n\nCaused by:\n" ++ Text.join ['\n'] (sourceLines sources) : Text)
  "Error: " ++ error.display ++ below ++ ['\n']

end Error

/-- A result, whose error is seen from an activity. -/
def during {α : Type} (activity : Activity) (result : Except Error α) : Except Error α :=
  result.mapError (Error.within activity)

end SchemaCompiler
