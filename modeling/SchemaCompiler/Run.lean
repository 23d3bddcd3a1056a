import SchemaCompiler.Files.Assets
import SchemaCompiler.Server

/-!
# Runs

What a run does to the world: it reads and writes files, prints, gives notice of its progress and
exchanges actions for answers with a database server. All of it is kept as data, so that what a run
did can be looked at afterwards; a run that fails keeps what it did before.

Files, the terminal and the server may all refuse what a run asks of them. Main definitions:
`Terminal`, `Run`, `Run.print`, `Run.writeFile` and `Run.send`.
-/

namespace SchemaCompiler

/-! ## The terminal -/

/-- What is asked of a terminal. -/
inductive Printing where
  /-- Print a text. -/
  | text (t : Text)
  /-- Let everything come out that has been printed. -/
  | flush
  deriving DecidableEq, Repr

/-- What becomes of it. -/
inductive Shown where
  /-- Done. -/
  | whole
  /-- Refused, behind so many characters of the text. -/
  | cut (length : Nat) (fault : FileFault)
  deriving DecidableEq, Repr

/-- Why it is refused, if it is. -/
def Shown.fault? : Shown → Option FileFault
  | whole => none
  | cut _ fault => some fault

/-- Something asked of a terminal, and what became of it. -/
structure Print where
  printing : Printing
  shown : Shown
  deriving DecidableEq, Repr

/-- What came out. -/
def Print.text : Print → Text
  | ⟨.text t, .whole⟩ => t
  | ⟨.text t, .cut length _⟩ => t.take length
  | ⟨.flush, _⟩ => []

/-- A terminal shows what it is asked to, or not, given everything it was asked before, the latest
last. -/
abbrev Terminal := List Print → Printing → Shown

/-! ## Hosts and worlds -/

/-- What a run finds around it. -/
structure Host where
  /-- The working directory. -/
  working : Place
  /-- The current year. -/
  year : Nat
  /-- The terminal shows colours. -/
  colors : Bool
  server : Server
  /-- The terminal, or whatever the standard output leads to. -/
  terminal : Terminal := fun _ _ => .whole

/-- What a run has done so far. -/
structure World where
  files : FileTree
  /-- All that the terminal was asked. -/
  prints : List Print
  notices : List Notice
  exchanges : List Exchange

/-- What has come out on the terminal. -/
def World.printed (world : World) : Text := world.prints.flatMap Print.text

/-! ## Runs -/

/-- A part of a run, which may fail. -/
abbrev Run (α : Type) := ReaderT Host (ExceptT Error (StateM World)) α

namespace Run

/-- Carries out a run. -/
def execute {α : Type} (run : Run α) (host : Host) (world : World) : Except Error α × World :=
  (ReaderT.run run host).run.run world

/-- Fails if the result is an error. -/
def ofResult {α : Type} (result : Except Error α) : Run α := MonadExcept.ofExcept result

/-- Gives notice. -/
def notify (notice : Notice) : Run Unit :=
  modify fun world => { world with notices := world.notices ++ [notice] }

/-- Gives several notices. -/
def notifyAll (notices : List Notice) : Run Unit :=
  modify fun world => { world with notices := world.notices ++ notices }

/-- Asks something of the terminal; the result is its fault, if it refuses. -/
def ask (printing : Printing) : Run (Option FileFault) := do
  let host ← read
  let world ← get
  let shown := host.terminal world.prints printing
  set { world with prints := world.prints ++ [Print.mk printing shown] }
  return shown.fault?

/-- The name that the terminal has as a file. -/
def standardOutput : Text := "<stdout>"

/-- Asks something of the terminal, and fails if it refuses. -/
def require (printing : Printing) : Run Unit := do
  match ← ask printing with
  | none => pure ()
  | some fault => throw (.file standardOutput fault)

/-- Prints a text. -/
def print (t : Text) : Run Unit := require (.text t)

/-- Lets everything come out that has been printed. -/
def flush : Run Unit := require .flush

/-- A run whose error is seen from an activity. -/
def during {α : Type} (activity : Activity) (run : Run α) : Run α :=
  tryCatch run fun error => throw (error.within activity)

/-- The text of a source file. -/
def readAsset (assets : Assets) (path : Text) : Run Text := do
  let host ← read
  let world ← get
  ofResult (assets.read world.files host.working path)

/-- The text of a source file, or nothing where there is none. -/
def readOptionalAsset (assets : Assets) (path : Text) : Run (Option Text) := do
  let host ← read
  let world ← get
  ofResult (assets.readOptional? world.files host.working path)

/-- The source files that a pattern leads to. -/
def discoverAssets (assets : Assets) (pattern : Text) : Run (List Text) := do
  let host ← read
  let world ← get
  ofResult (assets.discover world.files host.working pattern)

/-- Makes the directory that a file is to stand in, if it is missing. -/
def makeParent (path : Text) : Run Unit := do
  let host ← read
  match Path.parent? path with
  | none => pure ()
  | some parent =>
    let world ← get
    let (files, result) := world.files.makeDirectories host.working parent
    set { world with files }
    match result with
    | .ok () => pure ()
    | .error fault => throw (.file parent fault)

/-- Writes a file, and makes the directories above it that are missing. -/
def writeFile (path contents : Text) : Run Unit := do
  makeParent path
  let host ← read
  let world ← get
  match world.files.writeText host.working path contents with
  | .ok files => set { world with files }
  | .error fault => throw (.file path fault)

/-- Sends an action to the server; the result tells whether it found something. -/
def send (action : Action) : Run Bool := do
  let host ← read
  let world ← get
  let reply := host.server world.exchanges action
  set { world with exchanges := world.exchanges ++ [Exchange.mk action reply] }
  match reply with
  | .done => pure false
  | .found => pure true
  | .failed causes => throw (.ofFault (.server causes))

end Run

end SchemaCompiler
