import SchemaCompiler.Program
import Std.Time.Zoned

/-!
# The command

The outer layer of the program: it takes in the files that a command line can reach, lets the
program run on them, and carries out what the program has decided. No database server can be reached
from here, so a run that asks for one is told so.
-/

namespace SchemaCompiler

/-- The place of an absolute path. -/
def placeOf (path : String) : Place :=
  (Text.splitOn '/' path.toList).filter fun piece => piece ≠ []

/-- The place that a path leads to from a working directory, whatever is there. -/
def placeFrom (working : Place) (path : Text) : Place :=
  (Text.splitOn '/' path).foldl
    (fun place piece =>
      if Path.isIdle piece then place
      else if piece = ['.', '.'] then place.dropLast
      else place ++ [piece])
    (FileTree.start working path)

/-- The absolute path of a place. -/
def pathOf (place : Place) : String :=
  String.ofList ('/' :: Text.join ['/'] place)

/-- What bytes hold. -/
def contentsOf (bytes : ByteArray) : Contents :=
  match String.fromUTF8? bytes with
  | some s => .text s.toList
  | none => .binary

/-- Why something cannot be read, as the machine puts it. -/
def faultOf : IO.Error → FileFault
  | .permissionDenied _ code _ =>
    .other ("Permission denied (os error " ++ Text.ofNat code.toNat ++ ")")
  | fault => .other (toString fault).toList

/-- Takes in everything below a place; what cannot be read refuses to be opened. -/
partial def takeIn (tree : FileTree) (place : Place) : IO FileTree := do
  let path ← IO.FS.realPath (pathOf place)
  if ← path.isDir then
    let mut tree := tree.putDirectories place
    match ← path.readDir.toBaseIO with
    | .ok entries =>
      for entry in entries do
        tree ← try takeIn tree (place ++ [entry.fileName.toList]) catch _ => pure tree
      return tree
    | .error fault => return tree.refuse place .opening (faultOf fault)
  else
    let tree := tree.putDirectories place.dropLast
    match ← (IO.FS.readBinFile path).toBaseIO with
    | .ok bytes => return tree.put place (.file (contentsOf bytes))
    | .error fault =>
      return (tree.put place (.file .binary)).refuse place .opening (faultOf fault)

/-- The directories that a command line reads from and, unless it only checks, writes to. -/
def reach (words : List Text) : List Text :=
  match CommandLine.parse words with
  | .ok ⟨.check, config, _⟩ => [config.sourceDir]
  | .ok ⟨.compile, config, _⟩ => [config.sourceDir, config.outputDir]
  | .error _ => []

/-- Brings about what a run has put into a place. -/
def carryOut (before : FileTree) : Place × Node → IO Unit
  | (place, .directory) =>
    if before.node? place = some .directory then pure () else IO.FS.createDirAll (pathOf place)
  | (place, .file (.text t)) =>
    if before.node? place = some (.file (.text t)) then pure ()
    else IO.FS.writeFile (pathOf place) (String.ofList t)
  | (_, .file .binary) => pure ()

/-- A server that cannot be reached. -/
def unreachable : Server := fun _ _ =>
  .failed ["error connecting to server", "Connection refused (os error 111)"]

/-- Runs the program on the files of the machine. -/
def runHere (words : List Text) : IO UInt32 := do
  let working := placeOf (← IO.currentDir).toString
  let today ← Std.Time.PlainDate.now
  let host : Host := {
    working
    year := (show Int from today.year).toNat
    colors := false
    server := unreachable }
  let mut before := FileTree.empty.putDirectories working
  for directory in reach words do
    before ← try takeIn before (placeFrom working directory) catch _ => pure before
  let outcome := Program.run host before words
  outcome.files.entries.entries.forM (carryOut before)
  IO.print (Text.toString outcome.printed)
  outcome.log.forM fun line => IO.eprintln (Text.toString line)
  IO.eprint (Text.toString outcome.report)
  return outcome.code.toUInt32

end SchemaCompiler

/-- Runs the program with the words behind its name. -/
def main (args : List String) : IO UInt32 :=
  SchemaCompiler.runHere (args.map String.toList)
