import CommitSeal.CommandLine.Basic
import Std.Time.DateTime.Timestamp

/-!
# The program

The outer layer: it collects the variables, files and input that a run may look at, performs the
run, and carries out what the run leads to. Nothing is decided here.
-/

namespace CommitSeal.Main

/-! ## Collecting -/

/-- The octets of a byte array. -/
def octets (bytes : ByteArray) : Octets := bytes.data.toList

/-- Whether there is a directory at a path. -/
def isDirectory (path : Path) : IO Bool := do
  match ← (IO.FS.realPath path.text).toBaseIO with
  | .ok place => place.isDir
  | .error _ => return false

/-- Adds what is at a path: a file, or a directory, whose entries are left out. -/
def addPlace (tree : FileTree) (path : Path) : IO FileTree := do
  if ← isDirectory path then return FileTree.putAt .empty path tree
  match ← (IO.FS.readBinFile path.text).toBaseIO with
  | .ok bytes => return FileTree.putAt (.file (octets bytes)) path tree
  | .error _ => return tree

/-- Adds what is at a path and on the way to it. -/
def addPath (tree : FileTree) (path : Path) : IO FileTree :=
  path.way.foldlM addPlace tree

/-- Adds a directory with all that is in it. Links to directories are not followed, and what is
neither a file nor a directory is left out. -/
partial def addDirectory (tree : FileTree) (path : Path) : IO FileTree := do
  let tree ← addPath tree path
  match ← (IO.FS.realPath path.text >>= fun place => place.readDir).toBaseIO with
  | .ok entries =>
    entries.foldlM (fun tree entry => do
      let place := path.child entry.fileName
      match (← entry.path.symlinkMetadata).type with
      | .dir => addDirectory tree place
      | .file => addPlace tree place
      | .symlink => if ← isDirectory place then return tree else addPlace tree place
      | .other => return tree) tree
  | .error _ => return tree

/-- The text of a file, or nothing. -/
def textAt (file : String) : IO String := do
  match ← (IO.FS.readFile file).toBaseIO with
  | .ok text => return text
  | .error _ => return ""

/-- The accounts of a table: name, number and home directory of each. -/
def accountsOf (table : String) : List (String × String × String) :=
  (table.splitOn "\n").filterMap fun line =>
    match line.splitOn ":" with
    | name :: _ :: number :: _ :: _ :: directory :: _ => some (name, number, directory)
    | _ => none

/-- The number of the account that a process runs under, given the text of its status. -/
def accountNumber? (status : String) : Option String :=
  (status.splitOn "\n").findSome? fun line =>
    match line.splitOn "\t" with
    | "Uid:" :: number :: _ => some number
    | _ => none

/-- The variables with the given names, and the accounts. -/
def environmentWith (names : List String) : IO Environment := do
  let found ← names.mapM fun name => return (← IO.getEnv name).map fun value => (name, value)
  let accounts := accountsOf (← textAt "/etc/passwd")
  let number := accountNumber? (← textAt "/proc/self/status")
  let own := accounts.find? fun account => some account.2.1 == number
  return {
    bindings := found.filterMap id
    accounts := accounts.map fun account => (account.1, account.2.2)
    ownDirectory := own.map fun account => account.2.2 }

/-- What a run starts with. -/
def session (arguments : List String) : IO CommandLine.Session := do
  let tree ← addPath .empty Settings.filePath
  let file := (tree.read Settings.filePath).toOption.bind Octets.text?
  let environment ← environmentWith (CommandLine.variableNames (file.getD ""))
  let now := (← Std.Time.Timestamp.now).toSecondsSinceUnixEpoch.val.toNat
  let start : CommandLine.Session := { tree, environment, now, input := [] }
  let reads := CommandLine.reads start arguments
  let tree ← reads.files.foldlM addPath tree
  let tree ← match reads.directory with
    | some path => addDirectory tree path
    | none => pure tree
  let input ← if reads.usesInput then (← IO.getStdin).readBinToEnd else pure .empty
  return { start with tree, input := octets input }

/-! ## Carrying out -/

/-- The short description of the command line. -/
def usage : String :=
  "Usage: commitsign [--version] [--gnupg-home DIRECTORY] [--verbose] COMMAND\n\n"
    ++ "  sign [--key-id ID] [--input FILE] [--output FILE] [--secret-key-path FILE]"
    ++ " [--attempts N]\n"
    ++ "  verify --key-id ID --signature FILE [--input FILE]\n"
    ++ "  locate ID\n"

/-- The line for what a run broke off with. -/
def crashLine : CommandLine.Crash → String
  | .fault fault => s!"Error: {fault.text}\n"
  | .unwritable reason => s!"Error: {reason.message}\n"

/-- Carries out what a run leads to; the answer is the exit code. -/
def perform (report : CommandLine.Report) : IO UInt32 := do
  let output ← IO.getStdout
  let errors ← IO.getStderr
  if let some (path, content) := report.written then
    IO.FS.writeBinFile path.text ⟨content.toArray⟩
  errors.putStr report.errors
  output.putStr report.output
  match report.ending with
  | .exited code => return UInt32.ofNat code
  | .helped => output.putStr usage; return 0
  | .misused => errors.putStr usage; return 2
  | .crashed cause => errors.putStr (crashLine cause); return 1

end CommitSeal.Main

/-- Runs the program. -/
def main (arguments : List String) : IO UInt32 := do
  let session ← CommitSeal.Main.session arguments
  CommitSeal.Main.perform (CommitSeal.CommandLine.run session arguments)
