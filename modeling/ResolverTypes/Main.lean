import ResolverTypes.Command.Execution

/-!
# The command line tool

The operations of a command on the real disk, and `main`.
-/

namespace ResolverTypes.Main

/-- whether an error has a code, which comes with either sign -/
def isCode (expected code : UInt32) : Bool := code == expected || code == 0 - expected

def reason : IO.Error → String
  | .noFileOrDirectory _ _ _ | .noSuchThing _ _ _ => DiskError.notFound.message
  | .inappropriateType _ code _ =>
    if isCode 21 code then DiskError.isDirectory.message else DiskError.notDirectory.message
  | .invalidArgument _ code _ =>
    if isCode 36 code then DiskError.nameTooLong.message else DiskError.zeroInName.message
  | .alreadyExists _ _ _ => DiskError.alreadyExists.message
  | e => toString e

def contains (path : Path) : IO Bool := do ((← IO.currentDir) / path.text).pathExists

def load (path : Path) : IO (Except String String) := do
  match ← (IO.FS.readBinFile path.text).toBaseIO with
  | .error e => return .error (reason e)
  | .ok bytes =>
    match String.fromUTF8? bytes with
    | some text => return .ok text
    | none => return .error DiskError.notText.message

/-- the directories to visit and the files in a directory; what cannot be listed has none -/
def entries (dir : Path) : IO (List Path × List Path) := do
  match ← ((← IO.currentDir) / dir.text).readDir.toBaseIO with
  | .error _ => return ([], [])
  | .ok found =>
    let mut directories := []
    let mut files := []
    for entry in found do
      match ← entry.path.symlinkMetadata.toBaseIO with
      | .error _ => pure ()
      | .ok info =>
        let path := dir.join ⟨entry.fileName⟩
        match info.type with
        | .dir => if entry.fileName != Listing.skipped then directories := path :: directories
        | .file => files := path :: files
        | _ => pure ()
    return (directories, files)

partial def visit (pending found : List Path) : IO (List Path) := do
  match pending with
  | [] => return found
  | dir :: rest =>
    let (directories, files) ← entries dir
    visit (directories ++ rest) (found ++ files)

def list (dir : Path) : IO (List Path) :=
  return (← visit [dir] []).mergeSort fun a b => !b.lt a

def isDirectory (path : Path) : IO Bool := do ((← IO.currentDir) / path.text).isDir

/-- makes one directory unless it is there -/
def ensureDirectory (path : Path) : IO Unit := do
  match ← (IO.FS.createDir path.text).toBaseIO with
  | .ok _ => pure ()
  | .error e => if !(← isDirectory path) then throw e

/-- makes a directory after those above it, given with the lowest first -/
def makeAll : List Path → IO Unit
  | [] => pure ()
  | path :: above => do
    match ← (IO.FS.createDir path.text).toBaseIO with
    | .ok _ => pure ()
    | .error (.noFileOrDirectory _ _ _) | .error (.noSuchThing _ _ _) =>
      makeAll above
      ensureDirectory path
    | .error e => if !(← isDirectory path) then throw e

def write (path : Path) (text : String) : IO (Except String Unit) := do
  let attempt : IO Unit := do
    match path.parent? with
    | some dir =>
      if !dir.text.isEmpty then makeAll (Disk.ancestors (dir.components.length + 1) dir)
    | none => pure ()
    IO.FS.writeFile path.text text
  return (← attempt.toBaseIO).mapError reason

def disk : DiskOps IO where
  contains := contains
  load := load
  list := list
  write := write

end ResolverTypes.Main

def main (arguments : List String) : IO UInt32 := do
  let environment ← IO.getEnv ResolverTypes.Command.configVariable
  let outcome ← ResolverTypes.Command.execute ResolverTypes.Main.disk environment arguments
  (← IO.getStdout).putStr outcome.output
  (← IO.getStderr).putStr outcome.errors
  return outcome.exitCode
