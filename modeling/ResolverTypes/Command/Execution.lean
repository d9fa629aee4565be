import ResolverTypes.Command.Arguments
import ResolverTypes.Command.Help
import ResolverTypes.Config.Read
import ResolverTypes.Fact.Layout
import ResolverTypes.File.Disk
import ResolverTypes.Run.Basic

/-!
# Carrying out a command

A command works on a disk through four operations, in any monad, and ends with an exit code and what
it prints.  A dry run keeps its writes in memory.
-/

namespace ResolverTypes

/-- how a command gets at a disk; `load` and `write` give the reason if they fail -/
structure DiskOps (m : Type → Type) where
  contains : Path → m Bool
  load : Path → m (Except String String)
  /-- the files below a directory, in component order -/
  list : Path → m (List Path)
  write : Path → String → m (Except String Unit)

def DiskOps.files {m : Type → Type} [Monad m] (disk : DiskOps m) : FileOps m where
  read path := return (← disk.load path).toOption
  list := disk.list
  write := disk.write

def Disk.ops : DiskOps (StateM Disk) where
  contains path := return (← get).contains path
  load path := return ((← get).load path).mapError DiskError.message
  list dir := return (← get).filesBelow dir
  write path text := modifyGet fun d =>
    let (result, d) := d.write path text
    (result.mapError DiskError.message, d)

def Report.toJson (r : Report) : Json :=
  .record [("paths", .list (r.paths.map fun p => .text p.text)),
    ("fieldFacts", r.fieldFacts.toJson), ("codeFacts", r.codeFacts.toJson)]

namespace Command

/-! ## Failures -/

inductive Failure where
  | unreadableConfig (path : Path) (reason : String)
  | invalidConfig (path : Path) (cause : RunError)
  | problem (p : Config.Problem)
  | run (cause : RunError)
deriving DecidableEq, Repr

/-- the message of a failed run, followed by that of what is below it -/
def chain (e : RunError) : String := ": ".intercalate (e.message :: e.cause?.toList)

def Failure.message : Failure → String
  | .unreadableConfig path reason => "Failed to read config file " ++ path.text ++ ": " ++ reason
  | .invalidConfig path cause => "Invalid config file " ++ path.text ++ ": " ++ chain cause
  | .problem p => "Invalid configuration: " ++ p.message
  | .run cause => chain cause

/-! ## Actions -/

variable {m : Type → Type} [Monad m]

def readConfig (disk : DiskOps m) (path : Path) : ExceptT Failure m Config := do
  match ← ExceptT.lift (disk.load path) with
  | .error reason => throw (.unreadableConfig path reason)
  | .ok text =>
    match Config.ofText text with
    | .ok config => return config
    | .error e => throw (.invalidConfig path e)

/-- the configuration that is named, the one of the working directory, or the default one -/
def loadConfig (disk : DiskOps m) (named : Option Path) : ExceptT Failure m Config := do
  match named with
  | some path => readConfig disk path
  | none =>
    if ← ExceptT.lift (disk.contains configFile) then readConfig disk configFile else return {}

/-- the configuration of an invocation, checked after the paths of the command line are put in -/
def Invocation.resolve (i : Invocation) (disk : DiskOps m) : ExceptT Failure m Config := do
  let config ← loadConfig disk i.config
  let config := { config with paths := i.overrides.apply config.paths }
  match config.problem? with
  | some p => throw (.problem p)
  | none => return config

/-- a run that keeps its writes in memory -/
def dryRun (disk : DiskOps m) (config : Config) : m (Except RunError Report) := do
  let (result, _) ← (ResolverTypes.run disk.files.overlaid config.paths.settings config.scalars).run.run
    Store.empty
  return result

def runWith (disk : DiskOps m) (config : Config) (dry : Bool) : ExceptT Failure m Report := do
  let result ← ExceptT.lift <|
    if dry then dryRun disk config
    else (ResolverTypes.run disk.files config.paths.settings config.scalars).run
  match result with
  | .ok report => return report
  | .error e => throw (.run e)

/-! ## Outcomes -/

/-- how a command ends and what it prints -/
structure Outcome where
  exitCode : UInt32
  output : String
  errors : String
deriving DecidableEq, Repr

def line (text : String) : String := text ++ "\n"

/-- what is printed about the files that were written, or would be -/
def writtenText (config : Config) (dry : Bool) (report : Report) : String :=
  String.join (report.paths.map fun p =>
    line ("✓ " ++ (if dry then "Would write " else "Wrote ") ++ (config.paths.settings.display p).text))

/-- what is printed about functions whose types are not known -/
def unresolvedText (report : Report) : String :=
  String.join (report.codeFacts.unresolved.map fun (file, f) =>
    line ("! Could not infer types for " ++ f.name ++ " in " ++ file))

def selected (report : Report) : Selection → Json
  | .all => report.toJson
  | .fieldFacts => report.fieldFacts.toJson
  | .codeFacts => report.codeFacts.toJson

def Invocation.execute (i : Invocation) (disk : DiskOps m) : ExceptT Failure m Outcome := do
  let config ← i.resolve disk
  match i.action with
  | .generate dry =>
    let report ← runWith disk config dry
    return ⟨0, writtenText config dry report, unresolvedText report⟩
  | .facts selection =>
    let report ← runWith disk config true
    return ⟨0, line (selected report selection).pretty, ""⟩

/-- carries out a command line, with the value of the variable that may name a configuration -/
def execute (disk : DiskOps m) (environment : Option String) (arguments : List String) :
    m Outcome := do
  match Request.ofArguments environment arguments with
  | .error e =>
    return ⟨2, "", line ("error: " ++ e.message) ++ line "" ++
      line "For more information, try '--help'."⟩
  | .ok (.help level) => return ⟨0, level.help, ""⟩
  | .ok .version => return ⟨0, line (toolName ++ " " ++ version), ""⟩
  | .ok (.run i) =>
    match ← (i.execute disk).run with
    | .ok outcome => return outcome
    | .error failure => return ⟨1, "", line ("✗ " ++ failure.message)⟩

end Command

end ResolverTypes
