import ResolverTypes.DataModel.Document
import ResolverTypes.Run.Error
import ResolverTypes.Run.Files
import ResolverTypes.Service.Declaration
import ResolverTypes.Service.Discovery

/-!
# A run

A run reads the GraphQL schema and the data model, writes the two shared artifacts, and then looks
at the service files one after the other.  It stops at the first error.
-/

namespace ResolverTypes

/-- what a successful run tells: the files it has written, in order, and the facts -/
structure Report where
  paths : List Path
  fieldFacts : FieldFacts
  codeFacts : CodeFacts

namespace Run
variable {m : Type → Type} [Monad m]

/-! ## The schemas -/

def readSchema (files : FileOps m) (path : Path) : ExceptT RunError m Schema := do
  match ← files.read path with
  | none => throw (.missingGraphqlSchema path)
  | some text =>
    match Schema.parse text with
    | .ok schema => return schema
    | .error e => throw (.invalidGraphqlSchema path e)

def catalogOf (text : String) : Except DataModel.Error DataModel.Catalog := do
  DataModel.Catalog.ofBlocks (← DataModel.parse text)

def readCatalog (files : FileOps m) (path : Path) : ExceptT RunError m DataModel.Catalog := do
  match ← files.read path with
  | none => throw (.missingDataModel path)
  | some text =>
    match catalogOf text with
    | .ok catalog => return catalog
    | .error e => throw (.invalidDataModel path e)

/-! ## Writing -/

def write (files : FileOps m) (path : Path) (text : String) : ExceptT RunError m Unit := do
  match ← files.write path text with
  | .ok _ => return
  | .error reason => throw (.write path reason)

def writeShared (files : FileOps m) (settings : PathSettings) (scalars : ScalarMap)
    (project : Project) : ExceptT RunError m Unit := do
  write files settings.schemaTypesPath
    (project.catalog.schemaTypes (settings.display settings.dataModel).text)
  write files settings.returnTypesPath
    (project.schema.returnTypes scalars (settings.display settings.graphqlSchema).text)

/-! ## Service files -/

def services (files : FileOps m) (settings : PathSettings) : m (List Path) := do
  return servicesAmong (← files.list settings.services)

/-- what a look at a service file gives: its facts, unless it cannot be analyzed, and the declaration
that was written, if any -/
structure Look where
  entry : Option (String × List FunctionFact)
  result : Except RunError (Option Path)

def declare (files : FileOps m) (settings : PathSettings) (project : Project) (path : Path)
    (analysis : Analysis) : ExceptT RunError m Path := do
  let target := settings.declarationPath (← ExceptT.lift (services files settings)) path
  write files target
    (serviceDeclaration settings (settings.display path).text (analysis.interfaces project.catalog))
  return target

/-- analyzes a service file and writes its declaration if any types were inferred -/
def lookAt (files : FileOps m) (settings : PathSettings) (project : Project) (path : Path) :
    m Look := do
  match ← files.read path with
  | none => return ⟨none, .error (.unreadableService path)⟩
  | some text =>
    match Script.Exports.ofFile path text with
    | .error e => return ⟨none, .error (.sourceAnalysis path e)⟩
    | .ok es =>
      let analysis := analyze project es
      let entry := some ((settings.display path).text, analysis.facts)
      if analysis.isWorthDeclaring then
        match ← (declare files settings project path analysis).run with
        | .ok target => return ⟨entry, .ok (some target)⟩
        | .error e => return ⟨entry, .error e⟩
      else return ⟨entry, .ok none⟩

/-- the facts after a look -/
def Look.record (look : Look) (facts : CodeFacts) : CodeFacts :=
  match look.entry with
  | some (display, fs) => facts.insert display fs
  | none => facts

/-- looks at service files one after the other: the declarations written, in order, and the facts -/
def lookAtAll (files : FileOps m) (settings : PathSettings) (project : Project) :
    CodeFacts → List Path → ExceptT RunError m (List Path × CodeFacts)
  | facts, [] => return ([], facts)
  | facts, path :: rest => do
    let look ← ExceptT.lift (lookAt files settings project path)
    match look.result with
    | .error e => throw e
    | .ok written =>
      let (more, facts) ← lookAtAll files settings project (look.record facts) rest
      return (written.toList ++ more, facts)

end Run

def run {m : Type → Type} [Monad m] (files : FileOps m) (settings : PathSettings)
    (scalars : ScalarMap) : ExceptT RunError m Report := do
  let schema ← Run.readSchema files settings.graphqlSchema
  let catalog ← Run.readCatalog files settings.dataModel
  let project := Project.of catalog schema scalars
  Run.writeShared files settings scalars project
  let services ← ExceptT.lift (Run.services files settings)
  let (written, codeFacts) ← Run.lookAtAll files settings project .empty services
  return ⟨settings.schemaTypesPath :: settings.returnTypesPath :: written, project.facts, codeFacts⟩

/-- generates the declarations of a project with a layout that a named preset knows: the files
written -/
def runLayout {m : Type → Type} [Monad m] (files : FileOps m) (preset : String) (layout : Layout) :
    ExceptT RunError m (List Path) := do
  match Preset.ofName preset with
  | .error e => throw e
  | .ok .redwood =>
    let report ← run files layout.settings .empty
    return report.paths

/-- generates the declarations of a project with the standard layout below a base -/
def runPreset {m : Type → Type} [Monad m] (files : FileOps m) (preset : String) (base : Path) :
    ExceptT RunError m (List Path) :=
  runLayout files preset (.ofBase base)

end ResolverTypes
