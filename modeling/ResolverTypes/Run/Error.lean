import ResolverTypes.DataModel.Error
import ResolverTypes.File.Path
import ResolverTypes.Schema.Basic
import ResolverTypes.Script.Error

/-!
# Why a run fails

Trouble with the preset, the configuration or the schemas stops a run before anything is written;
a service file that cannot be read or analyzed and a failed write stop it later.
-/

namespace ResolverTypes

inductive Preset where
  | redwood
deriving DecidableEq, Repr

inductive RunError where
  | unsupportedPreset (name : String)
  | missingGraphqlSchema (path : Path)
  | missingDataModel (path : Path)
  | invalidGraphqlSchema (path : Path) (cause : Schema.Error)
  | invalidDataModel (path : Path) (cause : DataModel.Error)
  | unreadableService (path : Path)
  | sourceAnalysis (path : Path) (cause : Script.Error)
  | write (path : Path) (cause : String)
  | configuration (reason : String)
deriving DecidableEq, Repr

namespace RunError

/-- the text of the error below this one, if there is one -/
def cause? : RunError → Option String
  | .invalidGraphqlSchema _ cause => some cause.message
  | .invalidDataModel _ cause => some cause.message
  | .sourceAnalysis _ cause => some cause.message
  | .write _ cause => some cause
  | _ => none

def message : RunError → String
  | .unsupportedPreset name =>
    "Only Redwood codegen is supported at this time (got preset '" ++ name ++ "')"
  | .missingGraphqlSchema path => "No schema found at " ++ path.text
  | .missingDataModel path => "No prisma file found at " ++ path.text
  | .invalidGraphqlSchema path cause =>
    "Invalid GraphQL schema at " ++ path.text ++ ": " ++ cause.message
  | .invalidDataModel path cause =>
    "Invalid Prisma schema at " ++ path.text ++ ": " ++ cause.message
  | .unreadableService path => "Service file could not be read: " ++ path.text
  | .sourceAnalysis path cause => "Failed to analyze " ++ path.text ++ ": " ++ cause.message
  | .write path cause => "Failed to write " ++ path.text ++ ": " ++ cause
  | .configuration reason => "Configuration error: " ++ reason

/-- whether the error was raised before anything could be written -/
def isPrecondition : RunError → Bool
  | .unsupportedPreset _ | .missingGraphqlSchema _ | .missingDataModel _
  | .invalidGraphqlSchema _ _ | .invalidDataModel _ _ | .configuration _ => true
  | .unreadableService _ | .sourceAnalysis _ _ | .write _ _ => false

end RunError

def Preset.ofName (name : String) : Except RunError Preset :=
  if name = "redwood" then .ok .redwood else .error (.unsupportedPreset name)

end ResolverTypes
