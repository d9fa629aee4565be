import ResolverTypes.File.Path

/-!
# Which files are services

Services are the script files below a directory, apart from tests, scenarios and declarations.
-/

namespace ResolverTypes

def serviceExtensions : List String := ["ts", "tsx", "js"]

/-- the endings, before the extension, of files that are no services -/
def excludedEndings : List String := [".test", ".spec", "scenarios", ".d"]

def isServiceFile (name : String) : Bool :=
  match Path.splitLast? '.' name.toList with
  | none => false
  | some (stem, extension) =>
    serviceExtensions.contains (String.ofList extension) &&
      !excludedEndings.any fun e => e.toList.isSuffixOf stem

def servicesAmong (paths : List Path) : List Path :=
  paths.filter fun p => isServiceFile p.baseName

end ResolverTypes
