import ResolverTypes.Config.Basic
import ResolverTypes.Service.Inference
import ResolverTypes.Text.Uppercase

/-!
# The declaration of a service file

Every function that does not tell its own types gets an interface, and so does every object that
resolves the fields of a type.  The declaration imports the shared artifacts that its interfaces
refer to.
-/

namespace ResolverTypes
open Text

/-- a member of the interface of an object; without a signature its types are unknown -/
structure ResolverMember where
  name : String
  signature : Option Signature
deriving DecidableEq, Repr

inductive ResolverInterface where
  /-- a function -/
  | function (name : String) (signature : Signature)
  /-- an object that resolves the fields of the type `owner`, whose values have the type `root` -/
  | object (owner : String) (root : TypeExpr) (members : List ResolverMember)
deriving DecidableEq, Repr

namespace ResolverInterface

/-- a name with its first character in upper case -/
def pascalCase : List Char → List Char
  | [] => []
  | c :: cs => uppercase c ++ cs

def nameChars : ResolverInterface → List Char
  | .function name _ => pascalCase name.toList ++ "Resolver".toList
  | .object owner _ _ => owner.toList ++ "TypeResolvers".toList

def refersTo (artifact : Artifact) : ResolverInterface → Bool
  | .function _ signature => signature.refersTo artifact
  | .object _ root members =>
    root.refersTo artifact || members.any fun m => m.signature.any fun s => s.refersTo artifact

/-- what a resolver gives back: a value or a promise of one -/
def returnChars (type : TypeExpr) : List Char :=
  if type.isUnknown then "unknown".toList
  else type.chars none ++ " | Promise<".toList ++ type.chars none ++ ['>']

def memberChars (root : TypeExpr) (m : ResolverMember) : List Char :=
  let key := "  ".toList ++ TypeExpr.keyChars m.name.toList
  match m.signature with
  | some s =>
    key ++ "?: (args: ".toList ++ s.args.chars none ++ ", obj: \x7b root: ".toList ++
      root.chars none ++ "; context?: unknown \x7d) => ".toList ++ returnChars s.returnType ++
      ";\n".toList
  | none => key ++ "?: (args?: unknown, obj?: unknown) => unknown;\n".toList

def bodyChars : ResolverInterface → List Char
  | .function _ s =>
    "  (args".toList ++ (if s.argsOptional then ['?'] else []) ++ ": ".toList ++
      s.args.chars none ++ ", context?: unknown): ".toList ++ returnChars s.returnType ++
      ";\n".toList
  | .object _ root members => members.flatMap (memberChars root)

def chars (i : ResolverInterface) : List Char :=
  "export interface ".toList ++ i.nameChars ++ " \x7b\n".toList ++ i.bodyChars ++ "\x7d\n".toList

end ResolverInterface

namespace Analysis

/-- the type of the values whose fields an object resolves -/
def rootType (catalog : DataModel.Catalog) (owner : String) : TypeExpr :=
  if (catalog.model? owner).isSome then .named .schemaTypes owner else .named .returnTypes owner

/-- the members of an object's interface: those that do not tell their own types -/
def objectMembers (o : AnalyzedObject) : List ResolverMember :=
  o.members.filterMap fun (name, a) =>
    a.signature.map fun s => ⟨name, if a.fact.resolution.isInferred then some s else none⟩

def interfaces (catalog : DataModel.Catalog) (a : Analysis) : List ResolverInterface :=
  (a.functions.filterMap fun f => f.signature.map (.function f.fact.name ·)) ++
    a.objects.map fun o => .object o.owner (rootType catalog o.owner) (objectMembers o)

end Analysis

/-- the module name of a file: without the ending of a declaration or script -/
def importSpecifier (file : String) : String :=
  let cs := file.toList
  let cut := match dropEnd? ".d.ts".toList cs with
    | some stem => stem
    | none => (dropEnd? ".ts".toList cs).getD cs
  String.ofList cut

def PathSettings.artifactFile (s : PathSettings) : Artifact → String
  | .schemaTypes => s.schemaTypesFile
  | .returnTypes => s.returnTypesFile

/-- the artifacts that some interfaces refer to, schema types first -/
def usedArtifacts (interfaces : List ResolverInterface) : List Artifact :=
  [Artifact.schemaTypes, Artifact.returnTypes].filter fun a =>
    interfaces.any (·.refersTo a)

def importChars (settings : PathSettings) (a : Artifact) : List Char :=
  "import type * as ".toList ++ a.importName.toList ++ " from \"./".toList ++
    (importSpecifier (settings.artifactFile a)).toList ++ "\";\n".toList

/-- the text of the declaration of the service file that is shown as `display` -/
def serviceDeclaration (settings : PathSettings) (display : String)
    (interfaces : List ResolverInterface) : String :=
  let imports := (usedArtifacts interfaces).flatMap (importChars settings)
  Declaration.generatedHeader ++ "\n// Service: " ++ display ++ "\n" ++
    String.ofList ((if imports.isEmpty then [] else '\n' :: imports) ++
      interfaces.flatMap fun i => '\n' :: i.chars)

/-- where the declaration of a service goes: under the stem of its file, or under the whole path
below the services if another one of them has that stem -/
def PathSettings.declarationPath (s : PathSettings) (services : List Path) (service : Path) : Path :=
  let collides := services.any fun other => !other.same service && other.stem == service.stem
  let name := match service.relativeTo? s.services with
    | some relative =>
      if collides then String.intercalate "." (relative.components.map (·.text))
      else service.stem
    | none => service.stem
  s.types.join ⟨name ++ ".d.ts"⟩

end ResolverTypes
