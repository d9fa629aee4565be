import ResolverTypes.Declaration.ReturnTypes
import ResolverTypes.Fact.Function
import ResolverTypes.Script.Exports

/-!
# Inferring the types of service functions

An exported function that does not tell its own types is matched by its name: first against the
fields of the root operation types and of the other object types, then against the models of the
database, after a verb such as `create`.  A member of an exported object that has the name of an
object type is matched against the fields of that type.

Main definitions: `exactField?`, `crudMatch?` and `analyze`.
-/

namespace ResolverTypes

/-- the two schemas of a project, with what is known about their fields -/
structure Project where
  schema : Schema
  catalog : DataModel.Catalog
  facts : FieldFacts

def Project.of (catalog : DataModel.Catalog) (schema : Schema) (scalars : ScalarMap) : Project :=
  ⟨schema, catalog, sharedFacts catalog schema scalars⟩

/-! ## Signatures -/

/-- how a resolver is called -/
structure Signature where
  args : TypeExpr
  argsOptional : Bool
  returnType : TypeExpr
deriving DecidableEq, Repr

namespace Signature

def permissive : Signature := ⟨.unknown, true, .unknown⟩

/-- the signature of a field; a field without arguments takes an empty record -/
def ofField (fact : FieldFact) : Signature :=
  { args :=
      if fact.arguments.isEmpty then .verbatim "Record<string, never>"
      else .ofMembers (fact.arguments.map fun a => ⟨a.name, a.type, !a.required⟩)
    argsOptional := fact.arguments.all fun a => !a.required
    returnType := fact.type }

def refersTo (s : Signature) (artifact : Artifact) : Bool :=
  s.args.refersTo artifact || s.returnType.refersTo artifact

end Signature

/-! ## Fields -/

/-- the field a function is named after: of the first root type that has it, or else of the only
other object type that has it -/
def exactField? (project : Project) (name : String) : Option FieldFact :=
  match project.schema.rootNames.findSome? fun root => project.facts.find? root name with
  | some fact => some fact
  | none =>
    match project.schema.objectsWithField name with
    | [owner] => project.facts.find? owner.name name
    | _ => none

/-! ## Verbs and models -/

/-- the verbs that start a function name, in the order in which they are tried -/
def crudPrefixes : List (String × CrudVerb) :=
  [("findMany", .list), ("find", .find), ("get", .find), ("list", .list), ("create", .create),
   ("update", .update), ("upsert", .upsert), ("delete", .delete)]

def dropEnd? (ending cs : List Char) : Option (List Char) :=
  (Text.dropHead? ending.reverse cs.reverse).map List.reverse

/-- the words that a plural may be the plural of, in the order in which they are tried -/
def singularForms (plural : List Char) : List (List Char) :=
  [(dropEnd? "ies".toList plural).map (· ++ ['y']), dropEnd? "es".toList plural,
   dropEnd? "s".toList plural].filterMap id

def isStored (catalog : DataModel.Catalog) (name : String) : Bool :=
  match catalog.model? name with
  | some m => m.kind != .composite
  | none => false

/-- whether a verb may be followed by the plural of a model -/
def takesPlural (word : String) (verb : CrudVerb) : Bool := word == "find" || verb == .list

/-- what a function name says if it starts with a given verb -/
def crudMatchAt? (catalog : DataModel.Catalog) (name : String) (word : String) (verb : CrudVerb) :
    Option (CrudVerb × String) :=
  match Text.dropHead? word.toList name.toList with
  | none => none
  | some rest =>
    if !rest.head?.any Char.isUpper then none
    else if isStored catalog (String.ofList rest) then some (verb, String.ofList rest)
    else if takesPlural word verb then
      ((singularForms rest).map String.ofList).find? (isStored catalog) |>.map (CrudVerb.list, ·)
    else none

def crudMatch? (catalog : DataModel.Catalog) (name : String) : Option (CrudVerb × String) :=
  crudPrefixes.findSome? fun (word, verb) => crudMatchAt? catalog name word verb

def CrudVerb.returnType (verb : CrudVerb) (model : String) : TypeExpr :=
  let record := TypeExpr.named .schemaTypes model
  match verb with
  | .find => record.orNull
  | .list => .array record
  | .create | .update | .upsert | .delete => record

/-! ## Matching -/

/-- what the name of a function tells about it -/
def resolve? (project : Project) (name : String) : Option (Resolution × Signature) :=
  match exactField? project name with
  | some fact => some (.exactField fact.typeName fact.fieldName, .ofField fact)
  | none =>
    (crudMatch? project.catalog name).map fun (verb, model) =>
      (.crudConvention verb model, ⟨.unknown, true, verb.returnType model⟩)

/-! ## Analyzing functions -/

/-- a function with what is known about it; `signature` is missing if it is annotated -/
structure Analyzed where
  fact : FunctionFact
  signature : Option Signature
deriving DecidableEq, Repr

/-- a parameter as the script has it; without an annotation its type is `type` -/
def paramFact (type : TypeExpr) (p : Script.Parameter) : ParamFact :=
  ⟨p.name, (p.annotation.map TypeExpr.verbatim).getD type⟩

/-- the parameters as the script has them -/
def sourceParams (f : Script.Function) : List ParamFact := f.params.map (paramFact .unknown)

/-- the parameters of a resolver: its arguments, then `second`, then what else the script has.
Annotations win over what is inferred. -/
def resolverParams (f : Script.Function) (signature : Signature) (second : String) :
    List ParamFact :=
  match f.params with
  | [] => [⟨"args", signature.args⟩, ⟨second, .unknown⟩]
  | [p] => [paramFact signature.args p, ⟨second, .unknown⟩]
  | p :: q :: rest =>
    paramFact signature.args p :: paramFact .unknown q :: rest.map (paramFact .unknown)

def annotated (f : Script.Function) (name : String) (owner : Option String) : Analyzed :=
  { fact :=
      { name, owner
        params := sourceParams f
        returnType := (f.returnAnnotation.map TypeExpr.verbatim).getD .unknown
        resolution := .annotated
        resolved := true }
    signature := none }

/-- a function whose name tells nothing -/
def unmatched (f : Script.Function) (name : String) (owner : Option String) : Analyzed :=
  { fact :=
      { name, owner
        params := sourceParams f
        returnType := .unknown
        resolution := .unresolved
        resolved := false }
    signature := some .permissive }

def inferred (f : Script.Function) (name : String) (owner : Option String) (second : String)
    (resolution : Resolution) (signature : Signature) : Analyzed :=
  { fact :=
      { name, owner
        params := resolverParams f signature second
        returnType := signature.returnType
        resolution
        resolved := !signature.returnType.isUnknown }
    signature := some signature }

def analyzeFunction (project : Project) (f : Script.Function) : Analyzed :=
  if f.isAnnotated then annotated f f.name none
  else
    match resolve? project f.name with
    | some (resolution, signature) => inferred f f.name none "context" resolution signature
    | none => unmatched f f.name none

/-- a function of an object that resolves the fields of the type `owner` -/
def analyzeMember (project : Project) (owner : String) (f : Script.Function) : Analyzed :=
  let name := owner ++ "." ++ f.name
  if f.isAnnotated then annotated f name (some owner)
  else
    match project.facts.find? owner f.name with
    | some fact => inferred f name (some owner) "obj" (.exactField owner f.name) (.ofField fact)
    | none => unmatched f name (some owner)

/-- whether an exported object resolves the fields of an object type -/
def isResolverObject (schema : Schema) (o : Script.ResolverObject) : Bool :=
  match schema.type? o.name with
  | some t => t.kind == .object && !schema.isRoot t.name
  | none => false

/-- an object that resolves the fields of the type `owner`, with its functions by their keys -/
structure AnalyzedObject where
  owner : String
  members : List (String × Analyzed)
deriving DecidableEq, Repr

structure Analysis where
  functions : List Analyzed
  objects : List AnalyzedObject
deriving DecidableEq, Repr

namespace Analysis

/-- the facts of a file: its functions, then the functions of its objects -/
def facts (a : Analysis) : List FunctionFact :=
  a.functions.map (·.fact) ++ a.objects.flatMap fun o => o.members.map (·.2.fact)

/-- whether any types were inferred, so that a declaration is worth writing -/
def isWorthDeclaring (a : Analysis) : Bool := a.facts.any (·.resolution.isInferred)

end Analysis

def analyze (project : Project) (es : Script.Exports) : Analysis :=
  { functions := es.functions.map (analyzeFunction project)
    objects := (es.objects.filter (isResolverObject project.schema)).map fun o =>
      ⟨o.name, o.members.map fun f => (f.name, analyzeMember project o.name f)⟩ }

end ResolverTypes
