import ResolverTypes.Table
import ResolverTypes.TypeExpr

/-!
# Function facts

What is known about the exported functions of the service files, and how it was found out.
-/

namespace ResolverTypes

/-- the verb of a function name such as `createPost` -/
inductive CrudVerb where
  /-- one record or nothing -/
  | find
  /-- many records -/
  | list
  | create
  | update
  | upsert
  | delete
deriving DecidableEq, Repr

def CrudVerb.word : CrudVerb → String
  | .find => "find"
  | .list => "list"
  | .create => "create"
  | .update => "update"
  | .upsert => "upsert"
  | .delete => "delete"

inductive Resolution where
  /-- the source declares them -/
  | annotated
  /-- the function has the name of a schema field -/
  | exactField (typeName fieldName : String)
  /-- the function name is a verb followed by a model -/
  | crudConvention (verb : CrudVerb) (model : String)
  | unresolved
deriving DecidableEq, Repr

/-- whether the types were inferred, so that a declaration is worth writing -/
def Resolution.isInferred : Resolution → Bool
  | .exactField _ _ | .crudConvention _ _ => true
  | .annotated | .unresolved => false

structure ParamFact where
  name : String
  type : TypeExpr
deriving DecidableEq, Repr

/-- what is known about a function; `owner` is the GraphQL type whose resolver object holds it -/
structure FunctionFact where
  name : String
  owner : Option String
  params : List ParamFact
  returnType : TypeExpr
  resolution : Resolution
  resolved : Bool
deriving DecidableEq, Repr

/-- function facts by service file -/
abbrev CodeFacts := Table (List FunctionFact)

/-- the functions whose types could not be inferred, each with its file -/
def CodeFacts.unresolved (facts : CodeFacts) : List (String × FunctionFact) :=
  facts.entries.flatMap fun (path, fs) => (fs.filter fun f => !f.resolved).map fun f => (path, f)

end ResolverTypes
