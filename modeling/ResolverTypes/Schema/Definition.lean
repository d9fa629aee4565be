import ResolverTypes.Schema.TypeRef

/-!
# Definitions of a GraphQL schema document

What a document defines, before definitions, extensions and root operations are put together.
-/

namespace ResolverTypes.Schema

inductive TypeKind where
  | scalar
  | object
  | interface
  | union
  | enumeration
  | inputObject
deriving DecidableEq, Repr

structure Argument where
  name : String
  type : TypeRef
  hasDefault : Bool
deriving DecidableEq, Repr

structure Field where
  name : String
  type : TypeRef
  arguments : List Argument
  description : Option String
deriving DecidableEq, Repr

/-- a type: its fields (objects, interfaces, inputs), enum values, union members and interfaces -/
structure TypeDef where
  name : String
  kind : TypeKind
  description : Option String
  fields : List Field
  enumValues : List String
  members : List String
  interfaces : List String
deriving DecidableEq, Repr

def TypeDef.field? (t : TypeDef) (name : String) : Option Field :=
  t.fields.find? fun f => f.name == name

inductive Operation where
  | query
  | mutation
  | subscription
deriving DecidableEq, Repr

def Operation.word : Operation → String
  | .query => "query"
  | .mutation => "mutation"
  | .subscription => "subscription"

/-- the type that serves an operation if the document does not say -/
def Operation.defaultType : Operation → String
  | .query => "Query"
  | .mutation => "Mutation"
  | .subscription => "Subscription"

/-- the type names of the root operations -/
structure Roots where
  query : Option String
  mutation : Option String
  subscription : Option String
deriving DecidableEq, Repr

def Roots.none : Roots := ⟨.none, .none, .none⟩

def Roots.get (r : Roots) : Operation → Option String
  | .query => r.query
  | .mutation => r.mutation
  | .subscription => r.subscription

def Roots.set (r : Roots) (op : Operation) (name : String) : Roots :=
  match op with
  | .query => { r with query := some name }
  | .mutation => { r with mutation := some name }
  | .subscription => { r with subscription := some name }

/-- the names of a later block win over those of an earlier one -/
def Roots.override (earlier later : Roots) : Roots :=
  ⟨later.query <|> earlier.query, later.mutation <|> earlier.mutation,
    later.subscription <|> earlier.subscription⟩

inductive Definition where
  | schema (roots : Roots)
  | type (type : TypeDef)
  | extension (type : TypeDef)
  | directive
deriving DecidableEq, Repr

end ResolverTypes.Schema
