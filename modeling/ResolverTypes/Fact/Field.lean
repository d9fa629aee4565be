import ResolverTypes.Table
import ResolverTypes.TypeExpr

/-!
# Field facts

What is known about the fields of the two schemas.  Facts are stored under the text `Type.field`,
in order of first recording.  A GraphQL fact that lands on a database fact wins and is marked as
reconciled, with a note on whether the two agree.
-/

namespace ResolverTypes

inductive Provenance where
  | graphql
  | dbSchema
  /-- a GraphQL fact recorded over a database fact -/
  | reconciled (nullabilityAgrees listAgrees : Bool)
deriving DecidableEq, Repr

structure ArgumentFact where
  name : String
  type : TypeExpr
  required : Bool
deriving DecidableEq, Repr

/-- what is known about one field; `type` has all wrappers, `base` none -/
structure FieldFact where
  typeName : String
  fieldName : String
  type : TypeExpr
  base : TypeExpr
  nullable : Bool
  list : Bool
  arguments : List ArgumentFact
  provenance : Provenance
deriving DecidableEq, Repr

/-- the key under which the facts of a field are stored -/
def fieldKey (typeName fieldName : String) : String := typeName ++ "." ++ fieldName

/-- field facts by `Type.field` -/
abbrev FieldFacts := Table FieldFact

namespace FieldFacts

def find? (facts : FieldFacts) (typeName fieldName : String) : Option FieldFact :=
  facts.get? (fieldKey typeName fieldName)

/-- a new fact as it is stored over the fact that was there -/
def reconcile (existing : Option FieldFact) (fact : FieldFact) : FieldFact :=
  match existing with
  | none => fact
  | some old =>
    if old.provenance = .dbSchema ∧ fact.provenance = .graphql then
      { fact with
        provenance := .reconciled (old.nullable == fact.nullable) (old.list == fact.list) }
    else fact

def record (facts : FieldFacts) (fact : FieldFact) : FieldFacts :=
  facts.insert (fieldKey fact.typeName fact.fieldName)
    (reconcile (facts.find? fact.typeName fact.fieldName) fact)

def recordAll (facts : FieldFacts) (new : List FieldFact) : FieldFacts :=
  new.foldl record facts

end FieldFacts

end ResolverTypes
