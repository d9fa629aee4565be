import ResolverTypes.Declaration.SchemaTypes
import ResolverTypes.Fact.Field
import ResolverTypes.Schema.Basic

/-!
# Declarations of the GraphQL types

Objects, interfaces and inputs become interfaces, enums become unions of literals, unions and
scalars become aliases.  The root operation types are left out, but their fields give facts like
those of every other type.
-/

namespace ResolverTypes

/-- the type texts given for custom scalars -/
abbrev ScalarMap := Table String

namespace Schema

def builtinTypeExpr? : String → Option TypeExpr
  | "ID" | "String" => some .string
  | "Int" | "Float" => some .number
  | "Boolean" => some .boolean
  | _ => none

/-- the type a name stands for -/
def namedType (s : Schema) (scalars : ScalarMap) (name : String) : TypeExpr :=
  match builtinTypeExpr? name with
  | some t => t
  | none =>
    match s.type? name with
    | none => .unknown
    | some t =>
      match t.kind with
      | .enumeration => .literals t.enumValues
      | .scalar =>
        match scalars.get? name with
        | some text => .verbatim text
        | none => .unknown
      | .object | .interface | .union | .inputObject =>
        if s.isRoot name then .unknown else .named .returnTypes name

/-- the type a reference stands for, with a wrapper for every list level and every null -/
def typeOf (s : Schema) (scalars : ScalarMap) : TypeRef → TypeExpr
  | .named name nullable =>
    let inner := s.namedType scalars name
    if nullable then inner.orNull else inner
  | .list item nullable =>
    let inner := TypeExpr.array (s.typeOf scalars item)
    if nullable then inner.orNull else inner

def argumentFact (s : Schema) (scalars : ScalarMap) (a : Argument) : ArgumentFact :=
  ⟨a.name, s.typeOf scalars a.type, !a.type.nullable && !a.hasDefault⟩

def fieldFact (s : Schema) (scalars : ScalarMap) (typeName : String) (f : Field) : FieldFact :=
  { typeName := typeName
    fieldName := f.name
    type := s.typeOf scalars f.type
    base := s.namedType scalars f.type.baseName
    nullable := f.type.nullable
    list := f.type.isList
    arguments := f.arguments.map (s.argumentFact scalars)
    provenance := .graphql }

/-- whether the fields of a type give facts -/
def TypeKind.hasFields : TypeKind → Bool
  | .object | .interface | .inputObject => true
  | .scalar | .union | .enumeration => false

def declaration? (s : Schema) (scalars : ScalarMap) (t : TypeDef) : Option Declaration :=
  match t.kind with
  | .object | .interface | .inputObject =>
    if s.isRoot t.name then none
    else
      some <| .interface t.description t.name <|
        t.fields.map fun f =>
          ⟨f.description, f.name, f.type.nullable, s.typeOf scalars f.type⟩
  | .enumeration => some (.alias t.description t.name (.type (.literals t.enumValues)))
  | .union => some (.alias t.description t.name (.union t.members))
  | .scalar =>
    if isBuiltin t.name then none
    else
      let target := match scalars.get? t.name with
        | some text => TypeExpr.verbatim text
        | none => .unknown
      some (.alias t.description t.name (.type target))

def declarations (s : Schema) (scalars : ScalarMap) : List Declaration :=
  s.types.filterMap (s.declaration? scalars)

def facts (s : Schema) (scalars : ScalarMap) : List FieldFact :=
  s.types.flatMap fun t =>
    if t.kind.hasFields then t.fields.map (s.fieldFact scalars t.name) else []

def returnTypes (s : Schema) (scalars : ScalarMap) (source : String) : String :=
  Declaration.artifactText .returnTypes source (s.declarations scalars)

end Schema

/-- the facts of both schemas: database facts first, so that GraphQL facts reconcile with them -/
def sharedFacts (catalog : DataModel.Catalog) (s : Schema) (scalars : ScalarMap) : FieldFacts :=
  (FieldFacts.recordAll .empty catalog.facts).recordAll (s.facts scalars)

end ResolverTypes
