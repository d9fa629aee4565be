import ResolverTypes.Fact.Field
import ResolverTypes.Fact.Function
import ResolverTypes.Json

/-!
# The JSON layout of facts

Fields are written in a fixed order, and the tag of a sum comes first.
-/

namespace ResolverTypes

def Artifact.label : Artifact → String
  | .schemaTypes => "schemaTypes"
  | .returnTypes => "returnTypes"

mutual

def TypeExpr.toJson : TypeExpr → Json
  | .string => .record [("kind", .text "string")]
  | .number => .record [("kind", .text "number")]
  | .bigInt => .record [("kind", .text "bigInt")]
  | .boolean => .record [("kind", .text "boolean")]
  | .date => .record [("kind", .text "date")]
  | .bytes => .record [("kind", .text "bytes")]
  | .unknown => .record [("kind", .text "unknown")]
  | .literals values =>
    .record [("kind", .text "literals"), ("values", .list (values.map Json.text))]
  | .named artifact name =>
    .record [("kind", .text "named"), ("artifact", .text artifact.label), ("name", .text name)]
  | .array item => .record [("kind", .text "array"), ("item", item.toJson)]
  | .nullable inner => .record [("kind", .text "nullable"), ("inner", inner.toJson)]
  | .object members =>
    .record [("kind", .text "object"), ("properties", .list (membersToJson members))]
  | .verbatim text => .record [("kind", .text "verbatim"), ("text", .text text)]

def membersToJson : Members → List Json
  | .nil => []
  | .cons name optional type rest =>
    .record [("name", .text name), ("ty", type.toJson), ("optional", .bool optional)] ::
      membersToJson rest

end

def Provenance.toJson : Provenance → Json
  | .graphql => .record [("source", .text "graphql")]
  | .dbSchema => .record [("source", .text "dbSchema")]
  | .reconciled nullabilityAgrees listAgrees =>
    .record
      [("source", .text "reconciled"), ("nullabilityAgrees", .bool nullabilityAgrees),
        ("listAgrees", .bool listAgrees)]

def ArgumentFact.toJson (a : ArgumentFact) : Json :=
  .record [("name", .text a.name), ("ty", a.type.toJson), ("required", .bool a.required)]

def FieldFact.toJson (f : FieldFact) : Json :=
  .record
    [("typeName", .text f.typeName), ("fieldName", .text f.fieldName), ("ty", f.type.toJson),
      ("base", f.base.toJson), ("nullable", .bool f.nullable), ("list", .bool f.list),
      ("arguments", .list (f.arguments.map ArgumentFact.toJson)),
      ("provenance", f.provenance.toJson)]

def Resolution.toJson : Resolution → Json
  | .annotated => .record [("strategy", .text "annotated")]
  | .exactField typeName fieldName =>
    .record
      [("strategy", .text "exactField"), ("typeName", .text typeName),
        ("fieldName", .text fieldName)]
  | .crudConvention verb model =>
    .record
      [("strategy", .text "crudConvention"), ("verb", .text verb.word), ("model", .text model)]
  | .unresolved => .record [("strategy", .text "unresolved")]

def ParamFact.toJson (p : ParamFact) : Json :=
  .record [("name", .text p.name), ("ty", p.type.toJson)]

def FunctionFact.toJson (f : FunctionFact) : Json :=
  .record
    [("name", .text f.name), ("owner", Json.ofText? f.owner),
      ("params", .list (f.params.map ParamFact.toJson)), ("returnType", f.returnType.toJson),
      ("resolution", f.resolution.toJson), ("resolved", .bool f.resolved)]

def FieldFacts.toJson (facts : FieldFacts) : Json :=
  .record (facts.entries.map fun (key, fact) => (key, fact.toJson))

def CodeFacts.toJson (facts : CodeFacts) : Json :=
  .record (facts.entries.map fun (path, fs) => (path, .list (fs.map FunctionFact.toJson)))

end ResolverTypes
