import ResolverTypes.DataModel.Catalog
import ResolverTypes.Declaration.Basic
import ResolverTypes.Fact.Field

/-!
# Declarations of the database models

Every enum of the catalog becomes a union of literals and every model an interface.  Each field
also gives a field fact.
-/

namespace ResolverTypes.DataModel

def scalarTypeExpr : String → TypeExpr
  | "String" => .string
  | "Boolean" => .boolean
  | "Int" | "Float" | "Decimal" => .number
  | "BigInt" => .bigInt
  | "DateTime" => .date
  | "Bytes" => .bytes
  | _ => .unknown

/-- the type of a field without its wrappers -/
def Field.baseType (catalog : Catalog) (f : Field) : TypeExpr :=
  if f.isRelation then .named .schemaTypes f.type
  else
    match catalog.enum? f.type with
    | some e => .literals e.values
    | none => scalarTypeExpr f.type

/-- the type of a field: a list or not, nullable unless it is required -/
def Field.typeExpr (catalog : Catalog) (f : Field) : TypeExpr :=
  let base := f.baseType catalog
  let listed := if f.isList then .array base else base
  if f.isRequired then listed else listed.orNull

def Field.fact (catalog : Catalog) (model : Model) (f : Field) : FieldFact :=
  { typeName := model.name
    fieldName := f.name
    type := f.typeExpr catalog
    base := f.baseType catalog
    nullable := !f.isRequired
    list := f.isList
    arguments := []
    provenance := .dbSchema }

def Enumeration.declaration (e : Enumeration) : Declaration :=
  .alias e.documentation e.name (.type (.literals e.values))

def Model.declaration (catalog : Catalog) (m : Model) : Declaration :=
  .interface m.documentation m.name <|
    m.fields.map fun f => ⟨f.documentation, f.name, false, f.typeExpr catalog⟩

namespace Catalog

/-- the declarations of the schema types artifact: enums first, then models -/
def declarations (c : Catalog) : List Declaration :=
  c.enums.map Enumeration.declaration ++ c.models.map (Model.declaration c)

def facts (c : Catalog) : List FieldFact :=
  c.models.flatMap fun m => m.fields.map (Field.fact c m)

def schemaTypes (c : Catalog) (source : String) : String :=
  Declaration.artifactText .schemaTypes source c.declarations

end Catalog

end ResolverTypes.DataModel
