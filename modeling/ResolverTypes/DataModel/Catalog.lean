import ResolverTypes.DataModel.Attribute

/-!
# The catalog of models and enums

A catalog is built from blocks in two passes.  The first collects the declared names, so that a
field may refer to a model or an enum declared later; the second resolves the field types.  A field
whose type is a model is a relation.
-/

namespace ResolverTypes.DataModel
open Text

/-! ## types -/

inductive ModelKind where
  | model
  | view
  /-- an embedded type -/
  | composite
deriving DecidableEq, Repr

inductive RelationKind where
  | oneToOne
  | oneToMany
deriving DecidableEq, Repr

/-- where a relation field points, and how its `@relation` attribute describes it -/
structure Relation where
  model : String
  kind : RelationKind
  name : Option String
  fields : List String
  references : List String
deriving DecidableEq, Repr

structure Field where
  name : String
  type : String
  isList : Bool
  isRequired : Bool
  isRelation : Bool
  isEnum : Bool
  relation : Option Relation
  isId : Bool
  hasDefault : Bool
  isUpdatedAt : Bool
  documentation : Option String
deriving DecidableEq, Repr

structure Model where
  name : String
  kind : ModelKind
  documentation : Option String
  fields : List Field
deriving DecidableEq, Repr

def Model.field? (m : Model) (name : String) : Option Field :=
  m.fields.find? fun f => f.name == name

def Model.idField? (m : Model) : Option Field := m.fields.find? Field.isId

structure Enumeration where
  name : String
  values : List String
  documentation : Option String
deriving DecidableEq, Repr

/-- models and enums, each in declaration order -/
structure Catalog where
  models : List Model
  enums : List Enumeration
deriving DecidableEq, Repr

def Catalog.model? (c : Catalog) (name : String) : Option Model :=
  c.models.find? fun m => m.name == name

def Catalog.enum? (c : Catalog) (name : String) : Option Enumeration :=
  c.enums.find? fun e => e.name == name

/-! ## names -/

def scalarTypes : List String :=
  ["String", "Boolean", "Int", "BigInt", "Float", "Decimal", "DateTime", "Json", "Bytes"]

/-- a built-in scalar, or a column type written as `Unsupported("...")` -/
def isScalarType (type : String) : Bool :=
  scalarTypes.contains type || (dropHead? "Unsupported(".toList type.toList).isSome

def BlockKind.model? : BlockKind → Option ModelKind
  | .model => some .model
  | .view => some .view
  | .composite => some .composite
  | .enumeration | .datasource | .generator => none

/-- whether a block declares a type name -/
def BlockKind.declares : BlockKind → Bool
  | .model | .view | .composite | .enumeration => true
  | .datasource | .generator => false

/-- every block has a name and no type name is declared twice; `seen` holds the names so far -/
def checkNames (seen : List String) : List Block → Except Error Unit
  | [] => .ok ()
  | b :: bs =>
    match b.name with
    | none => .error (.missingBlockName b.kind b.line)
    | some name =>
      if b.kind.declares then
        if seen.contains name then .error (.duplicateDeclaration name)
        else checkNames (name :: seen) bs
      else checkNames seen bs

def modelNames (bs : List Block) : List String :=
  bs.filterMap fun b => if b.kind.model?.isSome then b.name else none

def enumNames (bs : List Block) : List String :=
  bs.filterMap fun b => if b.kind = .enumeration then b.name else none

/-! ## fields -/

/-- a text without the quotes around it -/
def unquote (cs : List Char) : List Char :=
  (((trim cs).dropWhile (· == '"')).reverse.dropWhile (· == '"')).reverse

/-- the entries of `[a, b]` -/
def listEntries (cs : List Char) : List String :=
  let inner := (((trim cs).dropWhile (· == '[')).reverse.dropWhile (· == ']')).reverse
  ((splitOn ',' inner).map trim).filterMap fun e =>
    if e.isEmpty then none else some (String.ofList e)

def FieldDecl.relation (d : FieldDecl) : Relation :=
  let attr := d.attribute? "relation"
  { model := d.type
    kind := if d.array then .oneToMany else .oneToOne
    name := attr.bind fun a =>
      ((a.named? "name") <|> (a.positional? 0)).map fun n => String.ofList (unquote n)
    fields := ((attr.bind fun a => a.named? "fields").map listEntries).getD []
    references := ((attr.bind fun a => a.named? "references").map listEntries).getD [] }

/-- resolves a field of the model `model` against the declared names -/
def resolveField (models enums : List String) (model : String) (d : FieldDecl) :
    Except Error Field :=
  let isEnum := enums.contains d.type
  let isRelation := models.contains d.type
  if !isScalarType d.type && !isEnum && !isRelation then
    .error (.unknownFieldType model d.name d.type)
  else
    .ok
      { name := d.name
        type := d.type
        isList := d.array
        isRequired := !d.optional
        isRelation := isRelation
        isEnum := isEnum
        relation := if isRelation then some d.relation else none
        isId := d.hasAttribute "id"
        hasDefault := d.hasAttribute "default"
        isUpdatedAt := d.hasAttribute "updatedAt"
        documentation := d.documentation }

/-- resolves the fields of a model in order; a repeated name is refused before its type is looked
at, and `seen` holds the names so far -/
def resolveFields (models enums : List String) (model : String) (seen : List String) :
    List FieldDecl → Except Error (List Field)
  | [] => .ok []
  | d :: ds =>
    if seen.contains d.name then .error (.duplicateField model d.name)
    else do
      let f ← resolveField models enums model d
      let fs ← resolveFields models enums model (d.name :: seen) ds
      return f :: fs

/-! ## building -/

def buildModels (models enums : List String) : List Block → Except Error (List Model)
  | [] => .ok []
  | b :: bs =>
    match b.kind.model?, b.name with
    | some kind, some name => do
      let fields ← resolveFields models enums name [] b.fields
      let rest ← buildModels models enums bs
      return ⟨name, kind, b.documentation, fields⟩ :: rest
    | _, _ => buildModels models enums bs

def buildEnums (bs : List Block) : List Enumeration :=
  bs.filterMap fun b =>
    match b.kind, b.name with
    | .enumeration, some name => some ⟨name, b.values.map (·.name), b.documentation⟩
    | _, _ => none

/-- the first relation field whose type is no model of the catalog, with its model -/
def Catalog.dangling? (c : Catalog) : Option (Model × Field) :=
  c.models.findSome? fun m =>
    (m.fields.find? fun f => f.isRelation && (c.model? f.type).isNone).map (m, ·)

/-- every relation field points at a model of the catalog -/
def Catalog.checkRelations (c : Catalog) : Except Error Unit :=
  match c.dangling? with
  | some (m, f) => .error (.danglingRelation m.name f.name f.type)
  | none => .ok ()

def Catalog.ofBlocks (bs : List Block) : Except Error Catalog := do
  checkNames [] bs
  let catalog : Catalog := ⟨← buildModels (modelNames bs) (enumNames bs) bs, buildEnums bs⟩
  catalog.checkRelations
  return catalog

end ResolverTypes.DataModel
