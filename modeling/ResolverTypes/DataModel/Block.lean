/-!
# Blocks of a data-model schema

A Prisma schema is a flat list of blocks.  `model`, `view` and `type` blocks declare fields, `enum`
blocks declare values, `datasource` and `generator` blocks hold assignments; every block may hold
block attributes.  This is the syntax only: which types exist is decided by the catalog.
-/

namespace ResolverTypes.DataModel

inductive BlockKind where
  | model
  | view
  | composite
  | enumeration
  | datasource
  | generator
deriving DecidableEq, Repr

def BlockKind.keyword : BlockKind → String
  | .model => "model"
  | .view => "view"
  | .composite => "type"
  | .enumeration => "enum"
  | .datasource => "datasource"
  | .generator => "generator"

def BlockKind.all : List BlockKind :=
  [.model, .view, .composite, .enumeration, .datasource, .generator]

def BlockKind.ofKeyword? (word : String) : Option BlockKind :=
  BlockKind.all.find? fun k => k.keyword == word

/-- an attribute `@name` or `@name(args)`; `args` is the text between the outer parentheses -/
structure Attribute where
  name : String
  args : Option String
deriving DecidableEq, Repr

/-- a field declaration; `type` is the base type as written, without `[]` and `?` -/
structure FieldDecl where
  name : String
  type : String
  array : Bool
  optional : Bool
  attributes : List Attribute
  documentation : Option String
  line : Nat
deriving DecidableEq, Repr

def FieldDecl.attribute? (d : FieldDecl) (name : String) : Option Attribute :=
  d.attributes.find? fun a => a.name == name

def FieldDecl.hasAttribute (d : FieldDecl) (name : String) : Bool :=
  (d.attribute? name).isSome

structure ValueDecl where
  name : String
  attributes : List Attribute
  documentation : Option String
  line : Nat
deriving DecidableEq, Repr

/-- one line of a block body -/
inductive Property where
  | field (decl : FieldDecl)
  | value (decl : ValueDecl)
  | blockAttribute (attr : Attribute)
  | assignment (key value : String)
deriving DecidableEq, Repr

/-- a block; the header may leave out the name -/
structure Block where
  kind : BlockKind
  name : Option String
  line : Nat
  documentation : Option String
  properties : List Property
deriving DecidableEq, Repr

def Property.field? : Property → Option FieldDecl
  | .field d => some d
  | _ => none

def Property.value? : Property → Option ValueDecl
  | .value d => some d
  | _ => none

def Block.fields (b : Block) : List FieldDecl := b.properties.filterMap Property.field?

def Block.values (b : Block) : List ValueDecl := b.properties.filterMap Property.value?

end ResolverTypes.DataModel
