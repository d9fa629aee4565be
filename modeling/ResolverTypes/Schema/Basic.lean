import ResolverTypes.Schema.Definition
import ResolverTypes.Schema.Sdl.Document

/-!
# GraphQL schemas

A schema is put together from the definitions of a document: first the types, then the extensions
(which may stand before the type they extend), then every reference is checked, and at last the
types of the root operations are looked up.
-/

namespace ResolverTypes

namespace Schema

inductive Error where
  | malformed
  | duplicateType (name : String)
  | missingRootType (operation : Operation) (name : String)
  | unknownType (name referencedBy : String)
  | orphanExtension (name : String)
deriving DecidableEq, Repr

def Error.message : Error → String
  | .malformed => "SDL syntax error: unexpected text"
  | .duplicateType name => "Type '" ++ name ++ "' is defined more than once"
  | .missingRootType operation name =>
    "Schema declares " ++ operation.word ++ " type '" ++ name ++ "' which is not defined"
  | .unknownType name referencedBy =>
    "Unknown type '" ++ name ++ "' referenced by " ++ referencedBy
  | .orphanExtension name => "Cannot extend type '" ++ name ++ "' because it is not defined"

def builtinScalars : List String := ["ID", "String", "Int", "Float", "Boolean"]

def isBuiltin (name : String) : Bool := builtinScalars.contains name

end Schema

/-- a schema: its types in order of their definitions, and the types of its root operations -/
structure Schema where
  types : List Schema.TypeDef
  roots : Schema.Roots
deriving DecidableEq, Repr

namespace Schema

def findType? (types : List TypeDef) (name : String) : Option TypeDef :=
  types.find? fun t => t.name == name

def defines (types : List TypeDef) (name : String) : Bool := types.any fun t => t.name == name

def type? (s : Schema) (name : String) : Option TypeDef := findType? s.types name

/-- the first field of that name in the type of that name -/
def field? (s : Schema) (typeName fieldName : String) : Option Field :=
  (s.type? typeName).bind fun t => t.field? fieldName

/-- the root types that are there: query, mutation, subscription -/
def rootNames (s : Schema) : List String :=
  [s.roots.query, s.roots.mutation, s.roots.subscription].filterMap id

def isRoot (s : Schema) (name : String) : Bool := s.rootNames.contains name

def isEnum (s : Schema) (name : String) : Bool :=
  match s.type? name with
  | some t => t.kind == .enumeration
  | none => false

/-- the object types, roots apart, that declare a field of that name -/
def objectsWithField (s : Schema) (fieldName : String) : List TypeDef :=
  s.types.filter fun t =>
    t.kind == .object && !s.isRoot t.name && (t.field? fieldName).isSome

/-! ## definitions -/

/-- the defined types in order; `seen` holds the names so far -/
def baseTypes (seen : List String) : List Definition → Except Error (List TypeDef)
  | [] => .ok []
  | .type t :: rest =>
    if seen.contains t.name then .error (.duplicateType t.name)
    else do
      let ts ← baseTypes (t.name :: seen) rest
      return t :: ts
  | _ :: rest => baseTypes seen rest

def extensions (definitions : List Definition) : List TypeDef :=
  definitions.filterMap fun
    | .extension t => some t
    | _ => none

/-- the root names the schema blocks give; later blocks win -/
def declaredRoots (definitions : List Definition) : Roots :=
  definitions.foldl (fun roots d =>
    match d with
    | .schema later => roots.override later
    | _ => roots) .none

/-! ## extensions -/

/-- a type with what an extension adds at the end of its lists -/
def TypeDef.extend (t ext : TypeDef) : TypeDef :=
  { t with
    fields := t.fields ++ ext.fields
    enumValues := t.enumValues ++ ext.enumValues
    members := t.members ++ ext.members
    interfaces := t.interfaces ++ ext.interfaces }

def extendTypes (types : List TypeDef) (ext : TypeDef) : Except Error (List TypeDef) :=
  if defines types ext.name then
    .ok (types.map fun t => if t.name = ext.name then t.extend ext else t)
  else .error (.orphanExtension ext.name)

def extendAll (types : List TypeDef) : List TypeDef → Except Error (List TypeDef)
  | [] => .ok types
  | ext :: rest => do
    let types ← extendTypes types ext
    extendAll types rest

/-! ## references -/

/-- the type names a field mentions, each with the place that mentions it -/
def fieldReferences (owner : String) (f : Field) : List (String × String) :=
  let place := owner ++ "." ++ f.name
  (f.type.baseName, place) ::
    f.arguments.map fun a => (a.type.baseName, place ++ "(" ++ a.name ++ ")")

/-- the type names a type mentions, each with the place that mentions it -/
def references (t : TypeDef) : List (String × String) :=
  t.fields.flatMap (fieldReferences t.name) ++
    (t.members ++ t.interfaces).map fun name => (name, t.name)

/-- whether a name may be referred to -/
def isKnown (types : List TypeDef) (name : String) : Bool := isBuiltin name || defines types name

/-- every reference names a built-in scalar or a defined type -/
def checkReferences (types : List TypeDef) : Except Error Unit :=
  match (types.flatMap references).find? fun r => !isKnown types r.1 with
  | some (name, place) => .error (.unknownType name place)
  | none => .ok ()

/-! ## roots -/

/-- the type of an operation: the declared one, which has to exist, or the usual one if it does -/
def resolveRoot (types : List TypeDef) (declared : Roots) (op : Operation) :
    Except Error (Option String) :=
  match declared.get op with
  | some name =>
    if defines types name then .ok (some name) else .error (.missingRootType op name)
  | none => .ok (if defines types op.defaultType then some op.defaultType else none)

/-! ## building -/

def ofDefinitions (definitions : List Definition) : Except Error Schema := do
  let types ← baseTypes [] definitions
  let types ← extendAll types (extensions definitions)
  checkReferences types
  let declared := declaredRoots definitions
  let query ← resolveRoot types declared .query
  let mutation ← resolveRoot types declared .mutation
  let subscription ← resolveRoot types declared .subscription
  return ⟨types, ⟨query, mutation, subscription⟩⟩

def parse (source : String) : Except Error Schema :=
  match Sdl.parse? source with
  | some definitions => ofDefinitions definitions
  | none => .error .malformed

end Schema

end ResolverTypes
