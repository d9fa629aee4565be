import ResolverTypes.Schema.Definition
import ResolverTypes.Schema.Sdl.Literal

/-!
# Schema documents

A document is one definition after the other.  Keywords need no separator after them.  A body in
braces or parentheses has at least one entry, but a definition may leave its body out; an extension
has to add something.
-/

namespace ResolverTypes.Schema.Sdl
open Text Text.Reader

/-! ## directives -/

/-- `name: value` between the parentheses of a directive -/
def constArgument : Reader Unit := do
  let _ ← name
  word ":"
  constValue

/-- `@name` or `@name(arguments)` -/
def directiveUse : Reader Unit := do
  word "@"
  let _ ← name
  let _ ← optional do
    word "("
    let _ ← many1 constArgument
    word ")"

def directiveUses : Reader Unit := do
  let _ ← many1 directiveUse

def directiveLocations : List String :=
  ["QUERY", "MUTATION", "SUBSCRIPTION", "FIELD_DEFINITION", "FIELD", "FRAGMENT_DEFINITION",
    "FRAGMENT_SPREAD", "INLINE_FRAGMENT", "SCHEMA", "SCALAR", "OBJECT", "ARGUMENT_DEFINITION",
    "INTERFACE", "UNION", "ENUM_VALUE", "ENUM", "INPUT_OBJECT", "INPUT_FIELD_DEFINITION",
    "VARIABLE_DEFINITION"]

/-- the first location of a list that stands here; longer names come before their starts -/
def locationOf : List String → Reader Unit
  | [] => fail
  | l :: ls => word l <|> locationOf ls

def directiveLocation : Reader Unit := locationOf directiveLocations

/-! ## fields -/

def typeRef : Reader TypeRef := token readTypeRef

def inputValue : Reader (Argument × Option String) := do
  let description ← optional stringValue
  let n ← name
  word ":"
  let type ← typeRef
  let default ← optional do
    word "="
    constValue
  let _ ← optional directiveUses
  return (⟨n, type, default.isSome⟩, description)

def argumentList : Reader (List Argument) := do
  word "("
  let args ← many1 inputValue
  word ")"
  return args.map Prod.fst

def fieldDefinition : Reader Field := do
  let description ← optional stringValue
  let n ← name
  let args ← optional argumentList
  word ":"
  let type ← typeRef
  let _ ← optional directiveUses
  return ⟨n, type, args.getD [], description⟩

def fieldList : Reader (List Field) := do
  word "\x7b"
  let fields ← many1 fieldDefinition
  word "\x7d"
  return fields

/-- input fields take no arguments -/
def inputFieldList : Reader (List Field) := do
  word "\x7b"
  let values ← many1 inputValue
  word "\x7d"
  return values.map fun (a, description) => ⟨a.name, a.type, [], description⟩

def enumValueList : Reader (List String) := do
  word "\x7b"
  let values ← many1 do
    let _ ← optional stringValue
    let v ← enumValue
    let _ ← optional directiveUses
    return v
  word "\x7d"
  return values

/-- names joined by a separator, which may also stand before the first one -/
def joinedNames (separator : String) : Reader (List String) := do
  let _ ← optional (word separator)
  let first ← name
  let rest ← many do
    word separator
    name
  return first :: rest

def implementsList : Reader (List String) := do
  word "implements"
  joinedNames "&"

def memberList : Reader (List String) := do
  word "="
  joinedNames "|"

/-! ## definitions -/

/-- a type of the given kind without content -/
def blankType (kind : TypeKind) (description : Option String) (n : String) : TypeDef :=
  ⟨n, kind, description, [], [], [], []⟩

/-- the body of a definition: directives, then the content, both of which may be missing -/
def definitionBody {α : Type} (content : Reader (List α)) : Reader (List α) := do
  let _ ← optional directiveUses
  return (← optional content).getD []

/-- the body of an extension: content after directives, or directives alone -/
def extensionBody {α : Type} (content : Reader (List α)) : Reader (List α) :=
  (do
    let _ ← optional directiveUses
    content)
  <|> (do
    directiveUses
    return [])

/-- `description keyword name` -/
def definitionHead (keyword : String) : Reader (Option String × String) := do
  let description ← optional stringValue
  word keyword
  return (description, ← name)

def extensionHead (keyword : String) : Reader String := do
  word "extend"
  word keyword
  name

def scalarType : Reader Definition :=
  (do
    let (description, n) ← definitionHead "scalar"
    let _ ← optional directiveUses
    return .type (blankType .scalar description n))
  <|> (do
    let n ← extensionHead "scalar"
    directiveUses
    return .extension (blankType .scalar none n))

def objectType : Reader Definition :=
  (do
    let (description, n) ← definitionHead "type"
    let interfaces := (← optional implementsList).getD []
    let fields ← definitionBody fieldList
    return .type { blankType .object description n with fields, interfaces })
  <|> (do
    let n ← extensionHead "type"
    (do
      let interfaces := (← optional implementsList).getD []
      let fields ← extensionBody fieldList
      return .extension { blankType .object none n with fields, interfaces })
    <|> (do
      let interfaces ← implementsList
      return .extension { blankType .object none n with interfaces }))

def interfaceType : Reader Definition :=
  (do
    let (description, n) ← definitionHead "interface"
    let interfaces := (← optional implementsList).getD []
    let fields ← definitionBody fieldList
    return .type { blankType .interface description n with fields, interfaces })
  <|> (do
    let n ← extensionHead "interface"
    let interfaces := (← optional implementsList).getD []
    let fields ← extensionBody fieldList
    return .extension { blankType .interface none n with fields, interfaces })

def unionType : Reader Definition :=
  (do
    let (description, n) ← definitionHead "union"
    let members ← definitionBody memberList
    return .type { blankType .union description n with members })
  <|> (do
    let n ← extensionHead "union"
    let members ← extensionBody memberList
    return .extension { blankType .union none n with members })

def enumType : Reader Definition :=
  (do
    let (description, n) ← definitionHead "enum"
    let enumValues ← definitionBody enumValueList
    return .type { blankType .enumeration description n with enumValues })
  <|> (do
    let n ← extensionHead "enum"
    let enumValues ← extensionBody enumValueList
    return .extension { blankType .enumeration none n with enumValues })

def inputType : Reader Definition :=
  (do
    let (description, n) ← definitionHead "input"
    let fields ← definitionBody inputFieldList
    return .type { blankType .inputObject description n with fields })
  <|> (do
    let n ← extensionHead "input"
    let fields ← extensionBody inputFieldList
    return .extension { blankType .inputObject none n with fields })

def operationType : Reader (Operation × String) := do
  let op ← (word "query" >>= fun _ => pure .query)
    <|> (word "mutation" >>= fun _ => pure .mutation)
    <|> (word "subscription" >>= fun _ => pure .subscription)
  word ":"
  return (op, ← name)

/-- the roots a schema block names; an operation may be named once -/
def rootsOf? : List (Operation × String) → Roots → Option Roots
  | [], roots => some roots
  | (op, n) :: rest, roots =>
    if (roots.get op).isSome then none else rootsOf? rest (roots.set op n)

def operationList : Reader Roots := do
  word "\x7b"
  let ops ← many1 operationType
  word "\x7d"
  match rootsOf? ops .none with
  | some roots => return roots
  | none => fail

/-- a schema block names the query type; an extension of it need not -/
def schemaBlock : Reader Definition :=
  (do
    word "schema"
    let _ ← optional directiveUses
    let roots ← operationList
    if roots.query.isNone then fail else return .schema roots)
  <|> (do
    word "extend"
    word "schema"
    (do
      let _ ← optional directiveUses
      return .schema (← operationList))
    <|> (do
      directiveUses
      return .schema .none))

/-- directive definitions are read and say nothing about types -/
def directiveDefinition : Reader Definition := do
  let _ ← optional stringValue
  word "directive"
  word "@"
  let _ ← name
  let _ ← optional argumentList
  let _ ← optional (word "repeatable")
  word "on"
  let _ ← optional (word "|")
  directiveLocation
  let _ ← many do
    word "|"
    directiveLocation
  return .directive

def definition : Reader Definition :=
  schemaBlock <|> scalarType <|> objectType <|> interfaceType <|> unionType <|> enumType
    <|> inputType <|> directiveDefinition

/-- the definitions of a document, which has at least one -/
def document : Reader (List Definition) := do
  let definitions ← many1 definition
  endOfText
  return definitions

/-- the definitions of a schema text, unless its syntax is wrong -/
def parse? (source : String) : Option (List Definition) :=
  (document source.toList).map Prod.fst

end ResolverTypes.Schema.Sdl
