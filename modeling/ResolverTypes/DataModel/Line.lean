import ResolverTypes.DataModel.Attribute
import ResolverTypes.Text.Name

/-!
# Lines of a data-model schema

A line is looked at after its comment is cut and its ends are trimmed.  Outside a block it is a
header such as `model Post {` or `enum Empty {}`; inside a block it is a block attribute, or what
the kind of the block asks for: a field, an enum value or an assignment.
-/

namespace ResolverTypes.DataModel
open Text

/-- the rest of a text after at least one blank -/
def takeGap? : List Char → Option (List Char)
  | [] => none
  | c :: cs => if isBlank c then some (trimStart cs) else none

/-! ## headers -/

/-- the head of a block; `closed` says that the header line also closes it -/
structure Header where
  kind : BlockKind
  name : Option String
  closed : Bool
deriving DecidableEq, Repr

/-- the end of a header: an opening brace, and perhaps a closing one; tells whether it closes -/
def headerEnd? (cs : List Char) : Option Bool :=
  match trimStart cs with
  | '\x7b' :: rest =>
    match trimStart rest with
    | [] => some false
    | ['\x7d'] => some true
    | _ => none
  | _ => none

/-- reads `kind name {`, where the name may be missing and the block may close at once -/
def readHeader? (cs : List Char) : Option Header := do
  let kind ← BlockKind.ofKeyword? (String.ofList (cs.takeWhile isNameChar))
  let rest := trimStart (cs.dropWhile isNameChar)
  match takeName? rest with
  | some (name, rest) => return ⟨kind, some (String.ofList name), ← headerEnd? rest⟩
  | none => return ⟨kind, none, ← headerEnd? rest⟩

/-! ## properties -/

/-- a field type as written: `Unsupported("...")` or a name -/
def takeType? (cs : List Char) : Option (List Char × List Char) :=
  let unsupported := do
    let body ← dropHead? "Unsupported(\"".toList cs
    let rest ← dropHead? "\")".toList (body.dropWhile (· ≠ '"'))
    return ("Unsupported(\"".toList ++ body.takeWhile (· ≠ '"') ++ "\")".toList, rest)
  unsupported <|> takeName? cs

/-- drops a marker if the text starts with it, and tells whether it did -/
def takeMark (mark cs : List Char) : Bool × List Char :=
  match dropHead? mark cs with
  | some rest => (true, rest)
  | none => (false, cs)

/-- the line rest that holds the attributes: nothing, or something after a blank -/
def takeTail? (cs : List Char) : Option (List Char) :=
  if cs.isEmpty then some [] else takeGap? cs

/-- a field line before its attributes are read -/
structure FieldLine where
  name : List Char
  type : List Char
  array : Bool
  optional : Bool
  tail : List Char
deriving DecidableEq, Repr

/-- reads `name Type[]? attributes` -/
def readField? (cs : List Char) : Option FieldLine := do
  let (name, rest) ← takeName? cs
  let rest ← takeGap? rest
  let (type, rest) ← takeType? rest
  let (array, rest) := takeMark "[]".toList rest
  let (optional, rest) := takeMark "?".toList rest
  return ⟨name, type, array, optional, ← takeTail? rest⟩

/-- reads `NAME attributes` -/
def readValue? (cs : List Char) : Option (List Char × List Char) := do
  let (name, rest) ← takeName? cs
  return (name, ← takeTail? rest)

/-- reads `key = value`; the value is trimmed and not empty -/
def readAssignment? (cs : List Char) : Option (List Char × List Char) := do
  let (key, rest) ← takeName? cs
  let rest ← dropHead? ['='] (trimStart rest)
  let value := trim rest
  if value.isEmpty then none else return (key, value)

/-- reads a line inside a block of the given kind -/
def readProperty (kind : BlockKind) (cs : List Char) (line : Nat) (docs : Option String) :
    Except Fault Property :=
  match dropHead? "@@".toList cs with
  | some rest => do
    match ← scanAttributes ('@' :: rest) with
    | [attr] => return .blockAttribute attr
    | _ => throw .severalBlockAttributes
  | none =>
    match kind with
    | .model | .view | .composite =>
      match readField? cs with
      | none => throw (.malformedField (String.ofList cs))
      | some f => do
        let attributes ← scanAttributes f.tail
        return .field
          ⟨String.ofList f.name, String.ofList f.type, f.array, f.optional, attributes, docs, line⟩
    | .enumeration =>
      match readValue? cs with
      | none => throw (.malformedValue (String.ofList cs))
      | some (name, tail) => do
        let attributes ← scanAttributes tail
        return .value ⟨String.ofList name, attributes, docs, line⟩
    | .datasource | .generator =>
      match readAssignment? cs with
      | none => throw (.malformedAssignment (String.ofList cs))
      | some (key, value) => return .assignment (String.ofList key) (String.ofList value)

end ResolverTypes.DataModel
