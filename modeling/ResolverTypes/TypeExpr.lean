import ResolverTypes.Text.Lines

/-!
# Type expressions of the declarations

Facts hold type expressions instead of text, so that one fact can be printed inside the artifact
that declares a name (`Post`) and in a service declaration that imports it (`RT.Post`).

`render home` prints an expression as it reads inside the artifact `home`; a name of another
artifact is qualified with its namespace.
-/

namespace ResolverTypes
open Text

/-- the shared artifact that declares a named type -/
inductive Artifact where
  /-- declarations of the database models -/
  | schemaTypes
  /-- declarations of the GraphQL types -/
  | returnTypes
deriving DecidableEq, Repr

/-- the namespace under which service declarations import an artifact -/
def Artifact.importName : Artifact → String
  | .schemaTypes => "DB"
  | .returnTypes => "RT"

mutual

inductive TypeExpr where
  | string
  | number
  | bigInt
  | boolean
  | date
  | bytes
  | unknown
  /-- a union of string literals -/
  | literals (values : List String)
  | named (artifact : Artifact) (name : String)
  | array (item : TypeExpr)
  | nullable (inner : TypeExpr)
  | object (members : Members)
  /-- a type text taken as it is -/
  | verbatim (text : String)
deriving DecidableEq, Repr

inductive Members where
  | nil
  | cons (name : String) (optional : Bool) (type : TypeExpr) (rest : Members)
deriving DecidableEq, Repr

end

instance : Inhabited TypeExpr := ⟨.unknown⟩

structure Member where
  name : String
  type : TypeExpr
  optional : Bool
deriving DecidableEq, Repr

def Members.ofList : List Member → Members
  | [] => .nil
  | m :: ms => .cons m.name m.optional m.type (ofList ms)

def Members.toList : Members → List Member
  | .nil => []
  | .cons name optional type rest => ⟨name, type, optional⟩ :: rest.toList

theorem Members.toList_ofList (ms : List Member) : (Members.ofList ms).toList = ms := by
  induction ms with
  | nil => rfl
  | cons m ms ih => simp [Members.ofList, Members.toList, ih]

namespace TypeExpr

def ofMembers (members : List Member) : TypeExpr := .object (.ofList members)

/-- `T | null`; what is nullable or unknown already stays as it is -/
def orNull : TypeExpr → TypeExpr
  | .nullable inner => .nullable inner
  | .unknown => .unknown
  | other => .nullable other

def isUnknown : TypeExpr → Bool
  | .unknown => true
  | _ => false

/-! ## printing -/

/-- doubles every backslash -/
def escapeBackslashes (cs : List Char) : List Char :=
  cs.flatMap fun c => if c = '\\' then ['\\', '\\'] else [c]

/-- puts a backslash before every quote -/
def escapeQuotes (cs : List Char) : List Char :=
  cs.flatMap fun c => if c = '"' then ['\\', '"'] else [c]

/-- a text between quotes; backslashes are escaped first, then quotes -/
def quoted (cs : List Char) : List Char :=
  '"' :: (escapeQuotes (escapeBackslashes cs) ++ ['"'])

/-- an ASCII identifier -/
def isPlainKey : List Char → Bool
  | [] => false
  | c :: cs =>
    (c.isAlpha || c == '_' || c == '$') && cs.all fun c => c.isAlphanum || c == '_' || c == '$'

/-- a property name as a key: itself if it is an ASCII identifier, quoted otherwise -/
def keyChars (cs : List Char) : List Char := if isPlainKey cs then cs else quoted cs

mutual

/-- the text of an expression inside the artifact `home` -/
def chars (home : Option Artifact) : TypeExpr → List Char
  | .string => "string".toList
  | .number => "number".toList
  | .bigInt => "bigint".toList
  | .boolean => "boolean".toList
  | .date => "Date".toList
  | .bytes => "Uint8Array".toList
  | .unknown => "unknown".toList
  | .literals values =>
    if values.isEmpty then "never".toList
    else join " | ".toList (values.map fun v => quoted v.toList)
  | .named artifact name =>
    if home = some artifact then name.toList
    else artifact.importName.toList ++ '.' :: name.toList
  | .array item => "Array<".toList ++ item.chars home ++ ['>']
  | .nullable inner => inner.chars home ++ " | null".toList
  | .object .nil => ['\x7b', '\x7d']
  | .object (.cons name optional type rest) =>
    ['\x7b', ' '] ++ keyChars name.toList ++ (if optional then ['?'] else []) ++ [':', ' '] ++
      type.chars home ++ membersChars home rest ++ [' ', '\x7d']
  | .verbatim text => text.toList

/-- the text of the further members of an object type -/
def membersChars (home : Option Artifact) : Members → List Char
  | .nil => []
  | .cons name optional type rest =>
    [';', ' '] ++ keyChars name.toList ++ (if optional then ['?'] else []) ++ [':', ' '] ++
      type.chars home ++ membersChars home rest

end

def render (home : Option Artifact) (t : TypeExpr) : String := String.ofList (t.chars home)

/-! ## references -/

mutual

def refersTo (artifact : Artifact) : TypeExpr → Bool
  | .named a _ => a = artifact
  | .array item => item.refersTo artifact
  | .nullable inner => inner.refersTo artifact
  | .object members => membersReferTo artifact members
  | _ => false

def membersReferTo (artifact : Artifact) : Members → Bool
  | .nil => false
  | .cons _ _ type rest => type.refersTo artifact || membersReferTo artifact rest

end

def artifacts (t : TypeExpr) : List Artifact :=
  [Artifact.schemaTypes, Artifact.returnTypes].filter fun a => t.refersTo a

end TypeExpr

/-- a property name as a key: itself if it is an ASCII identifier, quoted otherwise -/
def propertyKey (name : String) : String := String.ofList (TypeExpr.keyChars name.toList)

end ResolverTypes
