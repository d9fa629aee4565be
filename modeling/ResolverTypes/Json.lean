/-!
# Indented JSON

A document value whose objects keep the order of their fields, and its text: two blanks of indent
per level, `[]` and `{}` for empty containers, one entry a line otherwise.  Only the quote, the
backslash and the control characters are escaped.
-/

namespace ResolverTypes

/-- a JSON value; objects keep their field order -/
inductive Json where
  | null
  | bool (value : Bool)
  | text (value : String)
  | list (items : List Json)
  | record (fields : List (String × Json))
deriving BEq, Repr

namespace Json

/-- the two lower-case hexadecimal digits of a byte -/
def hexPair (n : Nat) : List Char := [Nat.digitChar (n / 16), Nat.digitChar (n % 16)]

/-- a character inside a quoted text -/
def escapeChar (c : Char) : List Char :=
  if c == '"' then ['\\', '"']
  else if c == '\\' then ['\\', '\\']
  else if c == '\n' then ['\\', 'n']
  else if c == '\r' then ['\\', 'r']
  else if c == '\t' then ['\\', 't']
  else if c.toNat == 8 then ['\\', 'b']
  else if c.toNat == 12 then ['\\', 'f']
  else if c.toNat < 32 then ['\\', 'u', '0', '0'] ++ hexPair c.toNat
  else [c]

def quote (s : String) : String :=
  "\"" ++ String.ofList (s.toList.flatMap escapeChar) ++ "\""

def indent (depth : Nat) : String := String.ofList (List.replicate (2 * depth) ' ')

mutual

/-- the text of a value whose first line is already indented -/
def prettyAt (depth : Nat) : Json → String
  | .null => "null"
  | .bool true => "true"
  | .bool false => "false"
  | .text s => quote s
  | .list [] => "[]"
  | .list (item :: items) =>
    "[\n" ++ indent (depth + 1) ++ prettyAt (depth + 1) item ++ prettyItems (depth + 1) items ++
      "\n" ++ indent depth ++ "]"
  | .record [] => "\x7b\x7d"
  | .record ((key, value) :: fields) =>
    "\x7b\n" ++ indent (depth + 1) ++ quote key ++ ": " ++ prettyAt (depth + 1) value ++
      prettyFields (depth + 1) fields ++ "\n" ++ indent depth ++ "\x7d"

def prettyItems (depth : Nat) : List Json → String
  | [] => ""
  | item :: items => ",\n" ++ indent depth ++ prettyAt depth item ++ prettyItems depth items

def prettyFields (depth : Nat) : List (String × Json) → String
  | [] => ""
  | (key, value) :: fields =>
    ",\n" ++ indent depth ++ quote key ++ ": " ++ prettyAt depth value ++
      prettyFields depth fields

end

def pretty (j : Json) : String := prettyAt 0 j

def ofText? : Option String → Json
  | some s => .text s
  | none => .null

end Json

end ResolverTypes
