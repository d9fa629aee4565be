import ResolverTypes.Text.Name

/-!
# References to GraphQL types

A reference is a name or a list of references; every level is nullable unless it is marked `!`.
`TypeRef.chars` prints a reference and `readTypeRef` reads one back, without blanks inside.
-/

namespace ResolverTypes.Schema
open Text

inductive TypeRef where
  | named (name : String) (nullable : Bool)
  | list (item : TypeRef) (nullable : Bool)
deriving DecidableEq, Repr

namespace TypeRef

/-- whether the outermost level may be null -/
def nullable : TypeRef → Bool
  | .named _ nullable => nullable
  | .list _ nullable => nullable

def isList : TypeRef → Bool
  | .named _ _ => false
  | .list _ _ => true

/-- the name inside all list levels -/
def baseName : TypeRef → String
  | .named name _ => name
  | .list item _ => item.baseName

/-- the mark of a level that may not be null -/
def mark (nullable : Bool) : List Char := if nullable then [] else ['!']

def chars : TypeRef → List Char
  | .named name nullable => name.toList ++ mark nullable
  | .list item nullable => '[' :: (item.chars ++ ']' :: mark nullable)

def toText (t : TypeRef) : String := String.ofList t.chars

end TypeRef

/-! ## reading -/

def readName (cs : List Char) : Option (String × List Char) :=
  (takeName? cs).map fun r => (String.ofList r.1, r.2)

/-- the mark after a level: tells whether the level is nullable -/
def readMark : List Char → Bool × List Char
  | '!' :: cs => (false, cs)
  | cs => (true, cs)

/-- a type reference at the start of a text, nested at most `depth` deep -/
def readTypeRefIn : Nat → List Char → Option (TypeRef × List Char)
  | 0, _ => none
  | depth + 1, '[' :: cs => do
    let (item, rest) ← readTypeRefIn depth cs
    match rest with
    | ']' :: rest =>
      let (nullable, rest) := readMark rest
      return (.list item nullable, rest)
    | _ => none
  | _ + 1, cs => do
    let (name, rest) ← readName cs
    let (nullable, rest) := readMark rest
    return (.named name nullable, rest)

/-- a type reference at the start of a text, and the rest; a text of `n` characters nests at most
`n` deep -/
def readTypeRef (cs : List Char) : Option (TypeRef × List Char) := readTypeRefIn cs.length cs

end ResolverTypes.Schema
