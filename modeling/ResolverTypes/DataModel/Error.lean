import ResolverTypes.DataModel.Block

/-!
# What can be wrong with a data-model schema

A `Fault` is what is wrong with one line; an `Error` adds the place, or names the declarations
that do not fit together.
-/

namespace ResolverTypes.DataModel

inductive Fault where
  | unmatchedBrace
  | outsideBlock (line : String)
  | severalBlockAttributes
  | malformedField (line : String)
  | malformedValue (line : String)
  | malformedAssignment (line : String)
  | expectedAttribute (found : String)
  | missingAttributeName
  | unbalancedParentheses (name : String)
deriving DecidableEq, Repr

def Fault.message : Fault → String
  | .unmatchedBrace => "unmatched '\x7d'"
  | .outsideBlock line => "unexpected '" ++ line ++ "' outside of a block"
  | .severalBlockAttributes => "expected a single block attribute"
  | .malformedField line => "malformed field declaration '" ++ line ++ "'"
  | .malformedValue line => "malformed enum value '" ++ line ++ "'"
  | .malformedAssignment line => "malformed assignment '" ++ line ++ "'"
  | .expectedAttribute found => "expected an attribute, found '" ++ found ++ "'"
  | .missingAttributeName => "attribute is missing a name"
  | .unbalancedParentheses name => "unbalanced parentheses in @" ++ name

inductive Error where
  | parse (line : Nat) (fault : Fault)
  | unterminatedBlock (kind : BlockKind) (line : Nat)
  | missingBlockName (kind : BlockKind) (line : Nat)
  | duplicateDeclaration (name : String)
  | duplicateField (model field : String)
  | unknownFieldType (model field type : String)
  | danglingRelation (model field target : String)
deriving DecidableEq, Repr

def Error.message : Error → String
  | .parse line fault =>
    "Prisma schema parse error on line " ++ toString line ++ ": " ++ fault.message
  | .unterminatedBlock kind line =>
    "Unterminated " ++ kind.keyword ++ " block starting on line " ++ toString line
  | .missingBlockName kind line =>
    kind.keyword ++ " block on line " ++ toString line ++ " is missing a name"
  | .duplicateDeclaration name => "Duplicate declaration of '" ++ name ++ "' in Prisma schema"
  | .duplicateField model field => "Duplicate field '" ++ field ++ "' on model '" ++ model ++ "'"
  | .unknownFieldType model field type =>
    "Field '" ++ model ++ "." ++ field ++ "' references undeclared type '" ++ type ++ "'"
  | .danglingRelation model field target =>
    "Relation field '" ++ model ++ "." ++ field ++ "' references missing model '" ++ target ++ "'"

def Error.line? : Error → Option Nat
  | .parse line _ | .unterminatedBlock _ line | .missingBlockName _ line => some line
  | .duplicateDeclaration _ | .duplicateField _ _ | .unknownFieldType _ _ _
  | .danglingRelation _ _ _ => none

end ResolverTypes.DataModel
