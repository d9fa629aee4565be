import ResolverTypes.Declaration.Comment
import ResolverTypes.TypeExpr

/-!
# Declarations of the shared artifacts

A shared artifact is a list of exported aliases and interfaces under a header.  Keeping them as
data says which names an artifact declares; the text follows from it.
-/

namespace ResolverTypes
open Text

namespace Declaration

/-- the first line of every generated file -/
def generatedHeader : String := "// Code generated by sdlcodegen. DO NOT EDIT."

/-- what an alias stands for -/
inductive Body where
  | type (type : TypeExpr)
  /-- a union of declared names; nothing at all is `never` -/
  | union (members : List String)
deriving DecidableEq, Repr

structure Property where
  documentation : Option String
  name : String
  optional : Bool
  type : TypeExpr
deriving DecidableEq, Repr

end Declaration

inductive Declaration where
  | alias (documentation : Option String) (name : String) (body : Declaration.Body)
  | interface (documentation : Option String) (name : String)
      (properties : List Declaration.Property)
deriving DecidableEq, Repr

namespace Declaration

def name : Declaration → String
  | .alias _ name _ => name
  | .interface _ name _ => name

def Body.chars (home : Artifact) : Body → List Char
  | .type t => t.chars (some home)
  | .union members =>
    if members.isEmpty then "never".toList
    else join " | ".toList (members.map String.toList)

def Property.chars (home : Artifact) (p : Property) : List Char :=
  comment p.documentation "  ".toList ++ "  ".toList ++ TypeExpr.keyChars p.name.toList ++
    (if p.optional then ['?'] else []) ++ ": ".toList ++ p.type.chars (some home) ++ ";\n".toList

def chars (home : Artifact) : Declaration → List Char
  | .alias doc name body =>
    comment doc [] ++ "export type ".toList ++ name.toList ++ " = ".toList ++ body.chars home ++
      ";\n".toList
  | .interface doc name properties =>
    comment doc [] ++ "export interface ".toList ++ name.toList ++ " \x7b\n".toList ++
      properties.flatMap (Property.chars home) ++ "\x7d\n".toList

/-- the text of an artifact: the header, the source it was made from, and its declarations -/
def artifactText (home : Artifact) (source : String) (declarations : List Declaration) : String :=
  generatedHeader ++ "\n// Source: " ++ source ++ "\n" ++
    String.ofList (declarations.flatMap fun d => '\n' :: d.chars home)

end Declaration

end ResolverTypes
