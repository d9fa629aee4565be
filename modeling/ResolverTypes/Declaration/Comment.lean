import ResolverTypes.Text.Blank
import ResolverTypes.Text.Lines

/-!
# Documentation comments

Documentation of the schemas goes into the declarations as a block comment.  A text that could
close the comment is broken up first: `*/` becomes `*\/`.
-/

namespace ResolverTypes.Declaration
open Text

/-- puts a backslash into every `*/` -/
def breakCloser : List Char → List Char
  | [] => []
  | '*' :: '/' :: cs => '*' :: '\\' :: '/' :: breakCloser cs
  | c :: cs => c :: breakCloser cs

def commentLine (indent line : List Char) : List Char :=
  if line.isEmpty then indent ++ " *\n".toList else indent ++ " * ".toList ++ line ++ ['\n']

/-- the lines of a documentation text as they stand in a comment -/
def commentLines (doc : List Char) : List (List Char) := (lines (breakCloser doc)).map trimEnd

/-- the comment for a documentation text; nothing if there is no text -/
def comment (doc : Option String) (indent : List Char) : List Char :=
  match doc with
  | none => []
  | some doc =>
    let doc := trim doc.toList
    if doc.isEmpty then []
    else
      match commentLines doc with
      | [line] => indent ++ "/** ".toList ++ line ++ " */\n".toList
      | ls => indent ++ "/**\n".toList ++ ls.flatMap (commentLine indent) ++
          indent ++ " */\n".toList

end ResolverTypes.Declaration
