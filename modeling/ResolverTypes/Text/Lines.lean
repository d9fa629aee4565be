/-!
# Lines

A text is cut after every line feed.  A carriage return right before the line feed belongs to the
line end and is dropped with it; a text that ends with a line feed has no further, empty line.
-/

namespace ResolverTypes.Text

/-- drops one carriage return at the end of a line read up to its line feed -/
def dropReturn (line : List Char) : List Char :=
  match line.getLast? with
  | some '\r' => line.dropLast
  | _ => line

/-- the lines of a text; `acc` holds the current line in reverse -/
def linesFrom (acc : List Char) : List Char → List (List Char)
  | [] => if acc.isEmpty then [] else [acc.reverse]
  | '\n' :: cs => dropReturn acc.reverse :: linesFrom [] cs
  | c :: cs => linesFrom (c :: acc) cs

/-- the lines of a text, without their line ends -/
def lines (cs : List Char) : List (List Char) := linesFrom [] cs

/-- the parts of a text between the occurrences of a character -/
def splitFrom (sep : Char) (acc : List Char) : List Char → List (List Char)
  | [] => [acc.reverse]
  | c :: cs => if c = sep then acc.reverse :: splitFrom sep [] cs else splitFrom sep (c :: acc) cs

/-- the parts of a text between the occurrences of a character; never empty -/
def splitOn (sep : Char) (cs : List Char) : List (List Char) := splitFrom sep [] cs

/-- the text before and the text after the first occurrence of a character -/
def splitOnce (sep : Char) : List Char → Option (List Char × List Char)
  | [] => none
  | c :: cs =>
    if c = sep then some ([], cs) else (splitOnce sep cs).map fun (a, b) => (c :: a, b)

/-- drops a given start of a list, or fails if the list starts otherwise -/
def dropHead? {α : Type} [DecidableEq α] : List α → List α → Option (List α)
  | [], cs => some cs
  | _ :: _, [] => none
  | p :: ps, c :: cs => if p = c then dropHead? ps cs else none

def join (sep : List Char) : List (List Char) → List Char
  | [] => []
  | [x] => x
  | x :: y :: xs => x ++ sep ++ join sep (y :: xs)

end ResolverTypes.Text
