import ResolverTypes.Text.Lines
import ResolverTypes.Text.Reader

/-!
# Tokens of the schema language

Blanks, commas and comments separate tokens and mean nothing else.
-/

namespace ResolverTypes.Schema.Sdl
open Text

/-- blanks, commas and the byte order mark separate tokens -/
def isIgnored (c : Char) : Bool :=
  c == ' ' || c == ',' || c == '\t' || c == '\ufeff' || c == '\r' || c == '\n'

def isLineEnd (c : Char) : Bool := c == '\r' || c == '\n'

/-- drops separators and comments; `comment` says whether the text starts inside a comment -/
def skipIgnored (comment : Bool) : List Char → List Char
  | [] => []
  | c :: cs =>
    if comment then skipIgnored (!isLineEnd c) cs
    else if c == '#' then skipIgnored true cs
    else if isIgnored c then skipIgnored false cs
    else c :: cs

/-- reads after the ignored text -/
def token {α : Type} (p : Reader α) : Reader α := fun cs => p (skipIgnored false cs)

def word (s : String) : Reader Unit := token fun cs =>
  (dropHead? s.toList cs).map fun rest => ((), rest)

def endOfText : Reader Unit := token fun cs => if cs.isEmpty then some ((), []) else none

end ResolverTypes.Schema.Sdl
