/-!
# ASCII names

Both schema languages have names of ASCII letters, digits and underscores that do not start with a
digit.
-/

namespace ResolverTypes.Text

def isNameStart (c : Char) : Bool := c.isAlpha || c == '_'

def isNameChar (c : Char) : Bool := c.isAlphanum || c == '_'

/-- a name at the start of a text, and the rest -/
def takeName? : List Char → Option (List Char × List Char)
  | [] => none
  | c :: cs =>
    if isNameStart c then some (c :: cs.takeWhile isNameChar, cs.dropWhile isNameChar) else none

end ResolverTypes.Text
