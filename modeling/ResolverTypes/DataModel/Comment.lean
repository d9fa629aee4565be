/-!
# Trailing comments

`//` starts a comment unless it stands inside a string literal.  The scan walks the UTF-8 bytes of
the line: a quote opens or closes a string, and inside a string a backslash hides the byte after
it.  Quotes, slashes and backslashes are ASCII, so the cut always falls between two characters.
-/

namespace ResolverTypes.DataModel

def utf8 (cs : List Char) : List UInt8 := cs.flatMap String.utf8EncodeChar

def quoteByte : UInt8 := 0x22

def escapeByte : UInt8 := 0x5C

def slashByte : UInt8 := 0x2F

/-- the number of bytes before the first comment mark outside a string, or the number of all bytes;
`quoted` says whether the scan stands inside a string -/
def commentOffset (quoted : Bool) : List UInt8 → Nat
  | [] => 0
  | [_] => 1
  | b :: b' :: bs =>
    if quoted && b == escapeByte then 2 + commentOffset quoted bs
    else if b == quoteByte then 1 + commentOffset (!quoted) (b' :: bs)
    else if !quoted && b == slashByte && b' == slashByte then 0
    else 1 + commentOffset quoted (b' :: bs)

/-- the longest start of a text that fits into a number of UTF-8 bytes -/
def takeBytes (n : Nat) : List Char → List Char
  | [] => []
  | c :: cs => if c.utf8Size ≤ n then c :: takeBytes (n - c.utf8Size) cs else []

/-- a line without its trailing comment -/
def stripComment (line : List Char) : List Char :=
  takeBytes (commentOffset false (utf8 line)) line

end ResolverTypes.DataModel
