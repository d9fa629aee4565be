import ResolverTypes.Double
import ResolverTypes.Schema.Sdl.Token
import ResolverTypes.Schema.TypeRef
import ResolverTypes.Text.Hex

/-!
# Literals of the schema language

Strings, block strings, numbers and constant values.  A description is the value of a string; of a
default value only the fact that it is well formed matters.
-/

namespace ResolverTypes.Schema.Sdl
open Text

/-! ## strings -/

/-- the character of four hexadecimal digits; surrogates are refused -/
def hexChar? (a b c d : Char) : Option Char := do
  let n := (← hexValue? a) * 4096 + (← hexValue? b) * 256 + (← hexValue? c) * 16 + (← hexValue? d)
  if 0xD800 ≤ n && n < 0xE000 then none else some (Char.ofNat n)

/-- the character a short escape stands for -/
def shortEscape? : Char → Option Char
  | '"' => some '"'
  | '\\' => some '\\'
  | '/' => some '/'
  | 'b' => some '\x08'
  | 'f' => some '\x0c'
  | 'n' => some '\n'
  | 'r' => some '\r'
  | 't' => some '\t'
  | _ => none

/-- the text up to the closing quote, with its escapes resolved -/
def stringBody : List Char → Option (List Char × List Char)
  | [] => none
  | '"' :: cs => some ([], cs)
  | '\\' :: 'u' :: a :: b :: c :: d :: cs => do
    let x ← hexChar? a b c d
    let (s, rest) ← stringBody cs
    return (x :: s, rest)
  | '\\' :: c :: cs => do
    let x ← shortEscape? c
    let (s, rest) ← stringBody cs
    return (x :: s, rest)
  | c :: cs =>
    if c == '\\' || isLineEnd c then none
    else (stringBody cs).map fun (s, rest) => (c :: s, rest)

/-- the raw text up to the three closing quotes; `\"""` does not close -/
def blockBody : List Char → Option (List Char × List Char)
  | [] => none
  | '\\' :: '"' :: '"' :: '"' :: cs =>
    (blockBody cs).map fun (s, rest) => ('\\' :: '"' :: '"' :: '"' :: s, rest)
  | '"' :: '"' :: '"' :: cs => some ([], cs)
  | c :: cs => (blockBody cs).map fun (s, rest) => (c :: s, rest)

/-! ## block strings -/

/-- the lines of a block string, which end at `\r\n`, `\r` or `\n`; `acc` holds the current line in
reverse -/
def blockLinesFrom (acc : List Char) : List Char → List (List Char)
  | [] => [acc.reverse]
  | '\r' :: '\n' :: cs => acc.reverse :: blockLinesFrom [] cs
  | c :: cs => if isLineEnd c then acc.reverse :: blockLinesFrom [] cs else blockLinesFrom (c :: acc) cs

def isIndentChar (c : Char) : Bool := c == ' ' || c == '\t'

def hasContent (line : List Char) : Bool := line.any fun c => !isIndentChar c

/-- the least indent of the lines that hold anything else -/
def commonIndent (lines : List (List Char)) : Nat :=
  (((lines.filter hasContent).map fun l => (l.takeWhile isIndentChar).length).min?).getD 0

/-- a line without the common indent; a line too short for it stays as it is -/
def dropIndent (n : Nat) (line : List Char) : List Char :=
  if n ≤ line.length then line.drop n else line

/-- lines without the empty ones at both ends -/
def dropEmptyEnds (lines : List (List Char)) : List (List Char) :=
  ((lines.dropWhile fun l => !hasContent l).reverse.dropWhile fun l => !hasContent l).reverse

/-- the value of a block string: the common indent of all lines but the first is removed, empty
lines at both ends are dropped -/
def blockValue (raw : List Char) : List Char :=
  match blockLinesFrom [] raw with
  | [] => []
  | first :: rest =>
    join ['\n'] (dropEmptyEnds (first :: rest.map (dropIndent (commonIndent rest))))

def stringValue : Reader String := token fun cs =>
  let block := do
    let body ← dropHead? "\"\"\"".toList cs
    let (raw, rest) ← blockBody body
    return (String.ofList (blockValue raw), rest)
  let plain := do
    let body ← dropHead? ['"'] cs
    let (s, rest) ← stringBody body
    return (String.ofList s, rest)
  block <|> plain

/-! ## numbers -/

def takeDigits (cs : List Char) : List Char × List Char :=
  (cs.takeWhile Char.isDigit, cs.dropWhile Char.isDigit)

/-- the digits before the point: a single zero, or digits that start with another one -/
def integerPart? : List Char → Option (List Char × List Char)
  | '0' :: cs => some (['0'], cs)
  | c :: cs => if c.isDigit then some (takeDigits (c :: cs)) else none
  | [] => none

/-- the digits after a point; nothing is taken unless there is at least one -/
def fractionPart : List Char → List Char × List Char
  | '.' :: cs =>
    match takeDigits cs with
    | ([], _) => ([], '.' :: cs)
    | (ds, rest) => (ds, rest)
  | cs => ([], cs)

/-- the sign and the digits of an exponent; nothing is taken unless there is at least one digit -/
def exponentPart (cs : List Char) : Option (Bool × List Char) × List Char :=
  let digits (negative : Bool) (ds : List Char) :=
    match takeDigits ds with
    | ([], _) => (none, cs)
    | (ds, rest) => (some (negative, ds), rest)
  match cs with
  | 'e' :: '+' :: ds | 'E' :: '+' :: ds => digits false ds
  | 'e' :: '-' :: ds | 'E' :: '-' :: ds => digits true ds
  | 'e' :: ds | 'E' :: ds => digits false ds
  | _ => (none, cs)

def digitValue (c : Char) : Nat := c.toNat - '0'.toNat

/-- `n` with a digit after its last one, if that stays below a limit -/
def pushDigit? (limit n : Nat) (c : Char) : Option Nat :=
  let m := n * 10 + digitValue c
  if m < limit then some m else none

/-- the leading digits of a number in 64 bits, and how many digits are left over -/
def leadingDigits : Nat → List Char → Nat × List Char
  | n, [] => (n, [])
  | n, c :: cs =>
    match pushDigit? (Nat.pow 2 64) n c with
    | some m => leadingDigits m cs
    | none => (n, c :: cs)

/-- a number as leading digits in 64 bits times a power of ten.  Digits before the point that are left
over raise the power; digits after the point that are left over do not count. -/
def scaled (whole fraction : List Char) : Nat × Int :=
  let (n, skipped) := leadingDigits 0 whole
  let (n, unused) := leadingDigits n fraction
  (n, (skipped.length : Int) - (fraction.length - unused.length : Nat))

/-- the value of an exponent in 31 bits, if it fits -/
def exponentValue? : Nat → List Char → Option Nat
  | n, [] => some n
  | n, c :: cs => (pushDigit? (Nat.pow 2 31) n c).bind fun m => exponentValue? m cs

/-- whether the double of `n` times the double of a power of ten is finite.  Only a power above the
first has to be looked at, since others make the number smaller. -/
def isFinite (n : Nat) (power : Int) : Bool :=
  if n == 0 || power < 0 then true
  else if 308 < power then false
  else Double.nearest n * Double.nearest (Nat.pow 10 power.toNat) < Double.limit

/-- whether a number can be held as a double -/
def isInRange (whole fraction : List Char) (exponent : Option (Bool × List Char)) : Bool :=
  let (n, power) := scaled whole fraction
  match exponent with
  | none => isFinite n power
  | some (negative, ds) =>
    match exponentValue? 0 ds with
    | some e => isFinite n (if negative then power - e else power + e)
    | none => n == 0 || negative

/-- a number: no leading zeros, no letter right after it, and no overflow -/
def numberLiteral : Reader Unit := token fun cs => do
  let unsigned := match cs with
    | '-' :: rest => rest
    | _ => cs
  let (whole, rest) ← integerPart? unsigned
  let (fraction, rest) := fractionPart rest
  let (exponent, rest) := exponentPart rest
  let followed := match rest with
    | c :: _ => isNameStart c
    | [] => false
  if followed || !isInRange whole fraction exponent then none
  else return ((), rest)

/-! ## constant values -/

def name : Reader String := token readName

def startsWith (s : String) (cs : List Char) : Bool := (dropHead? s.toList cs).isSome

/-- a name that does not start with `true`, `false` or `null` -/
def enumValue : Reader String := token fun cs =>
  if startsWith "true" cs || startsWith "false" cs || startsWith "null" cs then none
  else readName cs

def constValueIn : Nat → Reader Unit
  | 0 => Reader.fail
  | depth + 1 =>
    numberLiteral
    <|> (stringValue >>= fun _ => pure ())
    <|> word "true" <|> word "false" <|> word "null"
    <|> (enumValue >>= fun _ => pure ())
    <|> (do
      word "["
      let _ ← Reader.many (constValueIn depth)
      word "]")
    <|> (do
      word "\x7b"
      let _ ← Reader.many (do
        let _ ← name
        word ":"
        constValueIn depth)
      word "\x7d")

def constValue : Reader Unit := fun cs => constValueIn (cs.length + 1) cs

end ResolverTypes.Schema.Sdl
