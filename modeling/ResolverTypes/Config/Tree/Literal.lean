import ResolverTypes.Double
import ResolverTypes.Text.Hex
import ResolverTypes.Text.Reader

/-!
# Literals of a configuration text

Strings in single or double quotes, on one line or on several, numbers and dates.
-/

namespace ResolverTypes.Config.Tree
open Text

/-! ## Characters -/

/-- the characters that may stand in strings and comments -/
def isPlain (c : Char) : Bool := c == '\t' || (0x20 ≤ c.toNat && c.toNat != 0x7F)

/-- the text after a line end, if one stands here -/
def dropLineEnd? : List Char → Option (List Char)
  | '\n' :: cs => some cs
  | '\r' :: '\n' :: cs => some cs
  | _ => none

/-- the character of a code point, if there is one -/
def charOf? (n : Nat) : Option Char :=
  if n < 0xD800 || (0xE000 ≤ n && n ≤ 0x10FFFF) then some (Char.ofNat n) else none

/-- the character of an escape, read after its backslash, and the text after it -/
def readEscape? : List Char → Option (Char × List Char)
  | 'b' :: cs => some ('\x08', cs)
  | 't' :: cs => some ('\t', cs)
  | 'n' :: cs => some ('\n', cs)
  | 'f' :: cs => some ('\x0c', cs)
  | 'r' :: cs => some ('\r', cs)
  | 'e' :: cs => some ('\x1b', cs)
  | '"' :: cs => some ('"', cs)
  | '\\' :: cs => some ('\\', cs)
  | 'x' :: cs => coded 2 cs
  | 'u' :: cs => coded 4 cs
  | 'U' :: cs => coded 8 cs
  | _ => none
where
  coded (n : Nat) (cs : List Char) : Option (Char × List Char) := do
    let (code, rest) ← readHex? n cs
    return (← charOf? code, rest)

/-! ## Strings on one line -/

def basicBody : (fuel : Nat) → List Char → Option (List Char × List Char)
  | 0, _ => none
  | _ + 1, '"' :: cs => some ([], cs)
  | fuel + 1, '\\' :: cs => do
    let (c, cs) ← readEscape? cs
    let (body, rest) ← basicBody fuel cs
    return (c :: body, rest)
  | fuel + 1, c :: cs =>
    if isPlain c then do
      let (body, rest) ← basicBody fuel cs
      return (c :: body, rest)
    else none
  | _ + 1, [] => none

/-- the rest of a string in single quotes, which has no escapes -/
def literalBody : List Char → Option (List Char × List Char)
  | '\'' :: cs => some ([], cs)
  | c :: cs =>
    if isPlain c then do
      let (body, rest) ← literalBody cs
      return (c :: body, rest)
    else none
  | [] => none

/-! ## Strings on several lines -/

/-- the text without the blanks and line ends at its start -/
def dropBlankLines : List Char → List Char
  | ' ' :: cs | '\t' :: cs | '\n' :: cs | '\r' :: '\n' :: cs => dropBlankLines cs
  | cs => cs

/-- the text after a line end and the blanks around it, if the line has ended here -/
def dropFold? (cs : List Char) : Option (List Char) :=
  (dropLineEnd? (cs.dropWhile fun c => c == ' ' || c == '\t')).map dropBlankLines

def countQuotes (quote : Char) (cs : List Char) : Nat := (cs.takeWhile (· == quote)).length

/-- the rest of a string in three quotes; up to two quotes may stand before the closing ones.  A
backslash at the end of a line joins it with the next text. -/
def multiBody (quote : Char) : (fuel : Nat) → List Char → Option (List Char × List Char)
  | 0, _ => none
  | _ + 1, [] => none
  | fuel + 1, c :: cs =>
    if c == quote then
      let n := countQuotes quote (c :: cs)
      if 3 ≤ n then
        if n ≤ 5 then some (List.replicate (n - 3) quote, (c :: cs).drop n) else none
      else do
        let (body, rest) ← multiBody quote fuel ((c :: cs).drop n)
        return (List.replicate n quote ++ body, rest)
    else if c == '\\' && quote == '"' then
      match dropFold? cs with
      | some rest => multiBody quote fuel rest
      | none => do
        let (e, cs) ← readEscape? cs
        let (body, rest) ← multiBody quote fuel cs
        return (e :: body, rest)
    else
      match dropLineEnd? (c :: cs) with
      | some rest => do
        let (body, after) ← multiBody quote fuel rest
        return ((if c == '\n' then ['\n'] else ['\r', '\n']) ++ body, after)
      | none =>
        if isPlain c then do
          let (body, rest) ← multiBody quote fuel cs
          return (c :: body, rest)
        else none

/-- a string on several lines, after its opening quotes; a line end right after them is left out -/
def multiString (quote : Char) (cs : List Char) : Option (List Char × List Char) :=
  multiBody quote (cs.length + 1) ((dropLineEnd? cs).getD cs)

def readString : Reader String := fun cs =>
  let found := match cs with
    | '"' :: '"' :: '"' :: cs => multiString '"' cs
    | '\'' :: '\'' :: '\'' :: cs => multiString '\'' cs
    | '"' :: cs => basicBody (cs.length + 1) cs
    | '\'' :: cs => literalBody cs
    | _ => none
  found.map fun (body, rest) => (String.ofList body, rest)

/-! ## Numbers -/

/-- digits with single underscores between them -/
def areDigits (isDigit : Char → Bool) : List Char → Bool
  | [] => false
  | [c] => isDigit c
  | c :: '_' :: cs => isDigit c && areDigits isDigit cs
  | c :: cs => isDigit c && areDigits isDigit cs

/-- decimal digits without a zero in front -/
def isWhole (cs : List Char) : Bool :=
  areDigits Char.isDigit cs && (cs.head? != some '0' || cs.length == 1)

/-- the number that digits stand for; underscores do not count -/
def digitsValue (base : Nat) (cs : List Char) : Nat :=
  cs.foldl (fun acc c => match hexValue? c with
    | some d => acc * base + d
    | none => acc) 0

def dropSign : List Char → List Char
  | '+' :: cs | '-' :: cs => cs
  | cs => cs

/-- an integer of at most 128 bits -/
def isInteger (cs : List Char) : Bool :=
  match cs with
  | '0' :: 'x' :: ds => areDigits (fun c => (hexValue? c).isSome) ds && digitsValue 16 ds < Nat.pow 2 128
  | '0' :: 'o' :: ds => areDigits (fun c => '0' ≤ c && c ≤ '7') ds && digitsValue 8 ds < Nat.pow 2 128
  | '0' :: 'b' :: ds => areDigits (fun c => c == '0' || c == '1') ds && digitsValue 2 ds < Nat.pow 2 128
  | '-' :: ds => isWhole ds && digitsValue 10 ds ≤ Nat.pow 2 127
  | _ => isWhole (dropSign cs) && digitsValue 10 (dropSign cs) < Nat.pow 2 128

/-- whether `m · 10 ^ e` lies below the limit of doubles.  Far from the limit the number of digits
decides it, so that no large power is computed. -/
def belowLimit (m : Nat) (e : Int) : Bool :=
  let size : Int := (Nat.toDigits 10 m).length + e
  if m == 0 || size < 300 then true
  else if 320 < size then false
  else if 0 ≤ e then m * Nat.pow 10 e.toNat < Double.limit
  else m < Double.limit * Nat.pow 10 (-e).toNat

/-- a number with a fraction or an exponent that a double can hold -/
def isFloat (cs : List Char) : Bool :=
  let cs := dropSign cs
  if cs == "inf".toList || cs == "nan".toList then true
  else
    let isMark (c : Char) : Bool := c == 'e' || c == 'E'
    let mantissa := cs.takeWhile fun c => !isMark c
    let exponent := cs.drop (mantissa.length + 1)
    let whole := mantissa.takeWhile (· != '.')
    let fraction := mantissa.drop (whole.length + 1)
    let hasExponent := mantissa.length < cs.length
    let hasFraction := whole.length < mantissa.length
    let e : Int := digitsValue 10 exponent
    let e := if exponent.head? == some '-' then -e else e
    isWhole whole && (hasExponent || hasFraction)
      && (!hasFraction || areDigits Char.isDigit fraction)
      && (!hasExponent || areDigits Char.isDigit (dropSign exponent))
      && belowLimit (digitsValue 10 (whole ++ fraction)) (e - (fraction.filter Char.isDigit).length)

/-! ## Dates -/

/-- the number of exactly `n` digits at the start of a text, and the text after them -/
def takeNumber? (n : Nat) (cs : List Char) : Option (Nat × List Char) :=
  let ds := cs.take n
  if ds.length == n && ds.all Char.isDigit then
    some (ds.foldl (fun acc d => acc * 10 + (d.toNat - '0'.toNat)) 0, cs.drop n)
  else none

def takeMark? (mark : Char) : List Char → Option (List Char)
  | c :: cs => if c == mark then some cs else none
  | [] => none

def isLeapYear (year : Nat) : Bool := year % 4 == 0 && (year % 100 != 0 || year % 400 == 0)

def daysIn (year month : Nat) : Nat :=
  match month with
  | 2 => if isLeapYear year then 29 else 28
  | 4 | 6 | 9 | 11 => 30
  | _ => 31

/-- the text after a date such as `1979-05-27` -/
def dropDate? (cs : List Char) : Option (List Char) := do
  let (year, cs) ← takeNumber? 4 cs
  let cs ← takeMark? '-' cs
  let (month, cs) ← takeNumber? 2 cs
  let cs ← takeMark? '-' cs
  let (day, cs) ← takeNumber? 2 cs
  if 1 ≤ month && month ≤ 12 && 1 ≤ day && day ≤ daysIn year month then some cs else none

/-- a time such as `07:32:00.5`, with its seconds written out, and the text after it -/
def takeTime? (cs : List Char) : Option (List Char × List Char) := do
  let (hour, rest) ← takeNumber? 2 cs
  let rest ← takeMark? ':' rest
  let (minute, rest) ← takeNumber? 2 rest
  if !(hour ≤ 23 && minute ≤ 59) then none
  let head := cs.take 5
  match rest with
  | ':' :: rest => do
    let (second, after) ← takeNumber? 2 rest
    if second > 60 then none
    let head := head ++ ':' :: rest.take 2
    match after with
    | '.' :: after =>
      let fraction := after.takeWhile Char.isDigit
      if fraction.isEmpty then none
      let shown := ((fraction.take 9).reverse.dropWhile (· == '0')).reverse
      return (head ++ (if shown.isEmpty then [] else '.' :: shown), after.drop fraction.length)
    | _ => return (head, after)
  | _ => return (head ++ ":00".toList, rest)

/-- the plain form of an offset from universal time; there may be none -/
def offset? : List Char → Option (List Char)
  | [] => some []
  | ['Z'] | ['z'] => some ['Z']
  | sign :: cs => do
    if !(sign == '+' || sign == '-') then none
    let (hour, rest) ← takeNumber? 2 cs
    let rest ← takeMark? ':' rest
    let (minute, rest) ← takeNumber? 2 rest
    if !(hour ≤ 23 && minute ≤ 59 && rest.isEmpty) then none
    return (if hour == 0 && minute == 0 then '+' else sign) :: cs

/-- a date, a time, or both, in its plain form -/
def dateText? (cs : List Char) : Option (List Char) :=
  match dropDate? cs with
  | some [] => some cs
  | some (mark :: rest) => do
    if !(mark == 'T' || mark == 't') then none
    let (time, rest) ← takeTime? rest
    return cs.take 10 ++ 'T' :: time ++ (← offset? rest)
  | none =>
    match takeTime? cs with
    | some (time, []) => some time
    | _ => none

/-- the characters of numbers, dates and words -/
def isScalarPart (c : Char) : Bool :=
  c.isAlphanum || c == '+' || c == '-' || c == '_' || c == '.' || c == ':'

/-- the number, date or word at the start of a text, and the text after it.  A date and its time may
be parted by a blank, which counts as a `T`. -/
def takeScalar (cs : List Char) : List Char × List Char :=
  let first := cs.takeWhile isScalarPart
  let rest := cs.drop first.length
  match dropDate? first, rest with
  | some [], ' ' :: after =>
    let second := after.takeWhile isScalarPart
    if second.head?.any Char.isDigit then (first ++ 'T' :: second, after.drop second.length)
    else (first, rest)
  | _, _ => (first, rest)

end ResolverTypes.Config.Tree
