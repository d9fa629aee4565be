import ResolverTypes.Text.Blank
import ResolverTypes.Text.Hex
import ResolverTypes.Text.Identifier

/-!
# Script tokens

A token is read on demand from the text that is left, because what a `/`, a `}` or a `<` means is
decided by the grammar.  `Token.read` reads the token that stands first; the scanners for templates,
regular expressions and markup text start where the grammar asks for them.

Positions count characters from the start of the text.
-/

namespace ResolverTypes.Script
open Text

def isLineEnd (c : Char) : Bool :=
  c == '\n' || c == '\r' || c == '\u2028' || c == '\u2029'

/-- the characters that separate tokens -/
def isSpace (c : Char) : Bool := isBlank c || c == '\u180e' || c == '\u200b' || c == '\ufeff'

inductive Kind where
  | eof
  | word (name : String)
  /-- a name that is written with an escape, and so is none of the words that mean something -/
  | name (text : String)
  | punct (text : String)
  | string
  /-- a template, or its text up to the first hole if it has one; `badEscape` is where an escape of it
  means nothing -/
  | template (hasHole : Bool) (badEscape : Option Nat)
  | number
  | bigInt
  /-- text between the tags of an element -/
  | text
  /-- a character or literal that is no token; `pos` is where it goes wrong -/
  | bad (pos : Nat)
deriving DecidableEq, Repr

/-- a token with its place: `source` is the text from its first character on, which stands at `pos`,
`rest` is the text after it, and `newLine` says whether a line ends between the token before and this
one.  A token counts from `start`, which is before its first character if a marked line comes
first. -/
structure Token where
  kind : Kind
  start : Nat
  pos : Nat
  stop : Nat
  newLine : Bool
  source : List Char
  rest : List Char

/-! ## Space and comments -/

/-- what is being skipped between two tokens -/
inductive Trivia where
  | space
  | lineComment
  | blockComment
deriving DecidableEq, Repr

/-- skips space and comments: the text left, its position, and whether a line has ended.  A comment
without an end takes all that is left. -/
def skipTrivia (pos : Nat) (newLine : Bool) : Trivia → List Char → List Char × Nat × Bool
  | _, [] => ([], pos, newLine)
  | .space, '/' :: '/' :: cs => skipTrivia (pos + 2) newLine .lineComment cs
  | .space, '/' :: '*' :: cs => skipTrivia (pos + 2) newLine .blockComment cs
  | .space, c :: cs =>
    if isSpace c then skipTrivia (pos + 1) (newLine || isLineEnd c) .space cs
    else (c :: cs, pos, newLine)
  | .lineComment, c :: cs =>
    if isLineEnd c then skipTrivia (pos + 1) true .space cs
    else skipTrivia (pos + 1) newLine .lineComment cs
  | .blockComment, '*' :: '/' :: cs => skipTrivia (pos + 2) newLine .space cs
  | .blockComment, c :: cs => skipTrivia (pos + 1) (newLine || isLineEnd c) .blockComment cs

/-- the marks that turn a line into a comment where they start it: the end of a comment in markup, and
the marks of two versions that do not fit together -/
def lineMarks : List String := ["-->", "<<<<<<< ", "||||||| ", "=======", ">>>>>>> "]

/-- whether the rest of a line is skipped: after `<!--` anywhere, and after a mark that starts a line -/
def isMarked (newLine : Bool) (cs : List Char) : Bool :=
  "<!--".toList.isPrefixOf cs || newLine && lineMarks.any fun mark => mark.toList.isPrefixOf cs

/-- skips at most `most` marked lines at the start of a text -/
def skipMarkedLines : (most pos : Nat) → (newLine : Bool) → List Char → List Char × Nat × Bool
  | 0, pos, newLine, cs => (cs, pos, newLine)
  | most + 1, pos, newLine, cs =>
    if isMarked newLine cs then
      let (cs, pos, newLine) := skipTrivia pos newLine .lineComment cs
      skipMarkedLines most pos newLine cs
    else (cs, pos, newLine)

/-- skips the marked lines at the start of a text -/
def skipMarked (pos : Nat) (newLine : Bool) (cs : List Char) : List Char × Nat × Bool :=
  if isMarked newLine cs then skipMarkedLines cs.length pos newLine cs else (cs, pos, newLine)

/-! ## Escapes -/

/-- reads at most `most` hexadecimal digits, where underscores do not count: how many there are, their
value and the length of the text -/
def takeHex (most count value length : Nat) : List Char → Nat × Nat × Nat
  | [] => (count, value, length)
  | c :: cs =>
    if count = most then (count, value, length)
    else if c = '_' then takeHex most count value (length + 1) cs
    else
      match hexValue? c with
      | some d => takeHex most (count + 1) (value * 16 + d) (length + 1) cs
      | none => (count, value, length)

/-- the value of an escape of exactly `n` digits, and its length -/
def readDigits? (n : Nat) (cs : List Char) : Option (Nat × Nat) :=
  let (count, value, length) := takeHex n 0 0 0 cs
  if count = n then some (value, length) else none

/-- reads what follows the `u` of a unicode escape: its code point, its length and the rest -/
def readUnicodeEscape? : List Char → Option (Nat × Nat × List Char)
  | '\x7b' :: cs =>
    let (count, value, length) := takeHex (cs.length + 1) 0 0 0 cs
    match cs.drop length with
    | '\x7d' :: rest => if 0 < count ∧ value ≤ 0x10FFFF then some (value, length + 2, rest) else none
    | _ => none
  | cs => (readDigits? 4 cs).map fun (value, length) => (value, length, cs.drop length)

/-! ## Words and numbers -/

def reservedWords : List String :=
  ["null", "true", "false", "break", "case", "catch", "continue", "debugger", "default", "do",
   "export", "else", "finally", "for", "function", "if", "return", "switch", "throw", "try", "var",
   "const", "while", "with", "new", "this", "super", "class", "extends", "import", "in",
   "instanceof", "typeof", "void", "delete"]

/-- the words that strict code keeps for itself but that may still name a binding -/
def strictWords : List String :=
  ["let", "static", "await", "yield", "enum", "implements", "package", "protected", "interface",
   "private", "public"]

def isReferenceWord (name : String) : Bool :=
  !reservedWords.contains name && !strictWords.contains name

structure NameText where
  /-- whether it is written with an escape -/
  escaped : Bool
  /-- its characters, with the escapes decoded -/
  chars : List Char
  /-- the length of its text -/
  length : Nat

/-- reads a name behind `skip` characters, which belong to an escape that is read already.  What an
escape stands for may be any character; there is no name if an escape means nothing. -/
def readNameAfter : (skip : Nat) → (first : Bool) → List Char → Option NameText
  | _, _, [] => some ⟨false, [], 0⟩
  | skip + 1, first, _ :: cs => do
    let name ← readNameAfter skip first cs
    pure { name with length := name.length + 1 }
  | 0, _, '\\' :: 'u' :: cs => do
    let (code, length, _) ← readUnicodeEscape? cs
    let name ← readNameAfter length false cs
    pure ⟨true, Char.ofNat code :: name.chars, name.length + 2⟩
  | 0, first, c :: cs =>
    if c == '\\' then none
    else if (if first then isIdentifierStart c else isIdentifierPart c) then do
      let name ← readNameAfter 0 false cs
      pure { name with chars := c :: name.chars, length := name.length + 1 }
    else some ⟨false, [], 0⟩

def readName : List Char → Option NameText := readNameAfter 0 true

/-- the kind and length of the word at the start of a text.  A word with an escape is a plain name,
but one that starts as a reserved word and reads as one is refused. -/
def readWord (pos : Nat) (cs : List Char) : Kind × Nat :=
  match readName cs with
  | none => (.bad pos, 1)
  | some name =>
    let text := String.ofList name.chars
    if !name.escaped then (.word text, name.length)
    else if cs.head? != some '\\' && !isReferenceWord text then (.bad pos, name.length)
    else (.name text, name.length)

/-- the digits at the start of a text, with the underscores between them -/
def takeDigits (isDigit : Char → Bool) (cs : List Char) : List Char :=
  cs.takeWhile fun c => isDigit c || c == '_'

/-- the exponent at the start of a text, if there is one, and whether it has the digits it needs -/
def takeExponent : List Char → Bool × List Char
  | e :: cs =>
    if e == 'e' || e == 'E' then
      let sign := match cs with
        | '+' :: _ => ['+']
        | '-' :: _ => ['-']
        | _ => []
      let digits := takeDigits Char.isDigit (cs.drop sign.length)
      (digits.any Char.isDigit, e :: sign ++ digits)
    else (true, [])
  | [] => (true, [])

/-- the kind of a number and its length.  A zero in front makes the digits octal, so no point follows
them, unless one of them is too large. -/
def readDecimal (pos : Nat) (cs : List Char) : Kind × Nat :=
  let whole := takeDigits Char.isDigit cs
  let hasZero := whole.head? == some '0' && 1 < whole.length
  match cs.drop whole.length with
  | 'n' :: rest => if hasZero then checked whole.length ('n' :: rest) else (.bigInt, whole.length + 1)
  | rest =>
    if hasZero && whole.all fun c => c != '8' && c != '9' then checked whole.length rest
    else
      let fraction := match rest with
        | '.' :: rest => '.' :: takeDigits Char.isDigit rest
        | _ => []
      let rest := rest.drop fraction.length
      let (complete, exponent) := takeExponent rest
      let length := whole.length + fraction.length + exponent.length
      if complete then checked length (rest.drop exponent.length) else (.bad pos, length)
where
  /-- a number, unless a name starts right after it -/
  checked (length : Nat) (rest : List Char) : Kind × Nat :=
    if rest.head?.any isIdentifierStart then (.bad (pos + length), length) else (.number, length)

/-- the kind of a number in another base and its length, from its two marks on -/
def readRadix (pos : Nat) (isDigit : Char → Bool) (cs : List Char) : Kind × Nat :=
  let digits := takeDigits isDigit (cs.drop 2)
  let length := digits.length + 2
  if !digits.any isDigit then (.bad pos, length)
  else if (cs.drop length).head? == some 'n' then (.bigInt, length + 1)
  else readDecimal.checked pos length (cs.drop length)

def readNumber (pos : Nat) (cs : List Char) : Kind × Nat :=
  match cs with
  | '0' :: 'x' :: _ | '0' :: 'X' :: _ => readRadix pos (fun c => (hexValue? c).isSome) cs
  | '0' :: 'o' :: _ | '0' :: 'O' :: _ => readRadix pos (fun c => '0' ≤ c && c ≤ '7') cs
  | '0' :: 'b' :: _ | '0' :: 'B' :: _ => readRadix pos (fun c => c == '0' || c == '1') cs
  | cs => readDecimal pos cs

/-! ## Strings, templates and regular expressions -/

/-- what follows the backslash of an escape in a string: the length of the escape without the
backslash, or `none` for one that is cut short.  A template has no octal escapes. -/
def escapeLength? (inTemplate : Bool) : List Char → Option Nat
  | 'x' :: cs => (readDigits? 2 cs).map fun (_, length) => length + 1
  | 'u' :: cs => (readUnicodeEscape? cs).map fun (_, length, _) => length + 1
  | '\r' :: '\n' :: _ => some 2
  | '0' :: c :: _ => if inTemplate && isOctal c then none else some 1
  | c :: _ => if inTemplate && c != '0' && isOctal c then none else some 1
  | [] => none
where
  isOctal (c : Char) : Bool := '0' ≤ c && c ≤ '7'

/-- the end of a string behind `skip` characters of an escape: its position and the rest, with the
position of the first bad escape.  A string without a closing quote ends with its line. -/
def readString (quote : Char) : (skip pos : Nat) → List Char → Nat × List Char × Option Nat
  | _, pos, [] => (pos, [], none)
  | skip + 1, pos, _ :: cs => readString quote skip (pos + 1) cs
  | 0, pos, c :: cs =>
    if c = '\\' then
      match escapeLength? false cs with
      | some n => readString quote n (pos + 1) cs
      | none => (pos + 1, cs, some pos)
    else if c = quote then (pos + 1, cs, none)
    else if c = '\n' || c = '\r' then (pos, c :: cs, none)
    else readString quote 0 (pos + 1) cs

inductive TemplateEnd where
  | close
  | hole
  | missing
deriving DecidableEq, Repr

/-- the end of a stretch of template text behind `skip` characters of an escape: its position, the
rest, and the last bad escape -/
def readTemplate : (skip pos : Nat) → List Char → TemplateEnd × Nat × List Char × Option Nat
  | _, pos, [] => (.missing, pos, [], none)
  | skip + 1, pos, _ :: cs => readTemplate skip (pos + 1) cs
  | 0, pos, '\x60' :: cs => (.close, pos + 1, cs, none)
  | 0, pos, '$' :: '\x7b' :: cs => (.hole, pos + 2, cs, none)
  | 0, pos, '\\' :: cs =>
    match escapeLength? true cs with
    | some n => readTemplate n (pos + 1) cs
    | none =>
      let (stop, stopPos, rest, later) := readTemplate 1 (pos + 1) cs
      (stop, stopPos, rest, later.or (some pos))
  | 0, pos, _ :: cs => readTemplate 0 (pos + 1) cs

/-- the position and the rest after the body of a regular expression, read after its opening slash;
`inClass` holds between `[` and `]` -/
def readRegexBody? : (inClass : Bool) → (pos : Nat) → List Char → Option (Nat × List Char)
  | _, _, [] => none
  | inClass, pos, '\\' :: c :: cs =>
    if isLineEnd c then none else readRegexBody? inClass (pos + 2) cs
  | inClass, pos, c :: cs =>
    if isLineEnd c then none
    else if c == '[' then readRegexBody? true (pos + 1) cs
    else if c == ']' then readRegexBody? false (pos + 1) cs
    else if c == '/' && !inClass then some (pos + 1, cs)
    else readRegexBody? inClass (pos + 1) cs

/-! ## Punctuation -/

/-- the marks of punctuation, each before its own beginnings -/
def punctuation : List String :=
  [">>>=", "...", "===", "!==", "**=", "<<=", ">>=", ">>>", "&&=", "||=", "??=", "=>", "==", "!=",
   "<=", ">=", "++", "--", "<<", ">>", "&&", "||", "??", "?.", "+=", "-=", "*=", "/=", "%=", "&=",
   "|=", "^=", "**", "\x7b", "\x7d", "(", ")", "[", "]", ";", ",", "<", ">", "+", "-", "*", "/",
   "%", "&", "|", "^", "!", "~", "?", ":", "=", ".", "@", "#"]

/-- the longest mark at the start of a text; a `?` before a digit after a point stands alone -/
def readPunct? (cs : List Char) : Option String :=
  match cs with
  | '?' :: '.' :: c :: _ =>
    if c.isDigit then some "?" else some "?."
  | _ => punctuation.find? fun p => p.toList.isPrefixOf cs

/-! ## Reading the next token -/

/-- the token at the start of a text, which stands at `pos` behind all space and counts from `start` -/
def Token.read (newLine : Bool) (start pos : Nat) (cs : List Char) : Token :=
  let token (kind : Kind) (length : Nat) : Token :=
    ⟨kind, start, pos, pos + length, newLine, cs, cs.drop length⟩
  match cs with
  | [] => token .eof 0
  | c :: rest =>
    if isIdentifierStart c || c == '\\' then
      let (kind, length) := readWord pos cs
      token kind length
    else if c.isDigit || (c == '.' && (rest.head?.any Char.isDigit)) then
      let (kind, length) := readNumber pos cs
      token kind length
    else if c == '"' || c == '\'' then
      match readString c 0 (pos + 1) rest with
      | (stop, rest, none) => ⟨.string, start, pos, stop, newLine, cs, rest⟩
      | (stop, rest, some badPos) => ⟨.bad badPos, start, pos, stop, newLine, cs, rest⟩
    else if c == '\x60' then
      match readTemplate 0 (pos + 1) rest with
      | (.missing, _, _, _) => token (.bad pos) cs.length
      | (stop, stopPos, rest, badEscape) =>
        ⟨.template (stop = .hole) badEscape, start, pos, stopPos, newLine, cs, rest⟩
    else
      match readPunct? cs with
      | some p => token (.punct p) p.length
      | none => token (.bad pos) 1

/-- the token after a place in the text; `newLine` says whether a line has ended there -/
def Token.next (pos : Nat) (cs : List Char) (newLine : Bool := false) : Token :=
  let (cs, start, newLine) := skipTrivia pos newLine .space cs
  let (cs, pos, newLine) := skipMarked start newLine cs
  Token.read newLine start pos cs

end ResolverTypes.Script
