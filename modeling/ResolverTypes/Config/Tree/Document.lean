import ResolverTypes.Config.Tree
import ResolverTypes.Config.Tree.Literal

/-!
# Configuration texts

A text is one statement a line: a header or a key with its value.
-/

namespace ResolverTypes.Config.Tree
open Text Text.Reader

/-! ## Space -/

def isGap (c : Char) : Bool := c == ' ' || c == '\t'

def skipGap : Reader Unit := fun cs => some ((), cs.dropWhile isGap)

/-- the text from the end of the line on, behind a comment if one stands here -/
def skipComment : Reader Unit := fun cs =>
  match cs with
  | '#' :: rest => some ((), rest.dropWhile isPlain)
  | _ => some ((), cs)

def mark (c : Char) : Reader Unit := fun cs => (takeMark? c cs).map ((), ·)

def lineEnd : Reader Unit := fun cs => (dropLineEnd? cs).map ((), ·)

/-- the end of a line or of the text, behind blanks and a comment -/
def statementEnd : Reader Unit := do
  skipGap
  skipComment
  fun cs => if cs.isEmpty then some ((), []) else lineEnd cs

/-- blanks, comments and line ends -/
def skipLines : Reader Unit := do
  skipGap
  let _ ← many do
    skipComment
    lineEnd
    skipGap
  skipComment

/-! ## Keys -/

def isBareKeyPart (c : Char) : Bool := c.isAlphanum || c == '_' || c == '-'

/-- a key without points: bare, or a string on one line -/
def simpleKey : Reader String := fun cs =>
  match cs with
  | '"' :: rest => (basicBody (rest.length + 1) rest).map fun (b, rest) => (String.ofList b, rest)
  | '\'' :: rest => (literalBody rest).map fun (b, rest) => (String.ofList b, rest)
  | _ =>
    match cs.takeWhile isBareKeyPart with
    | [] => none
    | key => some (String.ofList key, cs.drop key.length)

/-- how deep values may be nested, and how many parts a key may have -/
def depthLimit : Nat := 80

/-- a key: the keys before its last point, and the last one -/
def dottedKey : Reader (List String × String) := do
  let first ← simpleKey
  let more ← many do
    skipGap
    mark '.'
    skipGap
    simpleKey
  let keys := first :: more
  if depthLimit < keys.length then Reader.fail
  else return (keys.dropLast, keys.getLastD first)

/-! ## Values -/

def scalar : Reader Tree := fun cs =>
  let (token, rest) := takeScalar cs
  if token == "true".toList || token == "false".toList then some (.boolean, rest)
  else if isInteger token || isFloat token then some (.number, rest)
  else (dateText? token).map fun text => (.date (String.ofList text), rest)

/-- items up to a closing bracket, with commas between them and perhaps one after the last -/
def listed {α : Type} (close : Char) (item : Reader α) : Reader (List α) := do
  skipLines
  let first ← optional item
  match first with
  | none =>
    mark close
    return []
  | some a =>
    let more ← many do
      skipLines
      mark ','
      skipLines
      item
    skipLines
    let _ ← optional (mark ',')
    skipLines
    mark close
    return a :: more

/-- a key with points in it and its value; `skip` passes over the space around the sign -/
def pairOf (skip : Reader Unit) (value : Reader Tree) : Reader (List String × String × Tree) := do
  let (path, key) ← dottedKey
  skip
  mark '='
  skip
  return (path, key, ← value)

def valueOf : (depth : Nat) → Reader Tree
  | 0 => text <|> scalar
  | depth + 1 => text <|> array (valueOf depth) <|> table (valueOf depth) <|> scalar
where
  text : Reader Tree := do return .string (← readString)
  array (value : Reader Tree) : Reader Tree := do
    mark '['
    return .array (← listed ']' value)
  table (value : Reader Tree) : Reader Tree := do
    mark '\x7b'
    let pairs ← listed '\x7d' (pairOf skipLines value)
    match pairs.foldlM (fun es (path, key, v) => Entries.assign? [] path key v es) [] with
    | some entries => return .table .inline entries
    | none => Reader.fail

/-! ## Statements -/

inductive Statement where
  | header (isArray : Bool) (path : List String) (key : String)
  | assign (path : List String) (key : String) (value : Tree)

def header : Reader Statement := do
  mark '['
  let isArray := (← optional (mark '[')).isSome
  skipGap
  let (path, key) ← dottedKey
  skipGap
  mark ']'
  if isArray then mark ']'
  return .header isArray path key

def assignment : Reader Statement := do
  let (path, key, value) ← pairOf skipGap (valueOf depthLimit)
  return .assign path key value

/-- a line: a statement or nothing, up to its end -/
def line : Reader (Option Statement) := do
  skipGap
  let s ← optional (header <|> assignment)
  statementEnd
  return s

def statements : Nat → List Char → Option (List Statement)
  | _, [] => some []
  | 0, _ => none
  | fuel + 1, cs => do
    let (s, rest) ← line cs
    let more ← statements fuel rest
    return s.toList ++ more

/-- the entries of a list of statements; `above` holds the keys of the last header -/
def build : (above : List String) → Entries → List Statement → Option Entries
  | _, es, [] => some es
  | _, es, .header isArray path key :: rest => do
    build (path ++ [key]) (← es.open? isArray path key) rest
  | above, es, .assign path key value :: rest => do
    build above (← es.assign? above path key value) rest

/-- the entries of a text; a byte order mark at its start is no part of it -/
def parse? (text : String) : Option Entries :=
  let cs := match text.toList with
    | '\uFEFF' :: cs => cs
    | cs => cs
  (statements (cs.length + 1) cs).bind (build [] [])

end ResolverTypes.Config.Tree
