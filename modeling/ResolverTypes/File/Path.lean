import ResolverTypes.Text.Lines

/-!
# Paths

A path is a text; what it means is the list of its components.  Repeated slashes, a slash at the
end and every `.` but a leading one do not matter, and `..` is never resolved.  Equality, order and
the prefix relation of files go by components, so `/a/b.ts` comes before `/a-b/c.ts`.

Paths whose bytes are no UTF-8 text have no counterpart here.
-/

namespace ResolverTypes
open Text

/-- one step of a path -/
inductive Component where
  | root
  /-- a leading `.` -/
  | here
  /-- the step `..` -/
  | up
  | name (text : String)
deriving DecidableEq, Repr

namespace Component

def text : Component → String
  | .root => "/"
  | .here => "."
  | .up => ".."
  | .name s => s

/-- `root`, `here` and `up` come before the names, which are in code point order -/
def rank : Component → Nat
  | .root => 0
  | .here => 1
  | .up => 2
  | .name _ => 3

def lt : Component → Component → Bool
  | .name a, .name b => a < b
  | a, b => a.rank < b.rank

def listLt : List Component → List Component → Bool
  | _, [] => false
  | [], _ :: _ => true
  | a :: as, b :: bs => a.lt b || (a = b && listLt as bs)

end Component

/-- a path as it is written -/
structure Path where
  text : String
deriving DecidableEq, Repr

namespace Path

/-- the step a piece between two slashes stands for, unless it is nothing or `.` -/
def step? : List Char → Option Component
  | [] => none
  | ['.'] => none
  | ['.', '.'] => some .up
  | cs => some (.name (String.ofList cs))

inductive Start where
  | root
  | here
  | none
deriving DecidableEq, Repr

/-- the start of a path and the pieces of the rest between its slashes -/
def pieces (p : Path) : Start × List (List Char) :=
  match splitOn '/' p.text.toList with
  | [] :: x :: rest => (.root, x :: rest)
  | ['.'] :: rest => (.here, rest)
  | parts => (.none, parts)

def components (p : Path) : List Component :=
  match p.pieces with
  | (.root, parts) => .root :: parts.filterMap step?
  | (.here, parts) => .here :: parts.filterMap step?
  | (.none, parts) => parts.filterMap step?

/-- whether two paths mean the same file -/
def same (p q : Path) : Bool := p.components = q.components

def lt (p q : Path) : Bool := Component.listLt p.components q.components

/-- whether the components of `base` are the first ones of `p` -/
def startsWith (p base : Path) : Bool := (dropHead? base.components p.components).isSome

def isAbsolute (p : Path) : Bool :=
  match p.text.toList with
  | '/' :: _ => true
  | _ => false

/-- a path seen from another one; an absolute path stays as it is -/
def join (base p : Path) : Path :=
  if p.isAbsolute then p
  else
    match base.text.toList.getLast? with
    | none => p
    | some '/' => ⟨base.text ++ p.text⟩
    | some _ => ⟨base.text ++ "/" ++ p.text⟩

def isStep (piece : List Char) : Bool := (step? piece).isSome

/-- pieces without those at the end that are no step -/
def trimPieces (parts : List (List Char)) : List (List Char) :=
  (parts.reverse.dropWhile fun x => !isStep x).reverse

/-- drops the first `n` steps among the pieces -/
def dropSteps : Nat → List (List Char) → List (List Char)
  | 0, parts => parts
  | _ + 1, [] => []
  | n + 1, x :: rest => if isStep x then dropSteps n rest else dropSteps (n + 1) rest

def joinPieces (parts : List (List Char)) : String := String.ofList (Text.join ['/'] parts)

/-- the text of a start followed by pieces -/
def ofPieces (start : Start) (parts : List (List Char)) : Path :=
  match start with
  | .root => ⟨"/" ++ joinPieces parts⟩
  | .here => if parts.isEmpty then ⟨"."⟩ else ⟨"./" ++ joinPieces parts⟩
  | .none => ⟨joinPieces parts⟩

/-- the path without its first `n` components; doubled slashes inside stay as they are -/
def dropComponents (n : Nat) (p : Path) : Path :=
  match n, p.pieces with
  | 0, (start, parts) => ofPieces start (trimPieces parts)
  | n + 1, (start, parts) =>
    let rest := dropSteps (if start = .none then n + 1 else n) parts
    ⟨joinPieces (trimPieces (rest.dropWhile fun x => !isStep x))⟩

/-- the path relative to `base`, if it starts with it -/
def relativeTo? (p base : Path) : Option Path :=
  if p.startsWith base then some (p.dropComponents base.components.length) else none

/-- the last component, if it is a name -/
def fileName? (p : Path) : Option String :=
  match p.components.getLast? with
  | some (.name s) => some s
  | _ => none

/-- the last component if it is a name, otherwise the empty text -/
def baseName (p : Path) : String := p.fileName?.getD ""

/-- the text before and the text after the last occurrence of a character -/
def splitLast? (sep : Char) (cs : List Char) : Option (List Char × List Char) :=
  (splitOnce sep cs.reverse).map fun (after, before) => (before.reverse, after.reverse)

/-- a file name cut at its last dot; a dot at the start does not count -/
def cutName (name : String) : String × Option String :=
  match splitLast? '.' name.toList with
  | some ([], _) => (name, none)
  | some (before, after) => (String.ofList before, some (String.ofList after))
  | none => (name, none)

def stem (p : Path) : String := (p.fileName?.map fun n => (cutName n).1).getD ""

def extension? (p : Path) : Option String := p.fileName?.bind fun n => (cutName n).2

/-- the path without its last component; the root and the empty path have none -/
def parent? (p : Path) : Option Path :=
  match p.components.getLast? with
  | none | some .root => none
  | some .here => some ⟨""⟩
  | some _ =>
    match p.pieces with
    | (start, parts) => some (ofPieces start (trimPieces (trimPieces parts).dropLast))

end Path

end ResolverTypes
