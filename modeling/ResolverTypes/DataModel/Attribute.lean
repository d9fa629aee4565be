import ResolverTypes.DataModel.Error
import ResolverTypes.Text.Alphanumeric
import ResolverTypes.Text.Blank
import ResolverTypes.Text.Lines

/-!
# Attributes and their arguments

`scanAttributes` reads a line rest such as `@id @default(now())`.  The arguments of an attribute
are the text up to the parenthesis that closes the first one; parentheses inside string literals
do not count, and inside a string a backslash hides the next character.

`splitArguments` cuts an argument text at the commas outside strings and brackets.
-/

namespace ResolverTypes.DataModel
open Text

/-! ## scanning -/

/-- the text up to the parenthesis that closes `depth` inner ones and the outer one, and the text
after it -/
def scanParens (depth : Nat) (quoted : Bool) : List Char → Option (List Char × List Char)
  | [] => none
  | '\\' :: c :: cs =>
    if quoted then (scanParens depth quoted cs).map fun (a, r) => ('\\' :: c :: a, r)
    else (scanParens depth quoted (c :: cs)).map fun (a, r) => ('\\' :: a, r)
  | '"' :: cs => (scanParens depth (!quoted) cs).map fun (a, r) => ('"' :: a, r)
  | '(' :: cs =>
    (scanParens (if quoted then depth else depth + 1) quoted cs).map fun (a, r) => ('(' :: a, r)
  | ')' :: cs =>
    if quoted then (scanParens depth quoted cs).map fun (a, r) => (')' :: a, r)
    else
      match depth with
      | 0 => some ([], cs)
      | d + 1 => (scanParens d quoted cs).map fun (a, r) => (')' :: a, r)
  | c :: cs => (scanParens depth quoted cs).map fun (a, r) => (c :: a, r)

/-- what is scanned and what is left make up the text, with one parenthesis between them -/
theorem scanParens_eq {depth : Nat} {quoted : Bool} {cs a r : List Char}
    (h : scanParens depth quoted cs = some (a, r)) : cs = a ++ ')' :: r := by
  fun_induction scanParens depth quoted cs generalizing a r <;> simp_all <;> grind

theorem length_of_scanParens {depth : Nat} {quoted : Bool} {cs a r : List Char}
    (h : scanParens depth quoted cs = some (a, r)) : r.length < cs.length := by
  rw [scanParens_eq h]
  simp only [List.length_append, List.length_cons]
  omega

def isAttributeChar (c : Char) : Bool := isAlphanumeric c || c == '_' || c == '.'

def scanAttributes (cs : List Char) : Except Fault (List Attribute) :=
  match h : cs.dropWhile isBlank with
  | [] => .ok []
  | '@' :: rest =>
    have hlen : rest.length < cs.length := by
      have hle : (cs.dropWhile isBlank).length ≤ cs.length := (List.dropWhile_sublist isBlank).length_le
      rw [h, List.length_cons] at hle
      omega
    let name := rest.takeWhile isAttributeChar
    if name.isEmpty then .error .missingAttributeName
    else
      match hr : rest.dropWhile isAttributeChar with
      | '(' :: body =>
        match hb : scanParens 0 false body with
        | none => .error (.unbalancedParentheses (String.ofList name))
        | some (args, after) =>
          have : after.length < cs.length := by
            have h1 := length_of_scanParens hb
            have h2 : (rest.dropWhile isAttributeChar).length ≤ rest.length :=
              (List.dropWhile_sublist isAttributeChar).length_le
            rw [hr, List.length_cons] at h2
            omega
          (scanAttributes after).map
            (⟨String.ofList name, some (String.ofList (trim args))⟩ :: ·)
      | after =>
        have : after.length < cs.length := by
          have h2 : (rest.dropWhile isAttributeChar).length ≤ rest.length :=
            (List.dropWhile_sublist isAttributeChar).length_le
          rw [hr] at h2
          omega
        (scanAttributes after).map (⟨String.ofList name, none⟩ :: ·)
  | found => .error (.expectedAttribute (String.ofList found))
termination_by cs.length

/-! ## arguments -/

/-- the trimmed text, unless it is empty -/
def nonBlank (cs : List Char) : List (List Char) :=
  let t := trim cs
  if t.isEmpty then [] else [t]

/-- how a character outside strings moves the bracket depth -/
def bracketStep (c : Char) : Int :=
  if c == '(' || c == '[' || c == '\x7b' then 1
  else if c == ')' || c == ']' || c == '\x7d' then -1
  else 0

/-- cuts a text at its top-level commas; `current` holds the running part in reverse.  The depth has
no bound: a counter of 32 bits would differ from it after 2^31 open brackets -/
def splitArgumentsFrom (depth : Int) (quoted escaped : Bool) (current : List Char) :
    List Char → List (List Char)
  | [] => nonBlank current.reverse
  | c :: cs =>
    if escaped then splitArgumentsFrom depth quoted false (c :: current) cs
    else if quoted && c == '\\' then splitArgumentsFrom depth quoted true (c :: current) cs
    else if c == '"' then splitArgumentsFrom depth (!quoted) false (c :: current) cs
    else if quoted then splitArgumentsFrom depth quoted false (c :: current) cs
    else if c == ',' && depth == 0 then
      nonBlank current.reverse ++ splitArgumentsFrom depth quoted false [] cs
    else splitArgumentsFrom (depth + bracketStep c) quoted false (c :: current) cs

/-- the parts of an argument text between its top-level commas, trimmed, blank ones left out -/
def splitArguments (cs : List Char) : List (List Char) := splitArgumentsFrom 0 false false [] cs

def Attribute.arguments (a : Attribute) : List (List Char) :=
  match a.args with
  | some text => splitArguments text.toList
  | none => []

/-- the value of an argument `key: value` with the given key -/
def namedValue? (key : List Char) (argument : List Char) : Option (List Char) :=
  match splitOnce ':' argument with
  | some (name, value) => if trim name = key then some (trim value) else none
  | none => none

/-- the value of the first argument `key: value` with the given key -/
def Attribute.named? (a : Attribute) (key : String) : Option (List Char) :=
  a.arguments.findSome? (namedValue? key.toList)

/-- an argument `key: value` whose key is a plain word -/
def isNamedArgument (argument : List Char) : Bool :=
  match splitOnce ':' argument with
  | some (name, _) =>
    let key := trim name
    !key.isEmpty && key.all fun c => isAlphanumeric c || c == '_'
  | none => false

/-- the argument at a position among those that are not `key: value` -/
def Attribute.positional? (a : Attribute) (index : Nat) : Option (List Char) :=
  (a.arguments.filter fun arg => !isNamedArgument arg)[index]?

end ResolverTypes.DataModel
