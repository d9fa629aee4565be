import ResolverTypes.Script.Parser

/-!
# Names, patterns and parameters
-/

namespace ResolverTypes.Script
open Script.Parser

def Parser.allowingIn {α : Type} (p : Parser α) : Parser α :=
  withReader (fun ctx => { ctx with allowIn := true }) p

/-- parses inside brackets, where no colon of a conditional is due -/
def Parser.bracketed {α : Type} (p : Parser α) : Parser α :=
  withReader (fun ctx => { ctx with awaitsColon := false }) p

namespace Grammar

def key (g : Grammar) : Parser Key := do
  let t ← token
  match t.kind with
  | .string => do
    bump
    let content := (t.source.take (t.stop - t.pos)).drop 1
    return .string ⟨t.start, t.stop⟩ (String.ofList content.dropLast)
  | .number | .bigInt => do bump; return .text ⟨t.start, t.stop⟩
  | .word name | .name name => do bump; return .name name t.start
  | .punct "[" => do
    bump
    let _ ← allowingIn (g _ .assignment)
    let _ ← loop () fun _ => do
      if ← eatPunct "," then
        let _ ← allowingIn (g _ .assignment)
        return .inl ()
      else return .inr ()
    expectPunct "]"
    return .text (← spanFrom t.start)
  | _ => fail

def defaultValue (g : Grammar) : Parser Bool := do
  if ← eatPunct "=" then
    let _ ← allowingIn (g _ .assignment)
    pure true
  else pure false

def bindingElement (g : Grammar) : Parser Unit := do
  let _ ← g _ (.binding false)
  let _ ← defaultValue g

def arrayPattern (g : Grammar) : Parser Unit := do
  expectPunct "["
  loop () fun _ => do
    if ← eatPunct "]" then return .inr ()
    if ← eatPunct "," then return .inl ()
    if ← eatPunct "..." then
      let _ ← g _ (.binding false)
    else bindingElement g
    unless ← isPunct "]" do expectPunct ","
    return .inl ()

/-- a member of an object pattern; tells where a pattern stands after dots, which may hold only a
name if it is the last one -/
def objectPatternMember (g : Grammar) : Parser (Option Nat) := do
  let start ← position
  if ← eatPunct "..." then
    let p ← g _ (.binding false)
    return match p.target with
      | .name _ => none
      | .pattern _ => some start
  let k ← key g
  if ← eatPunct ":" then bindingElement g
  else
    match k with
    | .name word _ =>
      unless ← defaultValue g do
        unless isReferenceWord word do pardon
    | _ => fail
  return none

def objectPattern (g : Grammar) : Parser Unit := do
  expectPunct "\x7b"
  let fault ← loop none fun last => do
    if ← eatPunct "\x7d" then return .inr last
    let fault ← objectPatternMember g
    unless ← isPunct "\x7d" do expectPunct ","
    return .inl fault
  if let some pos := fault then failAt pos

def binding (g : Grammar) (strict : Bool) : Parser Param := do
  let t ← token
  refuseBad
  match t.kind with
  | .word _ | .name _ =>
    if ← (return strict) <&&> isWord "let" then fail
    return { target := .name (← bindingName) }
  | .punct "[" => do
    arrayPattern g
    patternEnd t.start
  | .punct "\x7b" => do
    objectPattern g
    patternEnd t.start
  | _ => fail
where
  patternEnd (start : Nat) : Parser Param := do
    let span ← spanFrom start
    if (← read).ambient then
      let _ ← eatPunct "?"
    return { target := .pattern span }

def annotation? (g : Grammar) : Parser (Option Annotation) := do
  let start ← position
  if ← eatPunct ":" then return some ⟨start, ← g _ .type⟩
  else return none

/-- the words that may stand before a parameter or member to qualify it -/
def accessWords : List String := ["public", "protected", "private", "readonly"]

/-- whether the token after the current one can be qualified by the current word -/
def qualifiesNext : Parser Bool := do
  let t ← peek
  match t.kind with
  | .word _ | .name _ | .string | .number | .bigInt => return true
  | .punct p => return !t.newLine && ["[", "\x7b", "*", "...", "#"].contains p
  | _ => return false

/-- takes one of some qualifying words, if it stands before what it qualifies -/
def modifier? (words : List String) : Parser (Option String) := do
  match ← word? with
  | some name =>
    if words.contains name && (← qualifiesNext) then do bump; return some name
    else return none
  | none => return none

/-- takes a qualifying word before a parameter or object member; says whether there is one -/
def skipAccess : Parser Bool := do
  match ← word? with
  | some name =>
    if accessWords.contains name then
      match (← peek).kind with
      | .word _ | .name _ | .punct "\x7b" | .punct "[" =>
        let _ ← modifier? accessWords
        return true
      | _ => return false
    else return false
  | none => return false

/-- a parameter that is not a rest parameter.  A type after a default value is let pass. -/
def plainParam (g : Grammar) : Parser Param := do
  let qualified ← skipAccess
  let p ← g _ (.binding false)
  let hasDefault ← defaultValue g
  let mark ← position
  let optional ← eatPunct "?"
  if optional && hasDefault then
    unless ← isPunct "=" do failAt mark
  let p := match p.target with
    | .name _ => { p with optional := optional }
    | .pattern _ => p
  let ann ← annotation? g
  if hasDefault && ann.isSome then pardon
  let p := if hasDefault then { p with optional := true, hasDefault := true }
    else { p with annotation := ann }
  let hasValue ← eatPunct "="
  if hasValue then
    if optional then pardon
    let _ ← g _ .assignment
  if qualified then pardon
  return if hasValue then { p with optional := true, hasDefault := true } else p

def restParam (g : Grammar) : Parser Param := do
  let start ← position
  expectPunct "..."
  let _ ← g _ (.binding false)
  if ← eatPunct "=" then
    let _ ← g _ .assignment
  let ann ← annotation? g
  let span ← spanFrom start
  let _ ← eatPunct "?"
  return { target := .pattern span, annotation := ann, isRest := true }

def params (g : Grammar) : Parser (List Param) :=
  loop [] fun items => do
    if ← isPunct ")" then return .inr items.reverse
    g _ .decorators
    let p ← if ← isPunct "..." then restParam g else plainParam g
    unless ← isPunct ")" do expectPunct ","
    return .inl (p :: items)

def argument (g : Grammar) : Parser (Bool × Expr) := do
  let spread ← eatPunct "..."
  return (spread, ← g _ .assignment)

def arguments (g : Grammar) : Parser Unit := bracketed do
  expectPunct "("
  let _ ← commaList (isPunct ")") (allowingIn (argument g))
  expectPunct ")"

end Grammar
end ResolverTypes.Script
