import ResolverTypes.Script.Grammar.Expression

/-!
# Classes and decorators
-/

namespace ResolverTypes.Script.Grammar
open Script.Parser

/-! ## Decorators -/

def decorator (g : Grammar) : Parser Unit := do
  expectPunct "@"
  let start ← position
  if ← eatPunct "(" then
    let _ ← g _ .expression
    expectPunct ")"
  else
    let name ← bindingName
    let _ ← subscripts g true true { span := ← spanFrom start, form := .ident name }
  let typed ← isPunct "<"
  if typed then typeArguments g
  if ← (return typed) <||> isPunct "(" then arguments g

def decorators (g : Grammar) : Parser Unit :=
  loop () fun _ => do
    if ← isPunct "@" then
      decorator g
      return .inl ()
    else return .inr ()

/-! ## Heritage -/

/-- the type arguments after an expression, unless it has them -/
def heritageArguments (g : Grammar) (e : Expr) : Parser Unit := do
  unless e.form == .instantiation do
    if ← isPunct "<" then typeArguments g

/-- the names a class or interface builds on -/
def heritage (g : Grammar) : Parser Unit := do
  let atEnd : Parser Bool :=
    return (← isPunct "\x7b") || (← isWord "implements") || (← isWord "extends")
  let _ ← commaList atEnd do
    let start ← position
    let name ← anyName
    let e ← subscripts g true true { span := ← spanFrom start, form := .ident name }
    heritageArguments g e

def superClass (g : Grammar) : Parser Unit := do
  expectWord "extends"
  heritageArguments g (← leftHandSide g)

/-! ## Members -/

/-- whether a method's parameters start here -/
def atMethod : Parser Bool := isOneOf ["(", "<"]

/-- whether a property ends or goes on here -/
def atProperty (lineEnds : Bool) : Parser Bool := do
  if ← isOneOf ["!", ":", "=", "\x7d"] then return true
  if lineEnds then atSemicolon else isPunct ";"

def classKey (g : Grammar) : Parser Key := do
  if ← isPunct "#" then
    let start ← position
    privateName
    return .text (← spanFrom start)
  key g

def isConstructor : Key → Bool
  | .name text _ | .string _ text => text == "constructor"
  | _ => false

/-- a property, from behind its name on; an optional one has been marked so -/
def classProperty (g : Grammar) (k : Key) (optional : Bool) : Parser Unit := do
  if isConstructor k then failAt k.start
  unless optional do
    let _ ← eatPunct "!"
  let _ ← annotation? g
  if ← eatPunct "=" then
    let _ ← inFunction false false (allowingIn (g _ .assignment))
  unless ← eatSemicolon do pardon

def classMethod (g : Grammar) (isAsync isGenerator : Bool) : Parser Unit := do
  let _ ← functionTail g isAsync isGenerator

/-- takes a word that says who may use a member; `in` and `out` say nothing here and are let pass -/
def accessModifier? : Parser (Option String) := do
  match ← modifier? ["public", "protected", "private", "in", "out"] with
  | some "in" | some "out" => do
    pardon
    return none
  | word => return word

/-- a parameter of a constructor; one that makes a property has a name or a default value -/
def constructorParam (g : Grammar) : Parser Unit := do
  g _ .decorators
  if ← isPunct "..." then
    let _ ← restParam g
    return
  let words := [← accessModifier?, ← modifier? ["override"], ← modifier? ["readonly"]]
  let start ← position
  let p ← plainParam g
  if words.any (·.isSome) && !p.hasDefault then
    match p.target with
    | .name _ => pure ()
    | .pattern _ => failAt start

def classConstructor (g : Grammar) : Parser Unit := inFunction false false do
  typeParams? g
  expectPunct "("
  let _ ← commaList (isPunct ")") (constructorParam g)
  expectPunct ")"
  let _ ← annotation? g
  let _ ← functionBody g

/-- a block that runs when the class is made -/
def staticBlock (g : Grammar) : Parser Unit :=
  withReader (fun ctx =>
    { ctx with inStaticBlock := true, inAsync := false, inGenerator := false }) (g _ .block)

/-- takes a word that may also be the name of the member; true if it was the whole member -/
def wordOrMember (g : Grammar) (word : String) : Parser (Option Bool) := do
  let start ← position
  if !(← eatWord word) then return none
  let k : Key := .name word start
  if ← atMethod then
    classMethod g false false
    return some true
  if ← (return !(word == "static" && (← isPunct "\x7b"))) <&&>
      (atProperty (word == "declare") <||> isPunct "?") then
    classProperty g k (← eatPunct "?")
    return some true
  return some false

/-- a member, from behind the words that qualify it on -/
def classMemberTail (g : Grammar) (isStatic qualified : Bool) : Parser Unit := do
  let words ← loop [] fun words => do
    if ← isWord "static" <&&> (return (← peek).kind == .punct "\x7b") then return .inr words
    match ← modifier? ["abstract", "readonly", "override", "static", "accessor"] with
    | some w => return .inl (w :: words)
    | none => return .inr words
  if ← (return isStatic || words.contains "static") <&&> isPunct "\x7b" then
    return ← staticBlock g
  if ← isWord "static" <&&> (return (← peek).kind == .punct "\x7b") then
    bump
    return ← staticBlock g
  if !qualified && !words.contains "abstract" && !words.contains "override" then
    if ← indexSignature? g then return
  if ← eatPunct "*" then
    let _ ← classKey g
    return ← classMethod g false true
  let first ← word?
  let k ← do
    if words.contains "readonly" && (← isOneOf ["!", ":"]) then
      pure (Key.name "readonly" (← position))
    else classKey g
  let optional ← eatPunct "?"
  if ← atMethod then
    if words.contains "readonly" then fail
    if isConstructor k then classConstructor g else classMethod g false false
    return
  let isAccessor ← do
    if first == some "get" || first == some "set" then
      pure (!(← atProperty false) && !((← newLine) && (← isPunct "*")))
    else pure false
  if ← (return !isAccessor) <&&> atProperty true then
    return ← classProperty g k optional
  if first == some "async" && !(← newLine) then
    let _ ← modifier? ["override"]
    let isGenerator ← eatPunct "*"
    let k ← classKey g
    if isConstructor k then failAt k.start
    let _ ← eatPunct "?"
    return ← classMethod g true isGenerator
  if isAccessor then
    let _ ← classKey g
    return ← classMethod g false false
  fail

def classMember (g : Grammar) : Parser Unit := do
  g _ .decorators
  let first ← wordOrMember g "declare"
  if first == some true then return
  let access ← accessModifier?
  if first.isNone then
    if (← wordOrMember g "declare") == some true then return
  match ← wordOrMember g "static" with
  | some true => return
  | some false => classMemberTail g true access.isSome
  | none => classMemberTail g false access.isSome

def classTail (g : Grammar) (named : Bool) : Parser Unit := do
  expectWord "class"
  if named then
    if ← isWord "let" then fail
    let _ ← bindingName
  else
    let _ ← optionalName
  typeParams? g
  if ← isWord "extends" then
    superClass g
    if ← eatPunct "," then heritage g
  if ← isWord "extends" then superClass g
  if ← eatWord "implements" then heritage g
  if ← eatWord "implements" then heritage g
  if ← isWord "extends" then superClass g
  expectPunct "\x7b"
  let _ ← plainList (return (← isPunct "\x7d") || (← isEnd)) do
    unless ← eatPunct ";" do classMember g
  expectPunct "\x7d"

end ResolverTypes.Script.Grammar
