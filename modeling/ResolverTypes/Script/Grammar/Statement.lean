import ResolverTypes.Script.Grammar.Class

/-!
# Statements

A few slips are let pass: a block may lack its closing brace at the end of the text, and what follows
a variable declaration on its line is skipped.
-/

namespace ResolverTypes.Script.Grammar
open Script.Parser

/-- the statements of a block, up to the closing brace or the end of the text -/
def block (g : Grammar) : Parser Unit := do
  expectPunct "\x7b"
  let _ ← plainList (return (← isPunct "\x7d") || (← isEnd)) (g _ (.statement true))
  let _ ← eatPunct "\x7d"

/-! ## Variables -/

/-- whether the word `let` is followed by something that it declares -/
def letDeclares : Parser Bool := do
  match (← peek).kind with
  | .punct "\x7b" | .punct "[" | .name _ => return true
  | .word name => return !reservedWords.contains name
  | _ => return false

def atVariables : Parser Bool := do
  match ← word? with
  | some "const" | some "var" => return true
  | some "let" => letDeclares
  | _ => return false

/-- a variable with its initial value; `inHead` is inside the head of a `for` -/
def declarator (g : Grammar) (word : String) (inHead : Bool) : Parser Declarator := do
  let start ← position
  let p ← g _ (.binding (word != "var"))
  let isName := match p.target with
    | .name _ => true
    | .pattern _ => false
  if isName then
    let _ ← eatPunct "!"
  let p := { p with annotation := ← annotation? g }
  if inHead && ((← isWord "in") || (← isWord "of")) then return ⟨p, start, none⟩
  if ← eatPunct "=" then
    let e ← g _ .assignment
    return ⟨p, start, some e.value⟩
  unless (← read).ambient do
    if word == "const" && !inHead then pardon
    else unless isName do failAt start
  return ⟨p, start, none⟩

/-- skips what is left of a line that should have ended -/
def skipLine (g : Grammar) : Parser Unit := do
  pardon
  let _ ← outcome (g _ .expression)
  loop () fun _ => do
    if ← eatSemicolon then return .inr ()
    bump
    match ← kind with
    | .bad _ => return .inr ()
    | _ => return .inl ()

/-- whether a `for` runs over something -/
def atForSource : Parser Bool := return (← isWord "of") || (← isWord "in")

/-- whether the head of a `for` names no variable before what it runs over -/
def lacksVariables (g : Grammar) : Parser Bool := lookAhead do
  let source ← attempt do
    unless ← atForSource do fail
    bump
    let _ ← g _ .assignment
    expectPunct ")"
    return some ()
  return source.isSome

/-- the variables of a declaration, from its word on; `inHead` is inside the head of a `for` -/
def declarators (g : Grammar) (inHead : Bool) : Parser (List Declarator) := do
  let word ← anyName
  if ← (return inHead) <&&> lacksVariables g then
    pardon
    return []
  let ds ← loop [] fun ds => do
    if ← isPunct ";" then return .inr ds.reverse
    let d ← withReader (fun ctx =>
      { ctx with allowIn := ctx.allowIn || word != "var" || !inHead }) (declarator g word inHead)
    if ← eatPunct "," then return .inl (d :: ds) else return .inr (d :: ds).reverse
  unless inHead do
    unless ← eatSemicolon do skipLine g
  return ds

/-! ## Loops and branches -/

def parenTest (g : Grammar) : Parser Unit := do
  expectPunct "("
  let _ ← allowingIn (g _ .expression)
  expectPunct ")"

def inner (g : Grammar) : Parser Unit := g _ (.statement false)

inductive ForKind where
  /-- a test and a step -/
  | test
  /-- the keys of an object -/
  | keys
  /-- the values of a list -/
  | values
deriving DecidableEq, Repr

/-- the test and the step of a `for`, from the first semicolon on -/
def forTail (g : Grammar) : Parser ForKind := do
  expectPunct ";"
  unless ← eatPunct ";" do
    let _ ← allowingIn (g _ .expression)
    let _ ← eatPunct ";"
  unless ← isPunct ")" do
    let _ ← allowingIn (g _ .expression)
  return .test

/-- what a `for` runs over, from `of` or `in` on -/
def forSource (g : Grammar) : Parser ForKind := do
  if ← eatWord "of" then
    let _ ← allowingIn (g _ .assignment)
    return .values
  else
    bump
    let _ ← allowingIn (g _ .expression)
    return .keys

/-- whether an expression is the word `using`, perhaps after `await` -/
def isUsing : Form → Bool
  | .ident name | .awaiting (some name) => name == "using"
  | _ => false

def forHead (g : Grammar) : Parser ForKind := do
  if ← atVariables then
    let _ ← declarators g true
    if ← atForSource then forSource g else forTail g
  else if ← isPunct ";" then forTail g
  else
    let e ← withReader (fun ctx => { ctx with allowIn := false }) (g _ .expression)
    let next := (← peek).kind
    if isUsing e.form && !(← isWord "of") && (next == .word "of" || next == .word "in") then
      let _ ← bindingName
      forSource g
    else if ← atForSource then
      if e.form == .object || e.form == .array then
        let _ ← paramOf e
      forSource g
    else forTail g

/-- a loop; only one over values may be waited for -/
def forStatement (g : Grammar) : Parser Unit := do
  expectWord "for"
  let start ← position
  let awaits ← eatWord "await"
  expectPunct "("
  let k ← withReader (fun ctx => { ctx with inForHead := true }) (forHead g)
  expectPunct ")"
  inner g
  if awaits && k != .values then failAt start

def ifStatement (g : Grammar) : Parser Unit := do
  expectWord "if"
  parenTest g
  inner g
  if ← eatWord "else" then inner g

def doStatement (g : Grammar) : Parser Unit := do
  expectWord "do"
  inner g
  expectWord "while"
  parenTest g
  let _ ← eatSemicolon

def switchStatement (g : Grammar) : Parser Unit := do
  expectWord "switch"
  parenTest g
  expectPunct "\x7b"
  let _ ← loop false fun hasDefault => do
    if ← isWord "case" then
      bump
      let _ ← allowingIn (g _ .expression)
      caseBody
      return .inl hasDefault
    if ← isWord "default" then
      let start ← position
      bump
      if hasDefault then failAt start
      caseBody
      return .inl true
    return .inr ()
  expectPunct "\x7d"
where
  caseBody : Parser Unit := do
    expectPunct ":"
    let _ ← plainList
      (return (← isWord "case") || (← isWord "default") || (← isPunct "\x7d")) (g _ (.statement true))

def catchClause (g : Grammar) : Parser Unit := do
  if ← eatWord "catch" then
    if ← eatPunct "(" then
      let _ ← g _ (.binding false)
      let _ ← annotation? g
      expectPunct ")"
    g _ .block

def finallyClause (g : Grammar) : Parser Unit := do
  if ← eatWord "finally" then g _ .block

def tryStatement (g : Grammar) : Parser Unit := do
  expectWord "try"
  g _ .block
  let isHandled ← isWord "catch" <||> isWord "finally"
  catchClause g
  finallyClause g
  unless isHandled do pardon

/-! ## Declarations of types -/

def interfaceTail (g : Grammar) : Parser Unit := do
  let _ ← anyName
  typeParams? g
  if ← eatWord "extends" then heritage g
  if ← isWord "extends" then
    let _ ← plainList (return (← isPunct "\x7b") || (← isEnd)) bump
  typeMembers g

def aliasTail (g : Grammar) : Parser Unit := do
  let _ ← anyName
  typeParams? g
  expectPunct "="
  let _ ← g _ .type
  expectSemicolon

/-- a member of an enumeration with the comma after it.  Where something else follows the name, it
and the token after it are taken for the comma. -/
def enumMember (g : Grammar) : Parser Unit := do
  refuseBad
  match ← kind with
  | .string | .number | .word _ | .name _ => bump
  | .punct "[" => do
    bump
    let _ ← g _ .expression
    pardon
    bump
  | _ => fail
  if ← eatPunct "=" then
    let _ ← g _ .assignment
    unless ← eatPunct "," <||> isPunct "\x7d" do pardon
  else
    unless ← eatPunct "," <||> isPunct "\x7d" do
      bump
      bump

def enumTail (g : Grammar) : Parser Unit := do
  let _ ← anyName
  expectPunct "\x7b"
  let _ ← plainList (isPunct "\x7d") (enumMember g)
  expectPunct "\x7d"

/-- the items of a namespace in braces -/
def namespaceBody (g : Grammar) : Parser Unit := do
  expectPunct "\x7b"
  let _ ← plainList (return (← isPunct "\x7d") || (← isEnd)) (g _ .item)
  let _ ← eatPunct "\x7d"

def namespaceTail (g : Grammar) : Parser Unit := do
  loop () fun _ => do
    let _ ← anyName
    if ← eatPunct "." then return .inl () else return .inr ()
  namespaceBody g

/-- the module that a `declare module` or `declare global` describes, from its name on -/
def ambientModule (g : Grammar) : Parser Unit := do
  match ← kind with
  | .word "global" | .string => bump
  | _ => fail
  if ← isPunct "\x7b" then namespaceBody g else expectSemicolon

/-- a declaration that starts with a word of its own, which is taken already unless `next` holds -/
def typeDeclaration? (g : Grammar) (word : String) (next : Bool) : Parser Bool := do
  let take : Parser Unit := if next then bump else pure ()
  match word with
  | "abstract" =>
    if next || ((← isWord "class") && !(← newLine)) then
      take
      g _ (.classTail true)
      return true
  | "enum" =>
    if next || (← isReference) then
      take
      enumTail g
      return true
  | "interface" =>
    if next || (← isReference) then
      take
      interfaceTail g
      return true
  | "module" =>
    if !(← newLine) then
      take
      if (← kind) == .string then
        ambientModule g
        return true
      else if next || (← isReference) then
        namespaceTail g
        return true
  | "namespace" =>
    if next || (← isReference) then
      take
      namespaceTail g
      return true
  | "type" =>
    if next || (!(← newLine) && (← isReference)) then
      take
      aliasTail g
      return true
  | _ => pure ()
  return false

/-- what a `declare` declares, from behind the word on; nothing if it declares nothing -/
def ambientItem? (g : Grammar) (start : Nat) : Parser (Option Item) :=
  withReader (fun ctx => { ctx with ambient := true }) do
    match ← word? with
    | some "function" => do
      let (name, callable, _) ← functionHead g false true
      return some (.function (name.getD "") start callable)
    | some "class" => do
      g _ (.classTail true)
      return some .other
    | some "const" | some "var" | some "let" =>
      if (← isWord "const") && (← peek).kind == .word "enum" then
        bump
        bump
        enumTail g
        return some .other
      return some (.declaration (← declarators g false))
    | some "global" => do
      ambientModule g
      return some .other
    | some word => if ← typeDeclaration? g word true then return some .other else return none
    | none => return none

/-! ## Statements by their first word -/

/-- whether a word on the same line follows the current one -/
def wordFollows : Parser Bool := do
  let next ← peek
  return isNameKind next.kind && !next.newLine

/-- a statement that is an expression, a label, or a declaration that starts with a plain word -/
def expressionStatement (g : Grammar) : Parser Unit := do
  let e ← allowingIn (g _ .expression)
  match e.form with
  | .ident name =>
    if ← eatPunct ":" then
      if ← isWord "function" then
        let _ ← functionHead g false true
      else inner g
      return
    if ← (return name == "abstract") <&&> isWord "interface" <&&> sameLine then
      pardon
      return
    match name with
    | "declare" => if (← ambientItem? g e.span.start).isSome then return
    | "global" =>
      if ← isPunct "\x7b" then
        namespaceBody g
        return
    | _ => if ← typeDeclaration? g name false then return
  | _ => pure ()
  if ← eatSemicolon then return
  if ← atBinaryMark then
    let _ ← g _ (.binary e 0)
  else fail

/-- whether the word `using` is followed by something that it declares -/
def usingDeclares : Parser Bool := do
  let next ← peek
  return isReferenceKind next.kind && !next.newLine

/-- whether `await` is followed by a `using` that declares something -/
def awaitDeclares : Parser Bool := lookAhead do
  bump
  isWord "using" <&&> usingDeclares

def usingStatement (g : Grammar) : Parser Unit := do
  expectWord "using"
  let _ ← loop () fun _ => do
    let _ ← declarator g "var" false
    if ← eatPunct "," then return .inl () else return .inr ()
  expectSemicolon

def statementBody (g : Grammar) (declares : Bool) : Parser Unit := do
  match ← kind with
  | .punct "\x7b" => g _ .block
  | .punct ";" => bump
  | .word "const" =>
    if (← peek).kind == .word "enum" then
      bump
      bump
      enumTail g
    else if declares then
      let _ ← declarators g false
    else expressionStatement g
  | .word "var" => do
    let _ ← declarators g false
  | .word "let" =>
    if ← (return declares) <&&> letDeclares then
      let _ ← declarators g false
    else expressionStatement g
  | .word "break" | .word "continue" => do
    bump
    unless ← eatSemicolon do
      let _ ← bindingName
      expectSemicolon
  | .word "debugger" => do
    bump
    expectSemicolon
  | .word "do" => doStatement g
  | .word "for" => forStatement g
  | .word "function" => do
    let _ ← functionHead g false true
  | .word "class" => g _ (.classTail true)
  | .word "if" => ifStatement g
  | .word "return" => do
    bump
    unless ← atSemicolon do
      let _ ← allowingIn (g _ .expression)
    expectSemicolon
    unless (← read).inBody do pardon
  | .word "switch" => switchStatement g
  | .word "throw" => do
    bump
    if ← newLine then fail
    let _ ← allowingIn (g _ .expression)
    expectSemicolon
  | .word "catch" => do
    let _ ← outcome (catchClause g)
    let _ ← outcome (finallyClause g)
  | .word "finally" => do
    let _ ← outcome (finallyClause g)
  | .word "try" => tryStatement g
  | .word "with" => do
    bump
    parenTest g
    inner g
  | .word "while" => do
    bump
    parenTest g
    inner g
  | .word "using" =>
    if ← (return declares) <&&> usingDeclares then usingStatement g else expressionStatement g
  | .word "await" =>
    if ← (return declares) <&&> awaitDeclares then
      bump
      usingStatement g
    else expressionStatement g
  | .word "interface" =>
    if ← wordFollows then
      bump
      interfaceTail g
    else expressionStatement g
  | .word "type" =>
    if ← wordFollows then
      bump
      aliasTail g
    else expressionStatement g
  | .word "enum" =>
    if ← wordFollows then
      bump
      enumTail g
    else expressionStatement g
  | .word "async" =>
    let next ← peek
    if next.kind == .word "function" && !next.newLine then
      bump
      let _ ← functionHead g true true
    else expressionStatement g
  | _ => expressionStatement g

/-- `import` as an expression, if the word is not the start of a declaration -/
def importStatement? (g : Grammar) : Parser Bool := do
  if !(← isWord "import") then return false
  match (← peek).kind with
  | .punct "(" | .punct "." => do
    let _ ← allowingIn (g _ .expression)
    let _ ← eatSemicolon
    return true
  | _ => return false

def statement (g : Grammar) (declares : Bool) : Parser Unit := do
  g _ .decorators
  if ← importStatement? g then return
  if (← isWord "import") || (← isWord "export") then fail
  bracketed (statementBody g declares)

end ResolverTypes.Script.Grammar
