import ResolverTypes.Script.Token
import ResolverTypes.Script.Tree

/-!
# Parsing scripts

A parser moves over the tokens of a text.  It fails at a position, and it then leaves the token it
failed at in place, so that a rule that can go on after a mistake finds it there; `attempt` is the
way to try something and come back.  A mistake that is let pass is marked by `pardon`: what stands
there and is no token is then skipped, as it is after a failure.

The grammar is one large recursion.  `Rule` names the phrases that refer to each other, and a
`Grammar` says how each of them is parsed; the modules below this one define one layer of it each.
-/

namespace ResolverTypes.Script

structure Fault where
  pos : Nat
deriving DecidableEq, Repr

structure Context where
  /-- the length of the text -/
  size : Nat
  /-- whether elements such as `<a>` are expressions -/
  markup : Bool
  inAsync : Bool := false
  inGenerator : Bool := false
  inStaticBlock : Bool := false
  /-- inside the parameters of a function -/
  inParams : Bool := false
  /-- inside the body of a function -/
  inBody : Bool := false
  /-- inside a `declare` -/
  ambient : Bool := false
  /-- whether `in` is an operator here -/
  allowIn : Bool := false
  /-- inside a branch of a conditional -/
  inConditional : Bool := false
  /-- inside the first branch of a conditional, so that a colon is due -/
  awaitsColon : Bool := false
  /-- inside the head of a `for` -/
  inForHead : Bool := false
  /-- whether the phrase is only tried, so that mistakes in it are not let pass by skipping -/
  tentative : Bool := false
  /-- where a constraint of an inferred type may not be followed by a question mark -/
  noConditionalType : Bool := false

structure State where
  token : Token
  /-- where the token before ends -/
  lastStop : Nat
  /-- the text after the token before -/
  lastRest : List Char
  /-- where an arrow function may start -/
  arrowStart : Option Nat

abbrev Parser := ReaderT Context (EStateM Fault State)

namespace Parser
variable {α β σ : Type}

/-! ## Tokens -/

def token : Parser Token := return (← get).token

def kind : Parser Kind := return (← get).token.kind

def position : Parser Nat := return (← get).token.start

def newLine : Parser Bool := return (← get).token.newLine

/-- whether the current token stands on the line of the token before -/
def sameLine : Parser Bool := return !(← newLine)

def spanFrom (start : Nat) : Parser Span := return ⟨start, (← get).lastStop⟩

/-- goes on at a place in the text -/
def moveTo (pos : Nat) (rest : List Char) : Parser Unit :=
  modify fun s => { s with token := Token.next pos rest, lastStop := pos, lastRest := rest }

/-- reads the current token as another one that starts in the same place -/
def replaceToken (t : Token) : Parser Unit := modify fun s => { s with token := t }

def bump : Parser Unit := do
  let t ← token
  moveTo t.stop t.rest

def peek : Parser Token := do
  let t ← token
  return Token.next t.stop t.rest

/-! ## Failing and trying -/

/-- skips the current token if it is none -/
def skipBad : Parser Unit := do
  match ← kind with
  | .bad _ => bump
  | _ => pure ()

/-- lets a mistake pass; if the current token is none, it passes with it, unless this is only tried -/
def pardon : Parser Unit := do
  unless (← read).tentative do skipBad

def failAt (pos : Nat) : Parser α := do
  skipBad
  throw ⟨pos⟩

def fail : Parser α := do failAt (← position)

/-- fails if the current token is none -/
def refuseBad : Parser Unit := do
  match ← kind with
  | .bad pos => do
    bump
    throw ⟨pos⟩
  | _ => pure ()

/-- tries a parser; if it fails or finds nothing, nothing is taken -/
def attempt (p : Parser (Option α)) : Parser (Option α) := fun ctx s =>
  match p { ctx with tentative := true } s with
  | .ok (some a) s' => .ok (some a) s'
  | .ok none _ | .error _ _ => .ok none s

/-- asks a question about what follows without taking anything -/
def lookAhead (p : Parser Bool) : Parser Bool := fun ctx s =>
  match p { ctx with tentative := true } s with
  | .ok b _ => .ok b s
  | .error e _ => .error e s

/-- a parser with its failure as a value; what it takes stays taken -/
def outcome (p : Parser α) : Parser (Except Fault α) := fun ctx s =>
  match p ctx s with
  | .ok a s => .ok (.ok a) s
  | .error e s => .ok (.error e) s

/-- whether a parser succeeds; what it takes stays taken either way -/
def succeeds (p : Parser α) : Parser Bool := do
  match ← outcome p with
  | .ok _ => pure true
  | .error _ => pure false

def loopUpTo (step : σ → Parser (σ ⊕ β)) : Nat → σ → Parser β
  | 0, _ => fail
  | n + 1, a => do
    match ← step a with
    | .inl a => loopUpTo step n a
    | .inr b => pure b

/-- repeats a step that takes at least one token until it gives a result -/
def loop (a : σ) (step : σ → Parser (σ ⊕ β)) : Parser β := do
  loopUpTo step ((← read).size + 2) a

/-! ## Marks and words -/

def isPunct (text : String) : Parser Bool := return (← kind) == .punct text
def isWord (name : String) : Parser Bool := return (← kind) == .word name
def isEnd : Parser Bool := return (← kind) == .eof

def isOneOf (texts : List String) : Parser Bool := do
  match ← kind with
  | .punct text => pure (texts.contains text)
  | _ => pure false

def word? : Parser (Option String) := do
  match ← kind with
  | .word name => pure (some name)
  | _ => pure none

def isNameKind : Kind → Bool
  | .word _ | .name _ => true
  | _ => false

def isReferenceKind : Kind → Bool
  | .word name => isReferenceWord name
  | .name _ => true
  | _ => false

def isName : Parser Bool := return isNameKind (← kind)

def isReference : Parser Bool := return isReferenceKind (← kind)

def eatPunct (text : String) : Parser Bool := do
  if ← isPunct text then do bump; pure true else pure false

def eatWord (name : String) : Parser Bool := do
  if ← isWord name then do bump; pure true else pure false

def expectPunct (text : String) : Parser Unit := do
  unless ← eatPunct text do fail

def expectWord (name : String) : Parser Unit := do
  unless ← eatWord name do fail

def startsWith (c : Char) : Parser Bool := do
  match ← kind with
  | .punct _ => return (← token).source.head? == some c
  | _ => pure false

/-- takes a single angle bracket, also from a longer mark -/
def expectAngle (c : Char) : Parser Unit := do
  if ← startsWith c then
    let t ← token
    moveTo (t.pos + 1) (t.source.drop 1)
  else fail

/-! ## Names -/

def anyName : Parser String := do
  match ← kind with
  | .word name | .name name => do bump; pure name
  | _ => fail

/-- a word that can be bound to a value; the words of strict code are let pass -/
def bindingName : Parser String := do
  match ← kind with
  | .word name =>
    if name == "await" && !(← read).ambient then fail
    else if reservedWords.contains name && name != "this" then fail
    else do
      bump
      if strictWords.contains name then pardon
      pure name
  | .name name => do bump; pure name
  | _ => fail

/-! ## Ends of statements -/

def atSemicolon : Parser Bool := do
  return (← isOneOf [";", "\x7d"]) || (← newLine) || (← isEnd)

/-- takes the semicolon that ends a statement; one may be missing at the end of a line or block -/
def eatSemicolon : Parser Bool := do
  if ← eatPunct ";" then pure true else atSemicolon

def expectSemicolon : Parser Unit := do
  unless ← eatSemicolon do fail

/-! ## Lists -/

/-- items up to an end, with commas between them and perhaps after the last -/
def commaList (atEnd : Parser Bool) (item : Parser α) : Parser (List α) :=
  loop [] fun items => do
    if ← atEnd then return .inr items.reverse
    let a ← item
    let items := a :: items
    if ← eatPunct "," then return .inl items
    if ← atEnd then return .inr items.reverse
    fail

/-- items up to an end, one after the other -/
def plainList (atEnd : Parser Bool) (item : Parser α) : Parser (List α) :=
  loop [] fun items => do
    if ← atEnd then return .inr items.reverse
    let a ← item
    return .inl (a :: items)

/-! ## Templates -/

def atTemplate : Parser Bool := do
  match ← kind with
  | .template _ _ => pure true
  | _ => pure false

/-- refuses an escape that means nothing; tagged templates and types may hold such escapes -/
def refuseEscape (tagged : Bool) : Option Nat → Parser Unit
  | some bad => unless tagged do throw ⟨bad⟩
  | none => pure ()

/-- a template; `hole` parses what stands in a hole -/
def template (tagged : Bool) (hole : Parser Unit) : Parser Unit := do
  match ← kind with
  | .template hasHole badEscape => do
    bump
    refuseEscape tagged badEscape
    if hasHole then
      loop () fun _ => do
        hole
        unless ← isPunct "\x7d" do fail
        let t ← token
        match readTemplate 0 t.stop t.rest with
        | (.missing, pos, rest, _) => do
          replaceToken { t with kind := .bad t.start, stop := pos, rest }
          failAt t.start
        | (stop, pos, rest, badEscape) =>
          moveTo pos rest
          refuseEscape tagged badEscape
          return if stop = .close then .inr () else .inl ()
  | _ => fail

end Parser

/-! ## The grammar -/

/-- the phrases of the grammar, each with what is kept of it -/
inductive Rule : Type → Type 1 where
  /-- an expression without a comma -/
  | assignment : Rule Expr
  /-- an expression, with commas -/
  | expression : Rule Expr
  /-- an operand -/
  | unary : Rule Expr
  /-- an operand with its accesses, but without calls of it and operators before it -/
  | access : Rule Expr
  /-- what follows a left operand, for operators that bind closer than `level` -/
  | binary (left : Expr) (level : Nat) : Rule Expr
  /-- an object in braces -/
  | object : Rule Expr
  /-- an element, from behind its first angle bracket on: the place of its closing tag if that does
  not match -/
  | markup : Rule (Option Nat)
  | type : Rule Span
  /-- a type that is not a conditional one -/
  | plainType : Rule Span
  /-- a name or pattern; `strict` refuses the name `let` -/
  | binding (strict : Bool) : Rule Param
  /-- a statement in braces -/
  | block : Rule Unit
  /-- a statement; `declares` says whether it may declare something -/
  | statement (declares : Bool) : Rule Unit
  /-- the text from `class` on, with the name required or not -/
  | classTail (named : Bool) : Rule Unit
  /-- the decorators that stand here, perhaps none -/
  | decorators : Rule Unit
  /-- an item of a script or of a namespace -/
  | item : Rule Item

/-- a parser for every phrase -/
abbrev Grammar := (α : Type) → Rule α → Parser α

end ResolverTypes.Script
