import ResolverTypes.Script.Grammar.Type

/-!
# Functions
-/

namespace ResolverTypes.Script.Grammar
open Script.Parser

def inFunction {α : Type} (isAsync isGenerator : Bool) (p : Parser α) : Parser α :=
  withReader (fun ctx => { ctx with
    inAsync := isAsync, inGenerator := isGenerator, inStaticBlock := false, inParams := false }) p

def inParams {α : Type} (p : Parser α) : Parser α :=
  withReader (fun ctx => { ctx with inParams := true, inBody := false }) p

def inBody {α : Type} (p : Parser α) : Parser α :=
  withReader (fun ctx => { ctx with inBody := true }) p

/-- the body of a function, or the end of a signature without one; says whether there is a body -/
def functionBody (g : Grammar) : Parser Bool := do
  if ← (return !(← isPunct "\x7b")) <&&> eatSemicolon then return false
  inBody (allowingIn (g _ .block))
  return true

/-- a function from its type parameters on; says whether it has a body -/
def functionTail (g : Grammar) (isAsync isGenerator : Bool) : Parser (Callable × Bool) :=
  inFunction isAsync isGenerator do
    typeParams? g
    expectPunct "("
    let ps ← inParams (params g)
    expectPunct ")"
    let result ← resultType? g
    let hasBody ← functionBody g
    return (⟨ps, result.map (·.type), isAsync⟩, hasBody)

/-- the body of an arrow function; says whether it is a block -/
def arrowBody (g : Grammar) (isAsync : Bool) : Parser Bool :=
  inFunction isAsync false <| inBody do
    if ← isPunct "\x7b" then
      g _ .block
      return true
    else
      let _ ← g _ .assignment
      return false

def optionalName : Parser (Option String) := do
  if ← isReference <||> isWord "this" then some <$> bindingName else pure none

/-- a function from the word `function` on: its name, if it has one, and its head -/
def functionHead (g : Grammar) (isAsync named : Bool) :
    Parser (Option String × Callable × Bool) := do
  expectWord "function"
  let isGenerator ← eatPunct "*"
  let name ← if named then some <$> bindingName else optionalName
  let (callable, hasBody) ← functionTail g isAsync isGenerator
  return (name, callable, hasBody)

end ResolverTypes.Script.Grammar
