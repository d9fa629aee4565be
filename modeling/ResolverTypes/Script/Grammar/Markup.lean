import ResolverTypes.Script.Grammar.Expression

/-!
# Elements in angle brackets

Between the tags of an element the text stands for itself, so it is read character by character up to
the next brace or tag.
-/

namespace ResolverTypes.Script.Grammar
open Script.Parser

/-- a word that may hold hyphens -/
def markupWord : Parser String := do
  let name ← anyName
  let s ← get
  let more := s.lastRest.takeWhile fun c => Text.isIdentifierPart c || c == '-'
  moveTo (s.lastStop + more.length) (s.lastRest.drop more.length)
  return name ++ String.ofList more

/-- the name of an element or attribute: words joined by points or one colon -/
def markupName : Parser (List String) := do
  let first ← markupWord
  if ← eatPunct ":" then return [first, ":", ← markupWord]
  loop [first] fun words => do
    if ← eatPunct "." then return .inl ((← markupWord) :: words) else return .inr words

/-- a quoted value of an attribute, which may run over several lines -/
def markupString : Parser Unit := do
  let t ← token
  match t.source with
  | quote :: cs =>
    let body := cs.takeWhile (· != quote)
    match cs.drop body.length with
    | _ :: rest => moveTo (t.pos + body.length + 2) rest
    | [] => do
      moveTo (t.pos + body.length + 1) []
      failAt t.start
  | [] => fail

/-- an expression in braces, from the opening brace on; a child may spread it -/
def markupHole (g : Grammar) (isChild : Bool) : Parser Unit := bracketed do
  let start ← position
  expectPunct "\x7b"
  if ← eatPunct "\x7d" then
    unless isChild do failAt start
    return
  if isChild then
    let _ ← eatPunct "..."
  let _ ← allowingIn (g _ .expression)
  expectPunct "\x7d"

/-- fails if a closing tag does not match -/
def matched : Option Nat → Parser Unit
  | some pos => failAt pos
  | none => pure ()

def markupAttribute (g : Grammar) : Parser Unit := do
  if ← eatPunct "\x7b" then
    expectPunct "..."
    let _ ← g _ .assignment
    expectPunct "\x7d"
  else
    let _ ← markupName
    if ← eatPunct "=" then
      match (← token).source.head? with
      | some '"' | some '\'' => markupString
      | some '\x7b' => markupHole g false
      | some '<' => do
        expectAngle '<'
        matched (← g _ .markup)
      | _ => fail

/-- what stands between a place and the next brace or tag -/
def markupText (cs : List Char) : List Char := cs.takeWhile fun c => c != '\x7b' && c != '<'

/-- the start of a closing tag, where nothing may stand before it -/
def markupEnd : Parser Unit := do
  let s ← get
  match s.lastRest with
  | '<' :: '/' :: rest => moveTo (s.lastStop + 2) rest
  | cs =>
    let text := markupText cs
    unless text.isEmpty do
      let stop := s.lastStop + text.length
      replaceToken ⟨.text, s.lastStop, s.lastStop, stop, false, cs, cs.drop text.length⟩
    fail

/-- the children of an element, up to the place behind the start of its closing tag.  A child that
goes wrong is the last one, and whatever it leaves is then no closing tag; but after a child whose own
closing tag does not match, the tag that follows right away is taken. -/
def markupChildren (g : Grammar) : Parser Unit :=
  loop () fun _ => do
    let s ← get
    let text := markupText s.lastRest
    let pos := s.lastStop + text.length
    match s.lastRest.drop text.length with
    | '<' :: '/' :: rest => do
      moveTo (pos + 2) rest
      return .inr ()
    | '<' :: rest => do
      moveTo (pos + 1) rest
      match ← outcome (g _ .markup) with
      | .ok none => return .inl ()
      | .ok (some _) => return .inr (← markupEnd)
      | .error _ => fail
    | [] => do
      moveTo pos []
      fail
    | rest => do
      moveTo pos rest
      if ← succeeds (markupHole g true) then return .inl () else fail

/-- an element with its children, from behind its first angle bracket on: the place of its closing tag
if that does not match -/
def markup (g : Grammar) : Parser (Option Nat) := do
  if ← startsWith '>' then
    expectAngle '>'
    markupChildren g
    expectAngle '>'
    return none
  let name ← markupName
  if ← isPunct "<" then
    let _ ← attempt do
      typeArguments g
      return some ()
  loop () fun _ => do
    if ← startsWith '>' <||> isPunct "/" then return .inr ()
    markupAttribute g
    return .inl ()
  if ← eatPunct "/" then
    expectAngle '>'
    return none
  expectAngle '>'
  markupChildren g
  let pos ← position
  let closing ← markupName
  expectAngle '>'
  return if closing = name then none else some pos

end ResolverTypes.Script.Grammar
