import ResolverTypes.Script.Grammar.Pattern

/-!
# Types

Of a type only the place is kept.
-/

namespace ResolverTypes.Script.Grammar
open Script.Parser

/-! ## Names and arguments -/

/-- a name with points in it; a point at the end is let pass.  `part` is what may stand after a
point. -/
def entityNameOf (part : Parser String) : Parser Unit := do
  let _ ← anyName
  loop () fun _ => do
    if ← eatPunct "." then
      if ← isName <||> isPunct "#" then
        let _ ← part
        return .inl ()
      else
        pardon
        return .inr ()
    else return .inr ()

def entityName : Parser Unit := entityNameOf anyName

def openTypeArguments (g : Grammar) : Parser Unit := do
  expectAngle '<'
  let _ ← commaList (startsWith '>') (g _ .type)

def typeArguments (g : Grammar) : Parser Unit := do
  openTypeArguments g
  expectAngle '>'

/-- the type arguments of an expression, where the closing bracket stands alone -/
def valueTypeArguments (g : Grammar) : Parser Unit := do
  openTypeArguments g
  expectPunct ">"

def atTypeArguments : Parser Bool := isOneOf ["<", "<<"]

def typeParam (g : Grammar) : Parser Unit := do
  plainModifiers
  let _ ← anyName
  if ← eatWord "extends" then
    let _ ← g _ .type
  if ← eatPunct "=" then
    let _ ← g _ .type
where
  plainModifiers : Parser Unit := loop () fun _ => do
    match ← modifier? (accessWords ++ ["abstract", "const", "override", "in", "out"]) with
    | some _ => return .inl ()
    | none => return .inr ()

def typeParams (g : Grammar) : Parser Unit := do
  unless ← isPunct "<" do fail
  bump
  let _ ← commaList (startsWith '>') (typeParam g)
  expectAngle '>'

def typeParams? (g : Grammar) : Parser Unit := do
  if ← isPunct "<" then typeParams g

/-! ## Signatures -/

/-- the parameters of a signature with the closing parenthesis; none may have a default value -/
def signatureParams (g : Grammar) : Parser (List Param) := do
  let ps ← params g
  if ps.any (·.hasDefault) then fail
  expectPunct ")"
  return ps

/-- the result type after a mark, which may be a statement about a parameter -/
def resultType (g : Grammar) (mark : String) : Parser Annotation := do
  let start ← position
  expectPunct mark
  let first ← position
  let asserts ← do
    if ← isWord "asserts" then
      let next := (← peek).kind
      pure (isReferenceKind next || next == .word "this")
    else pure false
  if asserts then bump
  let tells ← do
    if (← isReference) || (asserts && (← isWord "this")) then
      let next ← peek
      pure (next.kind == .word "is" && !next.newLine)
    else pure false
  if asserts || tells then
    let _ ← anyName
    if tells then
      bump
      let _ ← g _ .type
    return ⟨start, ← spanFrom first⟩
  else return ⟨start, ← g _ .type⟩

def resultType? (g : Grammar) : Parser (Option Annotation) := do
  if ← isPunct ":" then return some (← resultType g ":") else return none

/-- a function type or, after `new`, the type of a constructor -/
def functionType (g : Grammar) (isNew : Bool) : Parser Span := do
  let start ← position
  if isNew then
    let _ ← eatWord "abstract"
    expectWord "new"
  typeParams? g
  expectPunct "("
  let _ ← signatureParams g
  let _ ← resultType g "=>"
  spanFrom start

/-- takes the beginning of a parameter, if one stands here -/
def skipParamStart (g : Grammar) : Parser Bool := do
  let _ ← skipAccess
  if ← isReference <||> isWord "this" then
    bump
    return true
  if ← isOneOf ["[", "\x7b"] then succeeds (g _ (.binding false)) else return false

/-- whether a parenthesis here opens the parameters of a function type -/
def opensFunctionType (g : Grammar) : Parser Bool := lookAhead do
  expectPunct "("
  if ← isOneOf [")", "..."] then return true
  if ← skipParamStart g then
    if ← isOneOf [":", ",", "?", "="] then return true
    if ← eatPunct ")" then
      if ← isPunct "=>" then return true
  return false

/-! ## Members -/

def memberEnd : Parser Unit := do
  unless ← eatPunct "," do expectSemicolon

/-- whether a bracket here opens an index signature -/
def opensIndexSignature : Parser Bool := lookAhead do
  expectPunct "["
  if ← isReference then
    bump
    isOneOf [",", ":"]
  else return false

def indexSignature? (g : Grammar) : Parser Bool := do
  if !(← isPunct "[") then return false
  if !(← opensIndexSignature) then return false
  expectPunct "["
  let _ ← anyName
  if ← eatPunct "," then pardon else expectPunct ":"
  let _ ← g _ .type
  expectPunct "]"
  let _ ← annotation? g
  memberEnd
  return true

/-- a private name, from its mark on, with no space in it -/
def privateName : Parser Unit := do
  let mark ← token
  expectPunct "#"
  if (← token).start != mark.stop then failAt mark.start
  let _ ← anyName

def memberName (g : Grammar) : Parser Unit := do
  if ← eatPunct "[" then
    let _ ← g _ .assignment
    expectPunct "]"
  else
    match ← kind with
    | .string | .number =>
      let _ ← g _ .access
    | .punct "#" => privateName
    | _ =>
      let _ ← anyName

/-- the parameters and result of a member that is called -/
def signature (g : Grammar) : Parser Unit := do
  typeParams? g
  expectPunct "("
  let _ ← signatureParams g
  let _ ← resultType? g
  memberEnd

def accessorMember (g : Grammar) : Parser (Option Unit) := do
  let isGet ← eatWord "get"
  unless isGet do expectWord "set"
  memberName g
  expectPunct "("
  if isGet then
    expectPunct ")"
    let _ ← annotation? g
  else
    let ps ← signatureParams g
    if ps.isEmpty then fail
  memberEnd
  return some ()

def typeMember (g : Grammar) : Parser Unit := do
  if ← isOneOf ["(", "<"] then
    signature g
    return
  if ← isWord "new" then
    match (← peek).kind with
    | .punct "(" | .punct "<" =>
      bump
      signature g
      return
    | _ => pure ()
  let isReadonly := (← modifier? ["readonly"]).isSome
  if ← indexSignature? g then return
  if !isReadonly then
    if (← attempt (accessorMember g)).isSome then return
  memberName g
  let _ ← eatPunct "?"
  if ← isOneOf ["(", "<"] then
    if isReadonly then fail
    signature g
  else
    let _ ← annotation? g
    memberEnd

def typeMembers (g : Grammar) : Parser Unit := do
  expectPunct "\x7b"
  let _ ← plainList (isPunct "\x7d") (typeMember g)
  expectPunct "\x7d"

/-! ## Mapped types and tuples -/

def opensMappedType : Parser Bool := lookAhead do
  expectPunct "\x7b"
  if ← eatPunct "+" <||> eatPunct "-" then return ← isWord "readonly"
  let _ ← eatWord "readonly"
  if !(← eatPunct "[") then return false
  if !(← isReference) then return false
  bump
  isWord "in"

def mappedType (g : Grammar) : Parser Unit := do
  expectPunct "\x7b"
  if ← eatPunct "+" <||> eatPunct "-" then expectWord "readonly"
  else
    let _ ← eatWord "readonly"
  expectPunct "["
  let _ ← anyName
  expectWord "in"
  let _ ← g _ .type
  if ← eatWord "as" then
    let _ ← g _ .type
  expectPunct "]"
  if ← eatPunct "+" <||> eatPunct "-" then expectPunct "?"
  else
    let _ ← eatPunct "?"
  let _ ← annotation? g
  expectSemicolon
  expectPunct "\x7d"

/-- the name of a tuple item, with its colon -/
def tupleLabel : Parser (Option Unit) := do
  let _ ← eatPunct "..."
  let _ ← anyName
  let _ ← eatPunct "?"
  expectPunct ":"
  return some ()

/-- how often an item of a tuple occurs -/
inductive TupleItem where
  | required
  | optional
  | rest
deriving DecidableEq, Repr

def tupleItem (g : Grammar) : Parser TupleItem := do
  let _ ← attempt tupleLabel
  if ← eatPunct "..." then
    let _ ← g _ .type
    return .rest
  else
    let _ ← g _ .type
    return if ← eatPunct "?" then .optional else .required

def tupleType (g : Grammar) : Parser Unit := do
  let start ← position
  expectPunct "["
  let items ← commaList (isPunct "]") (tupleItem g)
  expectPunct "]"
  if (items.dropWhile (· != .optional)).contains .required then failAt start

/-! ## Types that hold no operator -/

/-- the attributes in the type of an imported module, from their brace on -/
def importOptions (g : Grammar) : Parser Unit := do
  bump
  expectWord "with"
  expectPunct ":"
  let _ ← g _ .object
  let _ ← eatPunct ","
  expectPunct "\x7d"

def importType (g : Grammar) : Parser Unit := do
  expectWord "import"
  expectPunct "("
  if (← kind) == .string then bump
  else
    bump
    pardon
  if ← eatPunct "," then importOptions g
  expectPunct ")"
  if ← eatPunct "." then entityNameOf bindingName
  if ← isPunct "<" then typeArguments g

/-- the type of a value, from `typeof` on -/
def valueType (g : Grammar) : Parser Unit := do
  expectWord "typeof"
  if ← isWord "import" then importType g else entityName
  if ← sameLine <&&> isPunct "<" then typeArguments g

def namedType (g : Grammar) : Parser Unit := do
  let qualified ← skipAccess
  entityName
  if ← sameLine <&&> atTypeArguments then typeArguments g
  if qualified then pardon

/-- `this` as a type, or what it is said to be -/
def thisType (g : Grammar) : Parser Unit := do
  expectWord "this"
  if ← sameLine <&&> eatWord "is" then
    let _ ← g _ .type

/-- the types that have a word of their own -/
def typeWords : List String :=
  ["any", "boolean", "bigint", "never", "number", "object", "string", "symbol", "unknown",
   "undefined", "intrinsic", "void", "null"]

def atomType (g : Grammar) : Parser Span := do
  let start ← position
  match ← kind with
  | .string | .number | .bigInt => bump
  | .word "true" | .word "false" => bump
  | .word "import" => importType g
  | .word "this" => thisType g
  | .word "typeof" => valueType g
  | .word name => do
    let next ← peek
    if name == "asserts" && next.kind == .word "this" then
      bump
      bump
      if ← eatWord "is" then
        let _ ← g _ .type
    else if typeWords.contains name && next.kind != .punct "." then bump
    else if (reservedWords.contains name || name == "let")
        && !(["void", "null", "break"].contains name) then fail
    else namedType g
  | .name _ => namedType g
  | .template _ _ => template true do
    let _ ← g _ .type
  | .punct "-" => do
    bump
    match ← kind with
    | .number | .bigInt => bump
    | _ => fail
  | .punct "\x7b" => if ← opensMappedType then mappedType g else typeMembers g
  | .punct "[" => tupleType g
  | .punct "(" => do
    bump
    let _ ← g _ .type
    expectPunct ")"
  | _ => fail
  spanFrom start

/-! ## Operators on types -/

def arrayType (g : Grammar) : Parser Span := do
  let start ← position
  let first ← atomType g
  loop first fun span => do
    if ← sameLine <&&> eatPunct "[" then
      unless ← eatPunct "]" do
        let _ ← g _ .type
        expectPunct "]"
      return .inl (← spanFrom start)
    else return .inr span

/-- the bound of a type that a pattern finds -/
def inferredBound (g : Grammar) : Parser (Option Unit) := do
  expectWord "extends"
  let _ ← g _ .plainType
  if (← read).noConditionalType || !(← isPunct "?") then return some () else return none

def inferredType (g : Grammar) : Parser Unit := do
  expectWord "infer"
  let _ ← anyName
  let _ ← attempt (inferredBound g)

/-- the words that make a type from a type -/
def typeOperatorWords : List String := ["keyof", "unique", "readonly"]

/-- a type with the words before it -/
def operatorType (g : Grammar) : Parser Span := do
  let start ← position
  let words ← loop 0 fun n => do
    match ← word? with
    | some name =>
      if typeOperatorWords.contains name then do bump; return .inl (n + 1) else return .inr n
    | none => return .inr n
  if ← isWord "infer" then
    inferredType g
    spanFrom start
  else
    let span ← arrayType g
    if words = 0 then return span else spanFrom start

/-- types joined by an operator, which may also stand before the first -/
def joinedTypes (operator : String) (item : Parser Span) : Parser Span := do
  let start ← position
  let _ ← eatPunct operator
  let first ← item
  loop first fun span => do
    if ← eatPunct operator then
      let _ ← item
      return .inl (← spanFrom start)
    else return .inr span

/-- a type that is not a conditional one -/
def plainType (g : Grammar) : Parser Span := do
  if ← isPunct "<" then return ← functionType g false
  if ← isPunct "(" then
    if ← opensFunctionType g then return ← functionType g false
  if (← isWord "new") || ((← isWord "abstract") && (← peek).kind == .word "new") then
    return ← functionType g true
  joinedTypes "|" (joinedTypes "&" (operatorType g))

def type (g : Grammar) : Parser Span :=
  withReader (fun ctx => { ctx with noConditionalType := false }) do
    let start ← position
    let first ← g _ .plainType
    unless ← sameLine <&&> eatWord "extends" do return first
    let _ ← withReader (fun ctx => { ctx with noConditionalType := true }) (g _ .plainType)
    expectPunct "?"
    let _ ← g _ .type
    expectPunct ":"
    let _ ← g _ .type
    spanFrom start

end ResolverTypes.Script.Grammar
