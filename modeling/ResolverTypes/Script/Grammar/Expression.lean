import ResolverTypes.Script.Grammar.Function

/-!
# Expressions

Parentheses are read before it is known whether they hold the parameters of an arrow function, so
their items are kept until the arrow decides.
-/

namespace ResolverTypes.Script.Grammar
open Script.Parser

/-! ## Operators -/

/-- how closely a binary operator binds -/
def binaryLevel? (allowIn : Bool) : Kind → Option Nat
  | .word "in" => if allowIn then some 7 else none
  | .word "instanceof" => some 7
  | .punct p => punctLevel? p
  | _ => none
where
  punctLevel? : String → Option Nat
    | "||" | "??" => some 1
    | "&&" => some 2
    | "|" => some 3
    | "^" => some 4
    | "&" => some 5
    | "==" | "!=" | "===" | "!==" => some 6
    | "<" | "<=" | ">" | ">=" => some 7
    | "<<" | ">>" | ">>>" => some 8
    | "+" | "-" => some 9
    | "*" | "/" | "%" => some 10
    | "**" => some 11
    | _ => none

/-- whether the current token is an operator in marks -/
def atBinaryMark : Parser Bool := do
  match ← kind with
  | .punct p => return (binaryLevel? true (.punct p)).isSome
  | _ => return false

def assignmentMarks : List String :=
  ["=", "+=", "-=", "*=", "/=", "%=", "<<=", ">>=", ">>>=", "&=", "|=", "^=", "**=", "&&=", "||=",
   "??="]

/-- the words that start an operand and mean something there -/
def operandWords : List String :=
  ["this", "super", "null", "true", "false", "new", "function", "class", "typeof", "void", "delete",
   "await", "yield"]

/-- whether a token is the start of an expression after type arguments; a brace is none, because it
more likely opens a block -/
def opensExpression : Kind → Bool
  | .string | .number | .bigInt | .template _ _ => true
  | .name _ => true
  | .word name => isReferenceWord name || operandWords.contains name || name == "import"
  | .punct p => ["(", "[", "+", "-", "!", "~", "++", "--", "<", "/", "/=", "@", "#"].contains p
  | .eof | .text | .bad _ => false

/-- whether a token is the start of what `yield` gives -/
def opensYielded : Kind → Bool
  | .string | .number | .bigInt | .template _ _ => true
  | .name _ => true
  | .word name => !reservedWords.contains name || operandWords.contains name || name == "import"
  | .punct p => ["(", "[", "\x7b", "+", "-", "!", "~", "++", "--", "<", "/", "/=", "*"].contains p
  | .eof | .text | .bad _ => false

/-! ## Expressions as patterns -/

/-- an expression read as the name or pattern of a parameter -/
def paramOf (e : Expr) : Parser Param := do
  match e.patternFault with
  | some pos => failAt pos
  | none =>
    match e.form with
    | .ident name => return { target := .name name }
    | .assignment target => return { target with optional := true, hasDefault := true }
    | .object | .array => return { target := .pattern e.span }
    | _ =>
      pardon
      return { target := .pattern e.span }

/-- whether a value can be assigned to such an expression -/
def isAssignable : Form → Bool
  | .ident _ | .member | .optionalChain | .chainMember | .paren | .cast | .instantiation => true
  | _ => false

/-- an expression read as what stands before `=` -/
def assigned (e : Expr) : Parser Param := do
  match e.form with
  | .object | .array => paramOf e
  | .ident name => return { target := .name name }
  | form => if isAssignable form then return { target := .pattern e.span } else failAt e.span.start

/-- the assignment that starts with an expression, if a mark of assignment follows it -/
def assignmentTail (g : Grammar) (left : Expr) : Parser Expr := do
  match ← kind with
  | .punct p =>
    if !assignmentMarks.contains p then return left
    let form ← do
      if p == "=" then pure (Form.assignment (← assigned left))
      else if isAssignable left.form then pure Form.other
      else failAt left.span.start
    bump
    let _ ← g _ .assignment
    return { span := ← spanFrom left.span.start, form }
  | _ => return left

/-! ## Literals -/

def arrayLiteral (g : Grammar) : Parser Expr := bracketed do
  let start ← position
  expectPunct "["
  let items ← loop [] fun items => do
    if ← eatPunct "]" then return .inr items.reverse
    if ← eatPunct "," then return .inl items
    let item ← allowingIn (argument g)
    unless ← isPunct "]" do expectPunct ","
    return .inl (item :: items)
  let faults := items.mapIdx fun i (spread, e) =>
    if spread && i + 1 < items.length then none else e.patternFault
  return { span := ← spanFrom start, form := .array, patternFault := faults.findSome? id }

/-- an item of an object: its function, if it is one, and where it fails to be part of a pattern -/
structure ObjectItem where
  member : Option Member := none
  patternFault : Option Nat := none

/-- a method, getter or setter, which starts at `start` -/
def methodItem (g : Grammar) (start : Nat) (k : Key) (isAsync isGenerator isAccessor : Bool) :
    Parser ObjectItem := do
  let (callable, _) ← functionTail g isAsync isGenerator
  return { member := if isAccessor then none else some ⟨k, callable⟩, patternFault := some start }

def objectItem (g : Grammar) : Parser ObjectItem := do
  let start ← position
  if ← eatPunct "..." then
    let e ← g _ .assignment
    return { patternFault := e.patternFault }
  if ← eatPunct "*" then
    return ← methodItem g start (← key g) false true false
  let _ ← skipAccess
  let first ← word?
  let k ← key g
  unless ← continues k do
    pardon
    return {}
  if ← eatPunct ":" then
    let e ← g _ .assignment
    let member := match e.value with
      | .function callable => some ⟨k, callable⟩
      | _ => none
    return { member, patternFault := e.patternFault }
  if ← isOneOf ["(", "<"] then return ← methodItem g start k false false false
  match k.word? with
  | none => fail
  | some _ =>
    if ← eatPunct "?" then pardon
    if ← eatPunct "=" then
      let _ ← g _ .assignment
      return {}
    if ← isOneOf [",", "\x7d"] then return {}
    match first with
    | some "get" | some "set" => methodItem g start (← key g) false false true
    | some "async" => do
      let isGenerator ← eatPunct "*"
      methodItem g start (← key g) true isGenerator false
    | _ => fail
where
  /-- whether something that belongs to a key follows it; a name may stand alone -/
  continues (k : Key) : Parser Bool := do
    match ← kind with
    | .word _ | .name _ | .string | .number => return true
    | .punct "\x7d" => return k.word?.isSome
    | .punct p => return ["(", "[", ":", ",", "?", "=", "*", "<"].contains p
    | _ => return false

def objectLiteral (g : Grammar) : Parser Expr := bracketed <| allowingIn do
  let start ← position
  expectPunct "\x7b"
  let items ← loop [] fun items => do
    if ← eatPunct "\x7d" then return .inr items.reverse
    let item ← objectItem g
    unless ← isPunct "\x7d" do expectPunct ","
    return .inl (item :: items)
  return {
    span := ← spanFrom start
    form := .object
    value := .object (items.filterMap (·.member))
    patternFault := items.findSome? (·.patternFault) }

/-- a regular expression, from its slash on; one without an end takes the rest of its line and is no
token -/
def regexLiteral : Parser Expr := do
  let t ← token
  match readRegexBody? false (t.pos + 1) (t.source.drop 1) with
  | none =>
    let line := t.source.takeWhile fun c => !isLineEnd c
    replaceToken { t with
      kind := .bad t.start, stop := t.pos + line.length, rest := t.source.drop line.length }
    throw ⟨t.start⟩
  | some (pos, rest) =>
    let length ← do
      if rest.head?.any Text.isIdentifierStart then
        match readName rest with
        | some name => pure name.length
        | none => failAt t.start
      else pure 0
    moveTo (pos + length) (rest.drop length)
    return { span := ← spanFrom t.start, form := .other }

def templateLiteral (g : Grammar) (tagged : Bool) : Parser Unit :=
  bracketed (template tagged do
    let _ ← allowingIn (g _ .expression))

/-! ## Arrow functions and parentheses -/

/-- an item between parentheses: an expression, perhaps after dots, or surely a parameter -/
inductive ParenItem where
  | expr (spread : Bool) (e : Expr)
  | param (p : Param) (start : Nat)

def ParenItem.isParam : ParenItem → Bool
  | .param _ _ => true
  | .expr _ _ => false

/-- the items of parentheses read as parameters; dots before the last one are let pass -/
def paramsOf : List ParenItem → Parser (List Param)
  | [] => return []
  | [.expr true e] => do
    let _ ← paramOf e
    return [{ target := .pattern e.span, isRest := true }]
  | .expr true _ :: items => do
    pardon
    paramsOf items
  | .expr false e :: items => do
    let p ← paramOf e
    return p :: (← paramsOf items)
  | .param p _ :: items => do
    if p.isRest && !items.isEmpty then
      pardon
      paramsOf items
    else return p :: (← paramsOf items)

def arrowExpr (start : Nat) (params : List Param) (result : Option Annotation) (isAsync : Bool) :
    Parser Expr := do
  return {
    span := ← spanFrom start
    form := .arrow
    value := .function ⟨params, result.map (·.type), isAsync⟩ }

/-- an operand with the operators after it.  If the operand fails where an operator stands, that
operator is taken to lack its left side. -/
def binaryExpr (g : Grammar) : Parser Expr := do
  match ← outcome (g _ .unary) with
  | .ok e => if e.form = .arrow then return e else g _ (.binary e 0)
  | .error fault =>
    refuseBad
    if (binaryLevel? (← read).allowIn (← kind)).isSome then
      g _ (.binary { span := ⟨fault.pos, fault.pos⟩, form := .other } 0)
    else throw fault

/-- the branches of a conditional, from its question mark on -/
def conditionalTail (g : Grammar) (start : Nat) : Parser Expr := do
  expectPunct "?"
  let _ ← withReader (fun ctx =>
    { ctx with inConditional := true, awaitsColon := true, allowIn := true }) (g _ .assignment)
  expectPunct ":"
  let _ ← withReader (fun ctx =>
    { ctx with inConditional := true, awaitsColon := false }) (g _ .assignment)
  return { span := ← spanFrom start, form := .conditional }

/-- an expression between parentheses, before it is known whether it is a parameter -/
def parenExpr (g : Grammar) : Parser (Bool × Expr) := do
  if ← isReference then
    let e ← binaryExpr g
    return (false, ← assignmentTail g e)
  if ← isPunct "..." <&&> (return isReferenceKind (← peek).kind) then
    bump
    return (true, ← binaryExpr g)
  argument g

/-- an item between parentheses, and whether it is marked as optional -/
def parenItem (g : Grammar) : Parser ParenItem := do
  let start ← position
  modify fun s => { s with arrowStart := some start }
  let qualified ← skipAccess
  let patternStart ← position
  let (spread, e) ← parenExpr g
  let (optional, e) ← do
    if !(← isPunct "?") then pure (false, e)
    else
      let next := (← peek).kind
      if [",", "=", ")", ":"].any fun p => next == .punct p then
        bump
        match e.form with
        | .ident _ => pure (true, e)
        | _ => failAt patternStart
      else if spread then pure (false, e)
      else pure (false, ← conditionalTail g e.span.start)
  if optional || (← isPunct ":") then
    let p ← paramOf e
    let p := { p with optional := p.optional || optional }
    let isPlain := match e.form with
      | .ident _ | .object | .array => true
      | _ => spread
    let p ← do
      if isPlain then
        let ann ← annotation? g
        let p := { p with annotation := ann }
        if spread then
          let stop ← do
            match ann with
            | some a => pure a.start
            | none => pure (← spanFrom start).stop
          pure { p with target := .pattern ⟨patternStart, stop⟩, isRest := true, optional := false }
        else pure p
      else pure p
    let hasValue ← eatPunct "="
    if hasValue then
      let _ ← g _ .assignment
    if qualified then pardon
    let p := if hasValue then { p with optional := true, hasDefault := true } else p
    return .param p patternStart
  else
    if qualified then pardon
    return .expr spread e

def ParenItem.isName : ParenItem → Bool
  | .expr _ e => match e.form with
    | .ident _ => true
    | _ => false
  | .param p _ => match p.target with
    | .name _ => !p.hasDefault
    | .pattern _ => false

def parenItems (g : Grammar) : Parser (List ParenItem) := do
  expectPunct "("
  let items ← loop [] fun items => do
    if ← isPunct ")" then return .inr items.reverse
    let start ← position
    let item ← parenItem g
    let items := item :: items
    let items ← do
      if ← eatPunct "=>" then
        match items.getLast? with
        | some first =>
          if first.isName then
            let ps ← paramsOf items.reverse
            let _ ← arrowBody g false
            pure (.expr false (← arrowExpr start ps none false) :: items)
          else pure items
        | none => pure items
      else pure items
    unless ← isPunct ")" do expectPunct ","
    return .inl items
  expectPunct ")"
  return items

/-- an arrow function whose parameters have been read, from its result type on, where a colon could
also belong to a conditional -/
def arrowInConditional (g : Grammar) (start : Nat) (items : List ParenItem) (isAsync : Bool) :
    Parser (Option Expr) := do
  let awaitsColon := (← read).awaitsColon
  attempt do
    let result ← resultType g ":"
    expectPunct "=>"
    let ps ← paramsOf items
    let _ ← arrowBody g isAsync
    if awaitsColon then
      unless ← isPunct ":" do fail
    return some (← arrowExpr start ps (some result) isAsync)

/-- a result type that an arrow follows -/
def arrowResult? (g : Grammar) : Parser (Option Annotation) := do
  if (← read).awaitsColon then return none
  if !(← isPunct ":") then return none
  attempt do
    let result ← resultType g ":"
    unless ← isPunct "=>" do fail
    return some result

def parenthesized (start : Nat) (items : List ParenItem) : Parser Expr := do
  let exprs ← items.mapM fun
    | .expr spread e => pure (spread, e)
    | .param _ pos => failAt pos
  match exprs with
  | [] => failAt start
  | (_, first) :: rest =>
    match exprs.find? (·.1) with
    | some (_, e) => failAt e.span.start
    | none => return {
        span := ← spanFrom start
        form := .paren
        value := if rest.isEmpty then first.value else .other }

/-- an arrow function or an expression in parentheses; `start` is where it starts, with `async` -/
def parenOrArrow (g : Grammar) (start : Nat) (canBeArrow isAsync : Bool) : Parser Expr := do
  let items ← bracketed (allowingIn (parenItems g))
  if (← read).inConditional && (← isPunct ":") then
    if let some e ← arrowInConditional g start items isAsync then return e
  let result ← arrowResult? g
  if items.any (·.isParam) || result.isSome || (← isPunct "=>") then
    if (← newLine) || !canBeArrow then failAt start
    expectPunct "=>"
    let ps ← paramsOf items
    let isBlock ← arrowBody g isAsync
    let e ← arrowExpr start ps result isAsync
    if isBlock && (← atBinaryMark) then g _ (.binary e 0) else return e
  else if isAsync then
    for item in items do
      match item with
      | .param _ pos => failAt pos
      | .expr _ _ => pure ()
    return { span := ← spanFrom start, form := .call }
  else parenthesized start items

/-- an arrow function with type parameters, from them on, after `async` -/
def genericAsyncArrow (g : Grammar) (start : Nat) : Parser (Option Expr) := do
  let head ← attempt do
    typeParams g
    expectPunct "("
    let ps ← params g
    expectPunct ")"
    let result ← resultType? g
    expectPunct "=>"
    return some (ps, result)
  match head with
  | none => return none
  | some (ps, result) =>
    let _ ← arrowBody g true
    return some (← arrowExpr start ps result true)

/-- a name, and an arrow after it, if the name may be its parameter -/
def nameOrArrow (g : Grammar) (canBeArrow : Bool) : Parser Expr := do
  let start ← position
  let isAsync ← isWord "async"
  let name ← bindingName
  let e : Expr := { span := ← spanFrom start, form := .ident name }
  if !canBeArrow || (← newLine) then return e
  if isAsync && (← isReference) then
    if (← read).inForHead && (← isWord "of") && (← peek).kind != .punct "=>" then
      pardon
      return e
    let param ← bindingName
    if param == "as" && !(← isPunct "=>") then
      let _ ← g _ .type
      return { span := ← spanFrom start, form := .cast }
    expectPunct "=>"
    let _ ← arrowBody g true
    arrowExpr start [{ target := .name param }] none true
  else if ← eatPunct "=>" then
    let _ ← arrowBody g false
    arrowExpr start [{ target := .name name }] none false
  else return e

/-- what `async` starts, if it is no plain name -/
def asyncStart? (g : Grammar) (start : Nat) (canBeArrow : Bool) : Parser (Option Expr) := do
  let next ← peek
  if next.kind == .word "function" && !next.newLine then
    bump
    let (_, callable, hasBody) ← functionHead g true false
    unless hasBody do fail
    return some { span := ← spanFrom start, form := .other, value := .function callable }
  if !canBeArrow then return none
  if next.kind == .punct "<" then
    let arrow ← attempt do
      bump
      genericAsyncArrow g start
    if arrow.isSome then return arrow
  if next.kind == .punct "(" && !next.newLine then
    bump
    return some (← parenOrArrow g start canBeArrow true)
  return none

/-! ## Operands -/

/-- a name or class, behind decorators or without; decorators before a name are let pass -/
def plainOperand (g : Grammar) (canBeArrow : Bool) : Parser Expr := do
  let start ← position
  g _ .decorators
  if ← isWord "class" then
    g _ (.classTail false)
    return { span := ← spanFrom start, form := .other }
  if ← isReference <||> isWord "let" then return ← nameOrArrow g canBeArrow
  if ← isPunct "#" then
    privateName
    return { span := ← spanFrom start, form := .other }
  fail

def primary (g : Grammar) : Parser Expr := do
  let t ← token
  let canBeArrow := (← get).arrowStart == some t.start
  let plain : Parser Expr := do return { span := ← spanFrom t.start, form := .other }
  match t.kind with
  | .string | .number | .bigInt => do bump; plain
  | .word "this" | .word "null" | .word "true" | .word "false" => do bump; plain
  | .word "function" => do
    let (_, callable, hasBody) ← functionHead g false false
    unless hasBody do fail
    return { span := ← spanFrom t.start, form := .other, value := .function callable }
  | .word "async" =>
    if let some e ← asyncStart? g t.start canBeArrow then return e
    nameOrArrow g canBeArrow
  | .punct "[" => arrayLiteral g
  | .punct "\x7b" => objectLiteral g
  | .punct "(" => parenOrArrow g t.start canBeArrow false
  | .template _ _ => do
    templateLiteral g false
    plain
  | .punct "/" | .punct "/=" => regexLiteral
  | _ => plainOperand g canBeArrow

/-- whether what follows type arguments lets them stand for themselves -/
def followsTypeArguments : Parser Bool := do
  let k ← kind
  match k with
  | .punct "(" | .template _ _ => return true
  | .punct "<" | .punct ">" | .punct "+" | .punct "-" => return false
  | _ => return (← newLine) || (binaryLevel? true k).isSome || k == .word "as" ||
      k == .word "satisfies" || !opensExpression k

/-! ## Accesses and calls -/

/-- a call or template after type arguments, or the type arguments alone -/
def typedCall (g : Grammar) (noCall : Bool) (obj : Expr) : Parser (Option (Expr ⊕ Expr)) :=
  attempt do
    let start := obj.span.start
    if !noCall && obj.form == .ident "async" then
      if let some e ← genericAsyncArrow g start then return some (.inl e)
    valueTypeArguments g
    if !noCall && (← isPunct "(") then
      arguments g
      return some (.inl { span := ← spanFrom start, form := .call })
    else if ← atTemplate then
      templateLiteral g true
      return some (.inl { span := ← spanFrom start, form := .other })
    else if ← followsTypeArguments then
      return some (.inl { span := ← spanFrom start, form := .instantiation })
    else fail

def accessName : Parser Unit := do
  if ← isPunct "#" then privateName
  else
    let _ ← anyName

/-- the form of an access or call of an expression -/
def accessForm (obj : Expr) (optional : Bool) (form : Form) : Form :=
  if optional then .optionalChain
  else if form = .member && obj.form = .optionalChain then .chainMember
  else form

/-- one access or call after an expression, on the left if more may follow -/
def subscript (g : Grammar) (noCall noComputed : Bool) (obj : Expr) : Parser (Expr ⊕ Expr) := do
  let start := obj.span.start
  let isSuper := obj.form == .superWord
  if ← sameLine <&&> isPunct "!" then
    let mark ← position
    bump
    if isSuper then failAt mark
    return .inl { span := ← spanFrom start, form := .cast }
  if !isSuper && (← atTypeArguments) then
    if let some r ← typedCall g noCall obj then return r
  let optional ← eatPunct "?."
  let made (form : Form) : Parser (Expr ⊕ Expr) := do
    if isSuper && optional then failAt start
    return .inl { span := ← spanFrom start, form := accessForm obj optional form }
  if optional && (← atTypeArguments) then
    typeArguments g
    unless ← isPunct "(" do fail
  if (optional || !noComputed) && (← isPunct "[") then
    bump
    let _ ← allowingIn (g _ .expression)
    expectPunct "]"
    return ← made .member
  if (optional || !noCall) && (← isPunct "(") then
    arguments g
    return ← made .call
  if ← (return optional) <||> eatPunct "." then
    accessName
    return ← made .member
  if isSuper then fail
  if ← atTemplate then
    templateLiteral g true
    return .inl { span := ← spanFrom start, form := .other }
  return .inr obj

def subscripts (g : Grammar) (noCall noComputed : Bool) (obj : Expr) : Parser Expr :=
  loop obj (subscript g noCall noComputed)

/-- `import` in an expression, from the word on; unless it asks for `meta` it is called -/
def importExpr (g : Grammar) (noCall : Bool) : Parser Expr := do
  let start ← position
  expectWord "import"
  let isMeta ← do
    if ← eatPunct "." then
      match ← anyName with
      | "meta" => pure true
      | "defer" | "source" => pure false
      | _ => fail
    else pure false
  unless isMeta do arguments g
  subscripts g noCall false { span := ← spanFrom start, form := if isMeta then .other else .call }

/-- a member access or `new`, whose count of `new` words is bounded by `fuel` -/
def memberOrNew (g : Grammar) : Nat → Parser Expr
  | 0 => fail
  | fuel + 1 => do
    let start ← position
    if ← eatWord "new" then
      if ← eatPunct "." then
        unless ← eatWord "target" do fail
        return ← subscripts g true false { span := ← spanFrom start, form := .other }
      let callee ← memberOrNew g fuel
      if callee.form == .arrow then return callee
      if callee.form == .optionalChain || callee.form == .chainMember then failAt callee.span.start
      let _ ← do
        if ← atTypeArguments then
          attempt do
            valueTypeArguments g
            unless ← isPunct "(" do fail
            return some ()
        else pure none
      if ← isPunct "(" then
        arguments g
        subscripts g true false { span := ← spanFrom start, form := .other }
      else return { span := ← spanFrom start, form := .bareNew }
    else if ← isWord "super" then
      bump
      subscripts g true false { span := ← spanFrom start, form := .superWord }
    else if ← isWord "import" then importExpr g true
    else
      let obj ← primary g
      if obj.form == .arrow then return obj
      let typed ← do
        if ← isPunct "<" then
          attempt do
            valueTypeArguments g
            if ← followsTypeArguments then return some () else return none
        else pure none
      let obj ← do
        if typed.isSome then pure { span := ← spanFrom start, form := Form.instantiation }
        else pure obj
      subscripts g true false obj

/-- an operand with its accesses, but without calls of it -/
def access (g : Grammar) : Parser Expr := do memberOrNew g ((← read).size + 1)

/-- whether an element in angle brackets starts here -/
def atMarkup : Parser Bool := do
  if !(← read).markup || !(← isPunct "<") then return false
  let next ← peek
  return isNameKind next.kind || next.source.head? == some '>'

/-- an operand with its accesses and calls -/
def leftHandSide (g : Grammar) : Parser Expr := do
  let start ← position
  if ← atMarkup then
    bump
    if let some pos ← g _ .markup then failAt pos
    return { span := ← spanFrom start, form := .other }
  if ← isWord "super" then
    bump
    return ← subscripts g false false { span := ← spanFrom start, form := .superWord }
  if ← isWord "import" then return ← importExpr g false
  let callee ← access g
  if callee.form == .arrow then return callee
  let typed ← do
    if ← atTypeArguments then
      attempt do
        valueTypeArguments g
        if ← isPunct "(" then return some () else return none
    else pure none
  if callee.form == .bareNew then
    if typed.isSome then fail
    return callee
  if ← isPunct "(" then
    arguments g
    subscripts g false false { span := ← spanFrom start, form := .call }
  else
    if typed.isSome then fail
    return callee

/-- `await` with its operand, from the word on; outside of asynchronous functions it may stand alone -/
def awaitExpr (g : Grammar) : Parser Expr := do
  let start ← position
  expectWord "await"
  if ← isPunct "*" then fail
  if ← (return !(← read).inAsync) <&&> (isOneOf [")", "]", ","] <||> atSemicolon) then
    let span ← spanFrom start
    pardon
    return { span, form := .ident "await" }
  if (← read).inBody && !(← read).inAsync then pardon
  let e ← g _ .unary
  let name := match e.form with
    | .ident name => some name
    | _ => none
  return { span := ← spanFrom start, form := .awaiting name }

/-- a value after the type it is said to have, from the angle bracket on -/
def typeAssertion (g : Grammar) : Parser Expr := do
  let start ← position
  bump
  if ← eatWord "const" then
    expectAngle '>'
    let e ← g _ .unary
    return { span := ← spanFrom start, form := .other, value := e.value }
  else
    let _ ← g _ .type
    expectAngle '>'
    let _ ← g _ .unary
    return { span := ← spanFrom start, form := .cast }

/-- whether an expression tells a member of something -/
def isAccess : Form → Bool
  | .member | .chainMember | .optionalChain | .paren => true
  | _ => false

/-- an operand with the operators before and after it -/
def unary (g : Grammar) : Parser Expr := do
  let start ← position
  match ← kind with
  | .punct "<" => if (← read).markup then operand else typeAssertion g
  | .punct "++" | .punct "--" => do
    bump
    let e ← g _ .unary
    let span ← spanFrom start
    unless isAssignable e.form do pardon
    return { span, form := .update }
  | .word "delete" | .word "void" | .word "typeof" | .punct "+" | .punct "-" | .punct "~"
  | .punct "!" => do
    let isDelete ← isWord "delete"
    bump
    let argument ← position
    match ← outcome (g _ .unary) with
    | .ok e =>
      let span ← spanFrom start
      if isDelete && !isAccess e.form then pardon
      return { span, form := .unary }
    | .error _ =>
      pardon
      return { span := ⟨start, argument - 1⟩, form := .unary }
  | .word "await" => awaitExpr g
  | _ => operand
where
  operand : Parser Expr := do
    let start ← position
    let e ← leftHandSide g
    if e.form == .arrow || (← newLine) then return e
    if ← isOneOf ["++", "--"] then
      bump
      return { span := ← spanFrom start, form := .update }
    return e
/-! ## Operators between operands -/

/-- whether a word or mark stands before an operand, so that no power may be taken of it -/
def isPrefixed : Form → Bool
  | .unary | .awaiting _ => true
  | _ => false

/-- what follows a left operand, for operators that bind closer than `level` -/
def binary (g : Grammar) (left : Expr) (level : Nat) : Parser Expr :=
  loop left fun left => do
    let start := left.span.start
    if level < 7 && !(← newLine) && ((← isWord "as") || (← isWord "satisfies")) then
      let isAs ← isWord "as"
      bump
      if ← (return isAs) <&&> isWord "const" then
        bump
        return .inl { span := ← spanFrom start, form := .other, value := left.value }
      let _ ← g _ .type
      return .inl { span := ← spanFrom start, form := .cast, value := left.value }
    match binaryLevel? (← read).allowIn (← kind) with
    | none => return .inr left
    | some op =>
      if op ≤ level then return .inr left
      bump
      if op = 11 && isPrefixed left.form then fail
      let right ← g _ .unary
      let _ ← g _ (.binary right (if op = 11 then op - 1 else op))
      return .inl { span := ← spanFrom start, form := .binary }

/-- an operand with its operators, and the branches of a conditional after a question mark -/
def conditional (g : Grammar) : Parser Expr := do
  let start ← position
  let test ← binaryExpr g
  if test.form == .arrow then return test
  if ← isPunct "?" then conditionalTail g start else return test

/-- `yield` with its operand, from the word on -/
def yieldExpr (g : Grammar) : Parser Expr := do
  let start ← position
  expectWord "yield"
  if (← read).inParams then failAt start
  unless (← atSemicolon) || !opensYielded (← kind) do
    let _ ← eatPunct "*"
    let _ ← g _ .assignment
  return { span := ← spanFrom start, form := .other }

/-- an arrow function with type parameters, from them on -/
def genericArrow (g : Grammar) : Parser (Option Expr) := do
  let start ← position
  attempt do
    typeParams g
    let e ← g _ .assignment
    if e.form == .arrow then return some { e with span := ⟨start, e.span.stop⟩ } else fail

/-- whether an arrow function may start with a token -/
def opensArrow : Kind → Bool
  | .word name => isReferenceWord name || name == "yield"
  | .name _ => true
  | .punct p => p == "("
  | _ => false

/-- an expression without a comma that is no arrow function with type parameters -/
def plainAssignment (g : Grammar) : Parser Expr := do
  if (← read).inGenerator && (← isWord "yield") then return ← yieldExpr g
  refuseBad
  let t ← token
  modify fun s => { s with arrowStart := if opensArrow t.kind then some t.start else none }
  let e ← conditional g
  match e.form with
  | .arrow | .conditional | .binary | .unary | .update => return e
  | _ => assignmentTail g e

def assignment (g : Grammar) : Parser Expr := do
  if ← atMarkup then
    if let some e ← attempt (some <$> plainAssignment g) then return e
  if ← isPunct "<" then
    if let some e ← genericArrow g then return e
  plainAssignment g

def expression (g : Grammar) : Parser Expr := do
  let start ← position
  let first ← g _ .assignment
  loop first fun e => do
    if ← eatPunct "," then
      let _ ← g _ .assignment
      return .inl { span := ← spanFrom start, form := .other }
    else return .inr e

end ResolverTypes.Script.Grammar
