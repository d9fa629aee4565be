import ResolverTypes.Script.Grammar.Statement

/-!
# Imports and exports
-/

namespace ResolverTypes.Script.Grammar
open Script.Parser

/-- a name across modules: a word or a string -/
def moduleName : Parser (Option String) := do
  match ← kind with
  | .string => do bump; return none
  | _ => return some (← anyName)

def importAttributes (g : Grammar) : Parser Unit := do
  if ← sameLine <&&> (eatWord "with" <||> eatWord "assert") then
    let _ ← objectLiteral g

/-- `from` with the module, up to the end of the statement -/
def fromClause (g : Grammar) : Parser Unit := do
  expectWord "from"
  unless (← kind) == .string do fail
  bump
  importAttributes g
  expectSemicolon

/-- `import a = b.c` or `import a = require("m")`, from the sign on -/
def importEquals : Parser Unit := do
  expectPunct "="
  if (← isWord "require") && (← peek).kind == .punct "(" then
    bump
    bump
    unless (← kind) == .string do fail
    bump
    expectPunct ")"
  else entityName
  expectSemicolon

/-- the rest of a specifier that starts with `type as`, where each word may be a name or mean itself -/
def afterTypeAs (name : Parser String) : Parser Unit := do
  if !(← isName) then return
  let third ← name
  if ← (return third == "as") <&&> isName then
    let _ ← name

/-- a string that names something of another module, which is bound to a name here -/
def importedString : Parser Unit := do
  let start ← position
  bump
  unless ← eatWord "as" do failAt start
  let _ ← bindingName

/-- a name in the braces of an import; one that cannot be bound is let pass -/
def importSpecifier : Parser Unit := do
  if (← kind) == .string then return ← importedString
  let name ← anyName
  if name == "type" then
    if (← kind) == .string then return ← importedString
    if ← isName then
      let second ← anyName
      if second == "as" then return ← afterTypeAs bindingName
  if ← eatWord "as" then
    let _ ← bindingName

/-- a name in the braces of an export -/
def exportSpecifier : Parser Unit := do
  let name ← moduleName
  if ← (return name == some "type") <&&> (isName <||> (return (← kind) == .string)) then
    let second ← moduleName
    if second == some "as" then return ← afterTypeAs anyName
  if ← eatWord "as" then
    let _ ← moduleName

def specifiers (specifier : Parser Unit) : Parser Unit := do
  expectPunct "\x7b"
  let _ ← commaList (isPunct "\x7d") specifier
  expectPunct "\x7d"

/-- the default name of an import: whether it is there, and whether the import is one with `=` -/
def importDefault : Parser (Bool × Bool) := do
  if !(← isReference) then return (false, false)
  let first ← bindingName
  let name ← do
    if first == "type" then
      if ← isOneOf ["\x7b", "*"] then return (false, false)
      if ← isReference then
        let next := (← peek).kind
        if !(← isWord "from") || next == .word "from" then pure (← bindingName)
        else if next == .punct "=" then pure (← anyName)
        else pure first
      else pure first
    else pure first
  if ← isPunct "=" then return (true, true)
  if name == "source" || name == "defer" then
    if ← (return name == "defer") <&&> isPunct "*" then return (false, false)
    if ((← isReference) && !(← isWord "from")) || (← peek).kind == .word "from" then
      let _ ← bindingName
  return (true, false)

def importDeclaration (g : Grammar) : Parser Unit := do
  expectWord "import"
  if (← kind) == .string then
    bump
    importAttributes g
    let _ ← eatSemicolon
    return
  let (hasDefault, isEquals) ← importDefault
  if isEquals then return ← importEquals
  if ← (return !hasDefault) <||> eatPunct "," then
    if ← eatPunct "*" then
      expectWord "as"
      let _ ← bindingName
    else if ← isPunct "\x7b" then specifiers importSpecifier
  fromClause g

/-! ## Exports -/

/-- decorators after `export`, where none may stand if some came before it -/
def exportDecorators (g : Grammar) (decorated : Bool) : Parser Unit := do
  if ← isPunct "@" then
    if decorated then fail
    g _ .decorators

def exportDefault (g : Grammar) (decorated : Bool) : Parser Unit := do
  exportDecorators g decorated
  let next ← peek
  if (← isWord "abstract") && next.kind == .word "class" && !next.newLine then
    bump
    return ← g _ (.classTail false)
  if (← isWord "abstract") && next.kind == .word "interface" then bump
  if ← eatWord "interface" then return ← interfaceTail g
  if ← isWord "class" then return ← g _ (.classTail false)
  if (← isWord "async") && next.kind == .word "function" && !next.newLine then
    bump
    let _ ← functionHead g true false
    return
  if ← isWord "function" then
    let _ ← functionHead g false false
    return
  let _ ← allowingIn (g _ .assignment)
  expectSemicolon

def exportNames (g : Grammar) : Parser Unit := do
  if ← eatPunct "*" then
    if ← eatWord "as" then
      let _ ← moduleName
    return ← fromClause g
  specifiers exportSpecifier
  if ← isWord "from" then fromClause g
  else
    let _ ← eatSemicolon

/-- a declaration that starts with a word of its own and is exported -/
def exportedType? (g : Grammar) : Parser Bool := do
  match ← word? with
  | some word =>
    let found ← attempt do
      if ← typeDeclaration? g word true then return some () else return none
    return found.isSome
  | none => return false

/-- an exported function; `start` is where the export stands -/
def exportedFunction (g : Grammar) (start : Nat) (isAsync : Bool) : Parser Item := do
  let (name, callable, _) ← functionHead g isAsync true
  return .function (name.getD "") start callable

/-- an export; `decorated` says whether decorators stand before it -/
def exportDeclaration (g : Grammar) (decorated : Bool) : Parser Item := do
  let start ← position
  expectWord "export"
  if ← isEnd then fail
  if ← eatWord "declare" then
    if let some item ← ambientItem? g start then return item
  if ← exportedType? g then return .other
  if ← eatWord "import" then
    if ← isWord "type" <&&> (return isNameKind (← peek).kind) then bump
    let _ ← anyName
    importEquals
    return .other
  if ← eatPunct "=" then
    let _ ← g _ .expression
    expectSemicolon
    return .other
  if ← eatWord "as" then
    expectWord "namespace"
    let _ ← bindingName
    expectSemicolon
    return .other
  if ← eatWord "type" then
    exportNames g
    return .other
  if ← eatWord "default" then
    exportDefault g decorated
    return .other
  exportDecorators g decorated
  let next ← peek
  match ← word? with
  | some "class" => do
    g _ (.classTail true)
    return .other
  | some "async" =>
    if next.kind == .word "function" && !next.newLine then
      bump
      exportedFunction g start true
    else fail
  | some "function" => exportedFunction g start false
  | some "const" =>
    if next.kind == .word "enum" then
      bump
      bump
      enumTail g
      return .other
    else return .declaration (← declarators g false)
  | some "var" => return .declaration (← declarators g false)
  | some "let" => if ← letDeclares then return .declaration (← declarators g false) else fail
  | _ => do
    exportNames g
    return .other

def item (g : Grammar) : Parser Item := do
  let decorated ← isPunct "@"
  g _ .decorators
  if ← importStatement? g then return .other
  if ← isWord "import" then
    importDeclaration g
    return .other
  if ← isWord "export" then return ← bracketed (exportDeclaration g decorated)
  bracketed (statementBody g true)
  return .other

end ResolverTypes.Script.Grammar
