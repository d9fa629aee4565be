/-!
# What is kept of a script

Reading a script checks all of it, but only the parts that tell about exported functions are kept:
names, parameters, type annotations, and where they stand in the text.
-/

namespace ResolverTypes.Script

/-- a stretch of the text, from `start` up to but not including `stop` -/
structure Span where
  start : Nat
  stop : Nat
deriving DecidableEq, Repr

/-- a type annotation: where it starts, with its colon, and where its type stands -/
structure Annotation where
  start : Nat
  type : Span
deriving DecidableEq, Repr

/-- what a parameter or variable binds: a name, or a pattern known by its text -/
inductive Target where
  | name (text : String)
  | pattern (span : Span)
deriving DecidableEq, Repr

/-- a parameter; `optional` holds for a name with a question mark and for a default value -/
structure Param where
  target : Target
  annotation : Option Annotation := none
  optional : Bool := false
  hasDefault : Bool := false
  isRest : Bool := false
deriving DecidableEq, Repr

structure Callable where
  params : List Param
  returnType : Option Span
  isAsync : Bool
deriving DecidableEq, Repr

/-- the key of an object member; `content` is what a string has between its quotes, and a computed or
numeric key is `text` -/
inductive Key where
  | name (text : String) (start : Nat)
  | string (span : Span) (content : String)
  | text (span : Span)
deriving DecidableEq, Repr

def Key.start : Key → Nat
  | .name _ start => start
  | .string span _ | .text span => span.start

def Key.word? : Key → Option String
  | .name word _ => some word
  | _ => none

/-- an object member that is a function -/
structure Member where
  key : Key
  callable : Callable
deriving DecidableEq, Repr

/-- what an expression is worth, seen through parentheses and type assertions -/
inductive Value where
  | function (callable : Callable)
  | object (members : List Member)
  | other
deriving DecidableEq, Repr

/-- the forms of expression that decide how the text after them is read -/
inductive Form where
  | ident (name : String)
  | arrow
  | assignment (target : Param)
  | object
  | array
  | paren
  | member
  /-- an access or call after `?.` -/
  | optionalChain
  /-- a member of what such an access gives -/
  | chainMember
  | call
  /-- a `new` without arguments -/
  | bareNew
  /-- a value with a type asserted -/
  | cast
  /-- a value with type arguments -/
  | instantiation
  | unary
  | update
  /-- `await` with its operand, which may be a plain name -/
  | awaiting (name : Option String)
  | binary
  | conditional
  | superWord
  | importWord
  | other
deriving DecidableEq, Repr

/-- an expression; `patternFault` is where reading it as a pattern goes wrong -/
structure Expr where
  span : Span
  form : Form
  value : Value := .other
  patternFault : Option Nat := none
deriving DecidableEq, Repr

/-- a variable with its initial value, if it has one -/
structure Declarator where
  param : Param
  start : Nat
  init : Option Value
deriving DecidableEq, Repr

/-- what an item of a script exports, as far as it is kept -/
inductive Item where
  /-- an exported function; `start` is where the export stands -/
  | function (name : String) (start : Nat) (callable : Callable)
  | declaration (declarators : List Declarator)
  | other
deriving DecidableEq, Repr

end ResolverTypes.Script
