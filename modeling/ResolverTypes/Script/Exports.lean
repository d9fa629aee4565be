import ResolverTypes.File.Path
import ResolverTypes.Script.Error
import ResolverTypes.Script.Grammar

/-!
# What a script exports

The exported functions, and the exported objects that hold functions, with the types they are
annotated with.  Types, and parameters that are patterns, are known by their text.
-/

namespace ResolverTypes.Script
open Text

/-- a parameter; `optional` holds for a name with a question mark and for a default value -/
structure Parameter where
  name : String
  annotation : Option String
  optional : Bool
deriving DecidableEq, Repr

/-- an exported function, or a function of an exported object; `declaredType` is the type of the
variable that holds it -/
structure Function where
  name : String
  params : List Parameter
  returnAnnotation : Option String
  declaredType : Option String
  isAsync : Bool
  line : Nat
deriving DecidableEq, Repr

/-- whether the script itself tells the type of a function -/
def Function.isAnnotated (f : Function) : Bool := f.returnAnnotation.isSome || f.declaredType.isSome

/-- an exported object with at least one function -/
structure ResolverObject where
  name : String
  declaredType : Option String
  members : List Function
  line : Nat
deriving DecidableEq, Repr

structure Exports where
  functions : List Function
  objects : List ResolverObject
deriving DecidableEq, Repr

/-! ## Places in the text -/

/-- the line breaks of a text that end at or before `pos`, where the text starts at `i`.  A break at
the very end of the text opens no line. -/
def lineBreaks (pos : Nat) : (i : Nat) → List Char → Nat
  | _, [] => 0
  | i, '\r' :: '\n' :: cs => (if i + 2 ≤ pos ∧ cs ≠ [] then 1 else 0) + lineBreaks pos (i + 2) cs
  | i, c :: cs =>
    (if (c = '\n' ∨ c = '\r') ∧ i + 1 ≤ pos ∧ cs ≠ [] then 1 else 0) + lineBreaks pos (i + 1) cs

/-- the line of a position, counted from 1 -/
def lineOf (cs : List Char) (pos : Nat) : Nat := lineBreaks pos 0 cs + 1

def textBetween (cs : List Char) (start stop : Nat) : List Char := (cs.drop start).take (stop - start)

def typeText (cs : List Char) (span : Span) : String :=
  String.ofList (trim (textBetween cs span.start span.stop))

/-- a text without the marks of one kind at its end -/
def dropMarksEnd (mark : Char) (cs : List Char) : List Char :=
  (cs.reverse.dropWhile (· == mark)).reverse

/-- a text without quotes at either end -/
def dropQuotes (cs : List Char) : List Char :=
  let isQuote (c : Char) : Bool := c == '"' || c == '\''
  ((cs.dropWhile isQuote).reverse.dropWhile isQuote).reverse

/-! ## From the items of a script -/

/-- a parameter; a pattern is known by the text before its annotation -/
def Param.describe (cs : List Char) (p : Param) : Parameter where
  name := match p.target with
    | .name text => text
    | .pattern span =>
      let stop := (p.annotation.map (·.start)).getD span.stop
      let text := trimEnd (dropMarksEnd ':' (trim (textBetween cs span.start stop)))
      String.ofList (dropMarksEnd '?' text)
  annotation := p.annotation.map fun a => typeText cs a.type
  optional := p.optional

/-- the name of a member; the quotes of a string are left out -/
def Key.describe (cs : List Char) : Key → String
  | .name word _ => word
  | .string span _ => String.ofList (dropQuotes (textBetween cs span.start span.stop))
  | .text span => String.ofList (textBetween cs span.start span.stop)

def Callable.describe (cs : List Char) (name : String) (declaredType : Option String)
    (start : Nat) (f : Callable) : Function where
  name := name
  params := f.params.map (Param.describe cs)
  returnAnnotation := f.returnType.map (typeText cs)
  declaredType := declaredType
  isAsync := f.isAsync
  line := lineOf cs start

def Member.describe (cs : List Char) (m : Member) : Function :=
  m.callable.describe cs (m.key.describe cs) none m.key.start

/-- what a variable exports: a function, an object with functions, or nothing -/
def Declarator.describe (cs : List Char) (d : Declarator) : Exports :=
  match d.param.target, d.init with
  | .name name, some value =>
    let declaredType := d.param.annotation.map fun a => typeText cs a.type
    match value with
    | .function f => ⟨[f.describe cs name declaredType d.start], []⟩
    | .object [] => ⟨[], []⟩
    | .object members =>
      ⟨[], [⟨name, declaredType, members.map (Member.describe cs), lineOf cs d.start⟩]⟩
    | .other => ⟨[], []⟩
  | _, _ => ⟨[], []⟩

def Item.describe (cs : List Char) : Item → Exports
  | .function name start f => ⟨[f.describe cs name none start], []⟩
  | .declaration ds =>
    let es := ds.map (Declarator.describe cs)
    ⟨es.flatMap (·.functions), es.flatMap (·.objects)⟩
  | .other => ⟨[], []⟩

/-- reads the exports of a script; `markup` says whether elements in angle brackets are expressions.
A byte order mark at the start is no part of the text. -/
def Exports.read (markup : Bool) (text : String) : Except Error Exports :=
  let cs := match text.toList with
    | '\ufeff' :: cs => cs
    | cs => cs
  match items markup cs with
  | .error fault => .error ⟨lineOf cs fault.pos⟩
  | .ok items =>
    let es := items.map (Item.describe cs)
    .ok ⟨es.flatMap (·.functions), es.flatMap (·.objects)⟩

/-- whether elements in angle brackets are expressions in a file, by its extension -/
def hasMarkup (path : Path) : Bool :=
  path.extension? == some "tsx" || path.extension? == some "jsx"

def Exports.ofFile (path : Path) (text : String) : Except Error Exports :=
  Exports.read (hasMarkup path) text

end ResolverTypes.Script
