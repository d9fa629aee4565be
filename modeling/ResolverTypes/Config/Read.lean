import ResolverTypes.Config.Basic
import ResolverTypes.Config.Tree.Document
import ResolverTypes.Run.Error

/-!
# Reading a configuration

Keys that are not known are let pass.  The scalars are kept in the order of their names.
-/

namespace ResolverTypes.Config

/-- a text where one is needed -/
def stringOf? : Tree → Option String
  | .string text => some text
  | _ => none

/-- a path setting: the one given, or the default one -/
def pathOr (given : Option Tree) (default : Path) : Option Path :=
  match given with
  | none => some default
  | some v => (stringOf? v).map Path.mk

def pathsFrom (given : String → Option Tree) : Option PathsConfig := do
  let d : PathsConfig := {}
  return {
    base := ← pathOr (given "base") d.base
    services := ← pathOr (given "services") d.services
    dbSchema := ← pathOr (given "db_schema") d.dbSchema
    graphqlSchema := ← pathOr (given "graphql_schema") d.graphqlSchema
    types := ← pathOr (given "types") d.types }

def pathNames : List String := ["base", "services", "db_schema", "graphql_schema", "types"]

/-- the paths of a value: a table by name, a list by place; a date has none of them -/
def pathsOf? : Tree → Option PathsConfig
  | .table _ entries => pathsFrom (Entries.get? entries)
  | .array items => pathsFrom (Entries.get? (pathNames.zip items))
  | .tables items => pathsFrom (Entries.get? (pathNames.zip (items.map (Tree.table .header))))
  | .date _ => some {}
  | .string _ | .number | .boolean => none

/-- the key under which a date stands if it is read as a table -/
def dateKey : String := "$__toml_private_datetime"

/-- the scalars of a value, in the order of their names -/
def scalarsOf? : Tree → Option (Table String)
  | .table _ entries => do
    let pairs ← entries.mapM fun (key, v) => (stringOf? v).map (key, ·)
    return .ofList (pairs.mergeSort fun a b => !(b.1 < a.1))
  | .date text => some (.ofList [(dateKey, text)])
  | _ => none

def ofEntries? (es : Entries) : Option Config := do
  let paths ← match Entries.get? es "paths" with
    | none => some {}
    | some v => pathsOf? v
  let scalars ← match Entries.get? es "scalars" with
    | none => some .empty
    | some v => scalarsOf? v
  return { paths, scalars }

def ofText (text : String) : Except RunError Config :=
  match (Tree.parse? text).bind ofEntries? with
  | some c => .ok c
  | none => .error (.configuration "the text is no valid configuration")

end ResolverTypes.Config
