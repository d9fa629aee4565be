import ResolverTypes.File.Path
import ResolverTypes.Table
import ResolverTypes.Text.Blank

/-!
# Configuration

Where a project keeps its inputs, where the artifacts go, and which types stand for custom scalars.
Paths default to the layout of a Redwood project; all but the base are relative to it unless they
are absolute.
-/

namespace ResolverTypes

/-- where inputs are read and artifacts are written -/
structure PathSettings where
  root : Path
  services : Path
  dataModel : Path
  graphqlSchema : Path
  types : Path
  schemaTypesFile : String
  returnTypesFile : String
deriving DecidableEq, Repr

namespace PathSettings

def schemaTypesPath (s : PathSettings) : Path := s.types.join ⟨s.schemaTypesFile⟩

def returnTypesPath (s : PathSettings) : Path := s.types.join ⟨s.returnTypesFile⟩

/-- a path as it is shown: relative to the root if it lies below it -/
def display (s : PathSettings) (p : Path) : Path := (p.relativeTo? s.root).getD p

end PathSettings

structure PathsConfig where
  base : Path := ⟨"."⟩
  services : Path := ⟨"api/src/services"⟩
  dbSchema : Path := ⟨"api/db/schema.prisma"⟩
  graphqlSchema : Path := ⟨".redwood/schema.graphql"⟩
  types : Path := ⟨"api/types/graphql"⟩
deriving DecidableEq, Repr

/-- a configuration: paths, and the type texts of custom scalars -/
structure Config where
  paths : PathsConfig := {}
  scalars : Table String := .empty
deriving Repr

structure Layout where
  base : Path
  services : Path
  dataModel : Path
  graphqlSchema : Path
  types : Path
deriving DecidableEq, Repr

/-- the settings of a layout: what is shown is relative to its base, and the shared artifacts have
fixed names -/
def Layout.settings (l : Layout) : PathSettings :=
  { root := l.base
    services := l.services
    dataModel := l.dataModel
    graphqlSchema := l.graphqlSchema
    types := l.types
    schemaTypesFile := "shared-schema-types.d.ts"
    returnTypesFile := "shared-return-types.d.ts" }

namespace PathsConfig

/-- the layout, with every path resolved against the base -/
def layout (c : PathsConfig) : Layout :=
  { base := c.base
    services := c.base.join c.services
    dataModel := c.base.join c.dbSchema
    graphqlSchema := c.base.join c.graphqlSchema
    types := c.base.join c.types }

def settings (c : PathsConfig) : PathSettings := c.layout.settings

/-- the paths with the keys under which they are configured -/
def keyed (c : PathsConfig) : List (String × Path) :=
  [("paths.base", c.base), ("paths.services", c.services), ("paths.db_schema", c.dbSchema),
    ("paths.graphql_schema", c.graphqlSchema), ("paths.types", c.types)]

end PathsConfig

namespace Config

inductive Problem where
  | emptyPath (key : String)
  | blankScalar (name : String)
deriving DecidableEq, Repr

def Problem.message : Problem → String
  | .emptyPath key => key ++ " must not be empty"
  | .blankScalar name => "scalars." ++ name ++ " must map to a TypeScript type"

/-- the first problem of a configuration, if it has one -/
def problem? (c : Config) : Option Problem :=
  let emptyPath := c.paths.keyed.findSome? fun (key, path) =>
    if path.text.isEmpty then some (Problem.emptyPath key) else none
  let blankScalar := c.scalars.entries.findSome? fun (name, text) =>
    if (Text.trim text.toList).isEmpty then some (Problem.blankScalar name) else none
  emptyPath <|> blankScalar

end Config

def Layout.ofBase (base : Path) : Layout := PathsConfig.layout { base }

def PathSettings.ofBase (base : Path) : PathSettings := (Layout.ofBase base).settings

end ResolverTypes
