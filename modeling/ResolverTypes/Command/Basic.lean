import ResolverTypes.Config.Basic

/-!
# Commands

What a command line asks for: to generate the declarations of a project, to print its facts, or to
tell about the command line itself.
-/

namespace ResolverTypes.Command

/-- the name under which the tool is called -/
def toolName : String := "sdlcodegen"

def version : String := "0.0.1"

/-- the configuration that is read from the working directory if no other one is named -/
def configFile : Path := ⟨toolName ++ ".toml"⟩

/-- the environment variable that may name a configuration -/
def configVariable : String := "SDLCODEGEN_CONFIG"

/-- which facts are printed -/
inductive Selection where
  | all
  | fieldFacts
  | codeFacts
deriving DecidableEq, Repr

inductive Action where
  | generate (dryRun : Bool)
  | facts (selection : Selection)
deriving DecidableEq, Repr

structure Overrides where
  base : Option Path := none
  services : Option Path := none
  dbSchema : Option Path := none
  graphqlSchema : Option Path := none
  types : Option Path := none
deriving DecidableEq, Repr

structure Invocation where
  config : Option Path
  overrides : Overrides
  action : Action
deriving DecidableEq, Repr

/-- a place on the command line: before the action's name, or after it -/
inductive Level where
  | top
  | generate
  | facts
deriving DecidableEq, Repr

/-- what a command line asks for -/
inductive Request where
  | run (invocation : Invocation)
  | help (level : Level)
  | version
deriving DecidableEq, Repr

/-- the paths with those of the command line in the place of theirs -/
def Overrides.apply (o : Overrides) (c : PathsConfig) : PathsConfig :=
  { base := o.base.getD c.base
    services := o.services.getD c.services
    dbSchema := o.dbSchema.getD c.dbSchema
    graphqlSchema := o.graphqlSchema.getD c.graphqlSchema
    types := o.types.getD c.types }

end ResolverTypes.Command
