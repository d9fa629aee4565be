import ResolverTypes.Command.Basic

/-!
# Command lines

Options with a value are written `--name value` or `--name=value`, those with a short name also
`-n value`, `-nvalue` or `-n=value`.  The options of the top level may stand before or after the
action's name; where one stands in both places, the later one counts.
-/

namespace ResolverTypes.Command

/-! ## Options -/

/-- an option with a value -/
inductive Setting where
  | config
  | base
  | logLevel
  | services
  | dbSchema
  | graphqlSchema
  | types
deriving DecidableEq, Repr

/-- an option without a value -/
inductive Switch where
  | dryRun
  | fieldFacts
  | codeFacts
  | help
  | version
deriving DecidableEq, Repr

namespace Setting

def name : Setting → String
  | .config => "config"
  | .base => "base"
  | .logLevel => "log-level"
  | .services => "services"
  | .dbSchema => "db-schema"
  | .graphqlSchema => "graphql-schema"
  | .types => "types"

def short? : Setting → Option Char
  | .config => some 'c'
  | .base => some 'b'
  | _ => none

/-- whether the value is a path, which must not be empty -/
def isPath (s : Setting) : Bool := s != .logLevel

end Setting

namespace Switch

def name : Switch → String
  | .dryRun => "dry-run"
  | .fieldFacts => "field-facts"
  | .codeFacts => "code-facts"
  | .help => "help"
  | .version => "version"

def short? : Switch → Option Char
  | .help => some 'h'
  | .version => some 'V'
  | _ => none

end Switch

namespace Level

def settings : Level → List Setting
  | .top => [.config, .base, .logLevel]
  | .generate | .facts =>
    [.services, .dbSchema, .graphqlSchema, .types, .config, .base, .logLevel]

def switches : Level → List Switch
  | .top => [.help, .version]
  | .generate => [.dryRun, .help]
  | .facts => [.fieldFacts, .codeFacts, .help]

def ofName? : String → Option Level
  | "generate" => some .generate
  | "facts" => some .facts
  | _ => none

end Level

/-! ## What is wrong with a command line -/

inductive UsageError where
  | unexpected (argument : String)
  | missingValue (setting : Setting)
  | emptyValue (setting : Setting)
  | unneededValue (switch : Switch)
  | repeated (name : String)
  | exclusive (first second : Switch)
  | missingAction
deriving DecidableEq, Repr

def UsageError.message : UsageError → String
  | .unexpected argument => "unexpected argument '" ++ argument ++ "' found"
  | .missingValue s => "a value is required for '--" ++ s.name ++ "' but none was supplied"
  | .emptyValue s => "a value is required for '--" ++ s.name ++ "' but it is empty"
  | .unneededValue s => "the argument '--" ++ s.name ++ "' takes no value"
  | .repeated name => "the argument '--" ++ name ++ "' cannot be used multiple times"
  | .exclusive a b => "the argument '--" ++ a.name ++ "' cannot be used with '--" ++ b.name ++ "'"
  | .missingAction => "'" ++ toolName ++ "' requires a subcommand but one was not provided"

/-! ## Arguments -/

/-- what an argument looks like -/
inductive Word where
  /-- two dashes, after which no option stands -/
  | escape
  | long (name : String) (value : Option String)
  | short (body : List Char)
  | plain (text : String)
deriving DecidableEq, Repr

/-- the text before and the text after the first equals sign -/
def cutEquals (cs : List Char) : String × Option String :=
  let name := cs.takeWhile (· != '=')
  match cs.drop name.length with
  | _ :: value => (String.ofList name, some (String.ofList value))
  | [] => (String.ofList name, none)

def Word.of (argument : String) : Word :=
  match argument.toList with
  | ['-', '-'] => .escape
  | '-' :: '-' :: cs => .long (cutEquals cs).1 (cutEquals cs).2
  | '-' :: c :: cs => .short (c :: cs)
  | _ => .plain argument

/-- what is given at one level -/
structure Given where
  settings : List (Setting × String) := []
  switches : List Switch := []
deriving DecidableEq, Repr

namespace Given

def value? (g : Given) (s : Setting) : Option String :=
  (g.settings.find? fun p => p.1 == s).map Prod.snd

def has (g : Given) (s : Switch) : Bool := g.switches.contains s

def addSetting (g : Given) (s : Setting) (value : String) : Except UsageError Given :=
  if (g.value? s).isSome then .error (.repeated s.name)
  else if s.isPath && value.isEmpty then .error (.emptyValue s)
  else .ok { g with settings := g.settings ++ [(s, value)] }

def addSwitch (g : Given) (s : Switch) : Except UsageError Given :=
  if g.has s then .error (.repeated s.name) else .ok { g with switches := g.switches ++ [s] }

end Given

/-- an option as it is met on a command line -/
inductive Met where
  | setting (s : Setting) (value : Option String)
  | switch (s : Switch)
deriving DecidableEq, Repr

/-- the option of an argument that starts with a dash.  Only help and version are switches with a
short name, so nothing is looked at behind them. -/
def meet (level : Level) (argument : String) : Word → Except UsageError Met
  | .long name value =>
    match level.settings.find? fun s => s.name == name with
    | some s => .ok (.setting s value)
    | none =>
      match level.switches.find? fun s => s.name == name with
      | some s => if value.isSome then .error (.unneededValue s) else .ok (.switch s)
      | none => .error (.unexpected argument)
  | .short (c :: cs) =>
    match level.settings.find? fun s => s.short? == some c with
    | some s =>
      .ok (.setting s (match cs with
        | [] => none
        | '=' :: value => some (String.ofList value)
        | value => some (String.ofList value)))
    | none =>
      match level.switches.find? fun s => s.short? == some c with
      | some s => .ok (.switch s)
      | none => .error (.unexpected argument)
  | _ => .error (.unexpected argument)

/-- how the arguments of a level end -/
inductive Ending where
  | done
  | action (level : Level) (rest : List String)
  | help (level : Level)
  | version
deriving DecidableEq, Repr

/-- the page that is asked for by the arguments after the word `help` -/
def helpPage : List String → Except UsageError Ending
  | [] => .ok (.help .top)
  | name :: rest =>
    match Level.ofName? name, rest with
    | some level, [] => .ok (.help level)
    | some _, next :: _ => .error (.unexpected next)
    | none, _ => if name == "help" then .ok (.help .top) else .error (.unexpected name)

/-- reads the arguments of a level, up to the action's name at the top -/
def scan (level : Level) : Given → List String → Except UsageError (Given × Ending)
  | g, [] => .ok (g, .done)
  | g, argument :: rest =>
    match Word.of argument with
    | .escape =>
      match rest with
      | [] => .ok (g, .done)
      | next :: _ => .error (.unexpected next)
    | .plain text =>
      if level != .top then .error (.unexpected text)
      else if text == "help" then (helpPage rest).map fun ending => (g, ending)
      else
        match Level.ofName? text with
        | some action => .ok (g, .action action rest)
        | none => .error (.unexpected text)
    | word =>
      match meet level argument word with
      | .error e => .error e
      | .ok (.switch .help) => .ok (g, .help level)
      | .ok (.switch .version) => .ok (g, .version)
      | .ok (.switch s) => do scan level (← g.addSwitch s) rest
      | .ok (.setting s (some value)) => do scan level (← g.addSetting s value) rest
      | .ok (.setting s none) =>
        match rest with
        | [] => .error (.missingValue s)
        | value :: rest =>
          match Word.of value with
          | .plain text => do scan level (← g.addSetting s text) rest
          | _ => .error (.missingValue s)

/-! ## Requests -/

/-- the configuration that is named: after the action, before it, or in the environment.  A variable
that is set but empty is refused wherever it is looked at. -/
def namedConfig (environment : Option String) (before after : Given) :
    Except UsageError (Option Path) :=
  match after.value? .config, before.value? .config, environment with
  | some path, some _, _ => .ok (some ⟨path⟩)
  | after, before, some path =>
    if path.isEmpty then .error (.emptyValue .config)
    else .ok (some ⟨(after <|> before).getD path⟩)
  | after, before, none => .ok ((after <|> before).map Path.mk)

def actionOf (level : Level) (g : Given) : Except UsageError Action :=
  match level with
  | .top => .error .missingAction
  | .generate => .ok (.generate (g.has .dryRun))
  | .facts =>
    if g.has .fieldFacts && g.has .codeFacts then .error (.exclusive .fieldFacts .codeFacts)
    else if g.has .fieldFacts then .ok (.facts .fieldFacts)
    else if g.has .codeFacts then .ok (.facts .codeFacts)
    else .ok (.facts .all)

/-- reads a command line, with the value of the variable that may name a configuration -/
def Request.ofArguments (environment : Option String) (arguments : List String) :
    Except UsageError Request := do
  match ← scan .top {} arguments with
  | (_, .done) => throw .missingAction
  | (_, .help level) => return .help level
  | (_, .version) => return .version
  | (before, .action level rest) =>
    match ← scan level {} rest with
    | (_, .help level) => return .help level
    | (_, .version) => return .version
    | (after, _) =>
      let path? (s : Setting) : Option Path := (after.value? s).map Path.mk
      let overrides : Overrides :=
        { base := path? .base <|> (before.value? .base).map Path.mk
          services := path? .services
          dbSchema := path? .dbSchema
          graphqlSchema := path? .graphqlSchema
          types := path? .types }
      let config ← namedConfig environment before after
      return .run { config, overrides, action := ← actionOf level after }

end ResolverTypes.Command
