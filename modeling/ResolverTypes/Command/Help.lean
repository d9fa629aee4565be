import ResolverTypes.Command.Basic

/-!
# Help pages
-/

namespace ResolverTypes.Command

abbrev Line := String × String

/-- lines in two columns, the second as far left as the longest term allows -/
def columns (lines : List Line) : String :=
  let width := lines.foldl (fun w l => max w l.1.length) 0
  String.join (lines.map fun (term, meaning) =>
    "  " ++ term ++ String.ofList (List.replicate (width - term.length) ' ') ++ "  " ++ meaning ++ "\n")

def configLine : Line :=
  ("-c, --config <CONFIG>",
    "Path to " ++ configFile.text ++ " (defaults to ./" ++ configFile.text ++ " when present) [env: " ++
      configVariable ++ "=]")

def baseLine : Line := ("-b, --base <BASE>", "Project root (overrides paths.base)")

def logLevelLine : Line :=
  ("    --log-level <LOG_LEVEL>", "Log level used when RUST_LOG is not set [default: warn]")

def helpLine : Line := ("-h, --help", "Print help")

def pathLines : List Line :=
  [("    --services <SERVICES>", "Service sources directory"),
    ("    --db-schema <DB_SCHEMA>", "Prisma schema file"),
    ("    --graphql-schema <GRAPHQL_SCHEMA>", "GraphQL SDL file"),
    ("    --types <TYPES>", "Output directory for declaration files")]

def generateAbout : String := "Write shared and per-service declaration files"

def factsAbout : String := "Run codegen without writing and print the collected facts as JSON"

/-- a page: what it is about, how the tool is called, and its options -/
def page (about usage commands : String) (options : List Line) : String :=
  about ++ "\n\nUsage: " ++ toolName ++ " " ++ usage ++ "\n\n" ++ commands ++ "Options:\n" ++
    columns options

def Level.help : Level → String
  | .top =>
    page "Generate TypeScript resolver declarations from GraphQL and Prisma schemas"
      "[OPTIONS] <COMMAND>"
      ("Commands:\n" ++ columns [("generate", generateAbout), ("facts", factsAbout),
        ("help", "Print this message or the help of the given subcommand(s)")] ++ "\n")
      [configLine, baseLine, logLevelLine, helpLine, ("-V, --version", "Print version")]
  | .generate =>
    page generateAbout "generate [OPTIONS]" ""
      ([configLine] ++ pathLines ++
        [("    --dry-run", "Report what would be written without touching the disk"), baseLine,
          logLevelLine, helpLine])
  | .facts =>
    page factsAbout "facts [OPTIONS]" ""
      ([configLine] ++ pathLines ++
        [("    --field-facts", "Print only the field facts"),
          ("    --code-facts", "Print only the code facts"), baseLine, logLevelLine, helpLine])

end ResolverTypes.Command
