import EntitySearch.CommandLine.Run

/-!
# The program

`main` reads the files that an invocation names, runs it, and writes its output, its reports and its
failure.
-/
set_option autoImplicit false
namespace EntitySearch.CommandLine

def fileText? (name : String) : IO (Option String) := do
  try
    return some (← IO.FS.readFile name)
  catch _ =>
    return none

def Invocation.fileNames (invocation : Invocation) : List String :=
  let dataset := match invocation.command with
    | .search arguments => arguments.dataset
    | .describe dataset => dataset
  invocation.options.config?.toList ++ [dataset]

def usageText : String := String.intercalate "\n" [
  "Scoped boolean search over registered entity types",
  "",
  "Usage: entitysearch [OPTIONS] search <DATASET> --entity <ENTITY> [KEY=VALUE]...",
  "       entitysearch [OPTIONS] describe <DATASET>",
  "",
  "Options:",
  "  -v, --verbose         more output, for each time it is given",
  "  -q, --quiet           less output",
  "  -f, --format <FORM>   human or json",
  "      --pretty          JSON over several lines",
  "      --config <FILE>   the configuration, as JSON",
  "  -h, --help            this text",
  "  -V, --version         the version",
  "",
  "Options of search:",
  "  -e, --entity <NAME>   the entity type, as namespace.kind",
  "  -a, --actor <ACTOR>   who searches, anonymous unless given",
  "      --match-all       the fields of a scope must all match",
  ""]

def versionText : String := "entitysearch 0.1.0\n"

def Usage.message : Usage → String
  | .missingRequired => "a required argument is missing"
  | .missingCommand => "a command is missing"
  | .nothingGiven => "no argument is given"
  | .unknownCommand => "the command is not known"
  | .invalidValue => "a value is missing or not valid"
  | .unknownArgument => "an argument is not known"
  | .givenTwice => "an argument is given twice"
  | .unneededValue => "a value is given to an option that takes none"
  | .help => "help is asked for"
  | .version => "the version is asked for"

def answerUsage : Usage → IO UInt32
  | .help => do
    IO.print usageText
    return 0
  | .version => do
    IO.print versionText
    return 0
  | usage => do
    IO.eprint s!"error: {usage.message}\n\n{usageText}"
    return 2

/-- The line of a report; those who want it quiet see failures only. -/
def reportLine? (verbosity : Nat) : LogEntry → Option String
  | .warning text => if verbosity = 0 then none else some ("[WARN] " ++ text)
  | .failure text => some ("[ERROR] " ++ text)

def runInvocation (invocation : Invocation) : IO UInt32 := do
  let texts ← invocation.fileNames.mapM fun name => return (name, ← fileText? name)
  let files : Files := fun name => (texts.lookup name).join
  let (result, log) := invocation.run files
  for line in log.filterMap (reportLine? invocation.options.verbosity) do
    IO.eprintln line
  match result with
  | .ok output =>
    IO.print output
    return 0
  | .error e =>
    IO.eprintln s!"Error: {e}"
    return 1

end EntitySearch.CommandLine

def main (arguments : List String) : IO UInt32 :=
  match EntitySearch.CommandLine.Invocation.ofArguments arguments with
  | .ok invocation => EntitySearch.CommandLine.runInvocation invocation
  | .error usage => EntitySearch.CommandLine.answerUsage usage
