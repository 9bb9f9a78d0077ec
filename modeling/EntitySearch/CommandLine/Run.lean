import EntitySearch.Codec.Config
import EntitySearch.Codec.Dataset
import EntitySearch.CommandLine.Display
import EntitySearch.CommandLine.Files
import EntitySearch.CommandLine.Report

/-!
# Running an invocation

An invocation reads its configuration and its dataset from files, loads the dataset and answers with
a report.  A failure on the way ends it without output.
-/
set_option autoImplicit false
namespace EntitySearch.CommandLine

def configOf (files : Files) (options : Options) : Except SearchError Config :=
  match options.config? with
  | none => .ok {}
  | some name => (readFile files name).bind Config.ofText

def loadFrom (files : Files) (config : Config) (name : String) : Except SearchError LoadedDataset := do
  let text ← readFile files name
  let dataset ← Dataset.ofText text
  dataset.load config

/-- The report of a search, and what the search reported on the way. -/
def SearchArguments.run (arguments : SearchArguments) (files : Files) (config : Config) :
    Except SearchError SearchReport × List LogEntry :=
  let prepared : Except SearchError (LoadedDataset × EntityType × Search) := do
    let loaded ← loadFrom files config arguments.dataset
    let name ← SearchError.ofName (TypeName.parse arguments.typeName)
    let type ← loaded.service.registry.get name
    let request ← Request.ofArguments arguments.query
    return (loaded, type, ⟨name, request, arguments.actor, arguments.matchAll⟩)
  match prepared with
  | .error e => (.error e, [])
  | .ok (loaded, type, search) =>
    let ((answer, _), service) := loaded.service.takeJournal.2.search search 0
    let report := do
      let hits ← answer
      let rows ← hits.ids.mapM (rowOf { loaded with service } type)
      return { typeName := type.name.text, actor := arguments.actor, duration := 0, rows }
    (report, loaded.service.journal.log ++ service.journal.log)

def Invocation.run (invocation : Invocation) (files : Files) :
    Except SearchError String × List LogEntry :=
  let options := invocation.options
  match configOf files options, invocation.command with
  | .error e, _ => (.error e, [])
  | .ok config, .search arguments =>
    let (report, log) := arguments.run files config
    (report.map fun report => options.output "Search completed" report.toJson, log)
  | .ok config, .describe dataset =>
    match loadFrom files config dataset with
    | .error e => (.error e, [])
    | .ok loaded =>
      ((DatasetReport.of loaded.service).map fun report =>
        options.output "Fixture described" report.toJson, loaded.service.journal.log)

end EntitySearch.CommandLine
