import EntitySearch.CommandLine.Grammar

/-!
# Invocations

The program searches a dataset or describes it.  General options stand before the command.

`Invocation.ofArguments` reads a whole command line.  The arguments of the command are checked
before the values of the general options.
-/
set_option autoImplicit false
namespace EntitySearch.CommandLine

inductive OutputFormat where
  | human
  | json
deriving DecidableEq, Repr

namespace OutputFormat

def word : OutputFormat → String
  | human => "human"
  | json => "json"

def ofWord? (word : String) : Option OutputFormat :=
  [human, json].find? fun format => format.word == word

end OutputFormat

structure Options where
  verbose : Nat := 0
  quiet : Bool := false
  format : OutputFormat := .human
  pretty : Bool := false
  config? : Option String := none
deriving DecidableEq, Repr

/-- How much is said: 0 when quiet, 1 unless more is asked for. -/
def Options.verbosity (options : Options) : Nat :=
  if options.quiet then 0 else max options.verbose 1

structure SearchArguments where
  dataset : String
  typeName : String
  actor : String := "anonymous"
  matchAll : Bool := false
  query : List String := []
deriving DecidableEq, Repr

inductive Command where
  | search (arguments : SearchArguments)
  | describe (dataset : String)
deriving DecidableEq, Repr

structure Invocation where
  options : Options
  command : Command
deriving DecidableEq, Repr

def helpOption : OptionSpec := { name := "help", letter? := some 'h', action := .asks .help }

def isFileName (text : String) : Bool := text ≠ ""

def datasetArgument : PositionalSpec := { name := "DATASET", accepts := isFileName }

def helpCommand : String := "help"

def generalGrammar : Grammar where
  options := [
    { name := "verbose", letter? := some 'v', action := .counter },
    { name := "quiet", letter? := some 'q', action := .switch },
    { name := "format", letter? := some 'f'
      action := .value fun word => (OutputFormat.ofWord? word).isSome },
    { name := "pretty", action := .switch },
    { name := "config", action := .value isFileName },
    helpOption,
    { name := "version", letter? := some 'V', action := .asks .version }]
  commands := ["search", "describe", helpCommand]

def searchGrammar : Grammar where
  options := [
    { name := "entity", letter? := some 'e', action := .value fun _ => true },
    { name := "actor", letter? := some 'a', action := .value fun _ => true },
    { name := "match-all", action := .switch },
    helpOption]
  positionals := [datasetArgument, { name := "KEY=VALUE", several := true }]
  required := ["DATASET", "entity"]

def describeGrammar : Grammar where
  options := [helpOption]
  positionals := [datasetArgument]
  required := ["DATASET"]

/-- What asking for help on some commands comes to: help, if it is one that exists. -/
def askHelp : List String → Usage
  | [] => .help
  | [command] => if generalGrammar.commands.contains command then .help else .unknownCommand
  | _ => .unknownCommand

def maxVerbose : Nat := 255

def Options.ofGiven (given : Given) : Options where
  verbose := min (given.values "verbose").length maxVerbose
  quiet := given.contains "quiet"
  format := ((given.value? "format").bind OutputFormat.ofWord?).getD .human
  pretty := given.contains "pretty"
  config? := given.value? "config"

def SearchArguments.ofGiven (given : Given) : SearchArguments where
  dataset := (given.value? "DATASET").getD ""
  typeName := (given.value? "entity").getD ""
  actor := (given.value? "actor").getD "anonymous"
  matchAll := given.contains "match-all"
  query := given.values "KEY=VALUE"

namespace Command

def ofArguments (name : String) (arguments : List String) : Except Usage Command :=
  if name = "search" then
    (searchGrammar.parse arguments).map fun given => .search (SearchArguments.ofGiven given)
  else if name = "describe" then
    (describeGrammar.parse arguments).map fun given =>
      .describe ((given.value? "DATASET").getD "")
  else .error (askHelp arguments)

end Command

namespace Invocation

def ofArguments (arguments : List String) : Except Usage Invocation := do
  match ← generalGrammar.scan {} arguments with
  | (scan, some (name, rest)) =>
    let command ← Command.ofArguments name rest
    let scan ← scan.settle
    return { options := Options.ofGiven scan.given, command }
  | (scan, none) =>
    let scan ← scan.settle
    throw (if scan.given.isEmpty then .nothingGiven else .missingCommand)

end Invocation
end EntitySearch.CommandLine
