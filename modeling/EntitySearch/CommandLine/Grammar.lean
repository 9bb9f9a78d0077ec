/-!
# Command line grammars

A grammar lists the options, the positional arguments and the commands of a command line.
`Grammar.scan` reads arguments from left to right.  An option is written `--name`, `--name=value`,
or as a letter among others behind one dash, with its value behind the letter or in the next
argument.  After the argument `--` every argument is a positional one.

An option that takes a value, and a positional argument, stay open until the next one begins, and
are checked only then; so an argument that is not understood is found before an unfit value in front
of it.
-/
set_option autoImplicit false
namespace EntitySearch.CommandLine

/-- Why arguments are not understood, or what they ask for instead of a run. -/
inductive Usage where
  | missingRequired
  | missingCommand
  | nothingGiven
  | unknownCommand
  | invalidValue
  | unknownArgument
  | givenTwice
  | unneededValue
  | help
  | version
deriving DecidableEq, Repr

/-- What an option does. -/
inductive OptionAction where
  | value (accepts : String → Bool)
  | switch
  | counter
  | asks (usage : Usage)

structure OptionSpec where
  name : String
  letter? : Option Char := none
  action : OptionAction

structure PositionalSpec where
  name : String
  several : Bool := false
  accepts : String → Bool := fun _ => true

structure Grammar where
  options : List OptionSpec
  positionals : List PositionalSpec := []
  required : List String := []
  commands : List String := []

/-- The arguments that were given: names with values, in order. -/
abbrev Given := List (String × String)

namespace Given

def contains (given : Given) (name : String) : Bool := given.any fun g => g.1 == name

def values (given : Given) (name : String) : List String :=
  (given.filter fun g => g.1 == name).map Prod.snd

def value? (given : Given) (name : String) : Option String := (given.values name).head?

end Given

/-- An argument whose values are being collected. -/
structure Slot where
  name : String
  several : Bool
  accepts : String → Bool
  values : List String

/-- How far a command line was read. -/
structure Scan where
  given : Given := []
  pending : Option Slot := none
  waiting : Bool := false
  place : Nat := 0
  trailing : Bool := false

namespace Scan

def put (scan : Scan) (slot : Slot) : Except Usage Scan :=
  if slot.values.isEmpty then .error .invalidValue
  else if !slot.several && scan.given.contains slot.name then .error .givenTwice
  else if !slot.values.all slot.accepts then .error .invalidValue
  else .ok { scan with given := scan.given ++ slot.values.map fun value => (slot.name, value) }

def settle (scan : Scan) : Except Usage Scan :=
  match scan.pending with
  | none => .ok scan
  | some slot => put { scan with pending := none } slot

def act (scan : Scan) (option : OptionSpec) : Except Usage Scan := do
  let scan ← scan.settle
  let scan := { scan with waiting := false }
  match option.action with
  | .value accepts => return { scan with
      pending := some ⟨option.name, false, accepts, []⟩, waiting := true }
  | .switch =>
    if scan.given.contains option.name then throw .givenTwice
    return { scan with given := scan.given ++ [(option.name, "")] }
  | .counter => return { scan with given := scan.given ++ [(option.name, "")] }
  | .asks usage => throw usage

def attach (scan : Scan) (name : String) (accepts : String → Bool) (value : String) :
    Except Usage Scan := do
  let scan ← scan.settle
  put { scan with waiting := false } ⟨name, false, accepts, [value]⟩

def feed (scan : Scan) (value : String) : Scan :=
  { scan with
    pending := scan.pending.map fun slot => { slot with values := slot.values ++ [value] }
    waiting := false }

end Scan

namespace Grammar

def readName (grammar : Grammar) (scan : Scan) (name : String) (value? : Option String) :
    Except Usage Scan :=
  match grammar.options.find? fun option => option.name == name with
  | none => .error .unknownArgument
  | some option =>
    match option.action, value? with
    | .value accepts, some value => scan.attach option.name accepts value
    | _, some _ => .error .unneededValue
    | _, none => scan.act option

def readLetters (grammar : Grammar) (scan : Scan) : List Char → Except Usage Scan
  | [] => .ok scan
  | letter :: rest =>
    match grammar.options.find? fun option => option.letter? == some letter with
    | none => .error .unknownArgument
    | some option =>
      match option.action, rest with
      | .value accepts, '=' :: value => scan.attach option.name accepts (String.ofList value)
      | .value accepts, c :: value => scan.attach option.name accepts (String.ofList (c :: value))
      | .value _, [] => scan.act option
      | _, rest => (scan.act option).bind fun scan => grammar.readLetters scan rest

def readPositional (grammar : Grammar) (scan : Scan) (value : String) : Except Usage Scan :=
  match grammar.positionals[scan.place]? with
  | none =>
    .error (if grammar.commands.isEmpty || (scan.trailing && grammar.commands.contains value) then
      .unknownArgument else .unknownCommand)
  | some spec => do
    let isOpen := spec.several && scan.pending.any fun slot => slot.name == spec.name
    let scan ← if isOpen then pure scan else scan.settle
    let values := if isOpen then (scan.pending.map Slot.values).getD [] else []
    return { scan with
      pending := some ⟨spec.name, spec.several, spec.accepts, values ++ [value]⟩
      waiting := false
      place := if spec.several then scan.place else scan.place + 1 }

def readArgument (grammar : Grammar) (scan : Scan) (argument : String) : Except Usage Scan :=
  if scan.trailing then grammar.readPositional scan argument
  else match argument.toList with
    | ['-', '-'] => .ok { scan with trailing := true }
    | '-' :: '-' :: rest =>
      let name := rest.takeWhile (· ≠ '=')
      let value? := (rest.drop name.length).tail?.map String.ofList
      grammar.readName scan (String.ofList name) value?
    | '-' :: letter :: rest => grammar.readLetters scan (letter :: rest)
    | _ => if scan.waiting then .ok (scan.feed argument) else grammar.readPositional scan argument

abbrev Chosen := String × List String

/-- Reads arguments up to the first command. -/
def scan (grammar : Grammar) (progress : Scan) : List String → Except Usage (Scan × Option Chosen)
  | [] => .ok (progress, none)
  | argument :: rest =>
    if !progress.trailing && !progress.waiting && grammar.commands.contains argument then
      .ok (progress, some (argument, rest))
    else (grammar.readArgument progress argument).bind fun progress => grammar.scan progress rest

def parse (grammar : Grammar) (arguments : List String) : Except Usage Given := do
  let (scan, _) ← grammar.scan {} arguments
  let scan ← scan.settle
  if grammar.required.all scan.given.contains then return scan.given
  throw .missingRequired

end Grammar
end EntitySearch.CommandLine
