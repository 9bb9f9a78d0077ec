import EntitySearch.Schema.TypeName

/-!
# Errors

Everything that can go wrong is a cause with the names it concerns.  `SearchError.kind` sorts the
causes into the classes a caller distinguishes, `SearchError.detail` gives the wording of a cause,
and a message is the heading of its class followed by that wording.
-/
set_option autoImplicit false
namespace EntitySearch

inductive ConfigurationFault where
  | tooFewOperands (definition : String)
  | operatorValue (definition : String)
  | emptyAlias (definition : String)
  | unknownCombinator (word : String)
  | emptyScope (scope : String)
  /-- An operator is met again below itself; `above` are the operators on the way, outermost first. -/
  | cyclicOperator (operator : String) (above : List String)
  | nestedTooDeep (operator : String) (limit : Nat)
deriving DecidableEq

inductive SchemaFault where
  | malformedName (fault : NameFault)
  | modelExists (model : TypeName)
  | invalidAttribute (attr : String) (model : TypeName)
  | unknownModel (model : TypeName)
  | invalidRelation (relation : String) (model : TypeName)
  | memberExists (model : TypeName) (member : String)
  | selfReverse (relation : String) (model : TypeName)
  | invalidPath (path : String)
  | noFields (name : TypeName)
  | repeatedField (field : String) (name : TypeName)
  | unknownHop (path : String) (owner current : TypeName) (hop : String)
  | unknownTerminal (field : String) (owner : TypeName) (attr : String) (terminal : TypeName)
  | alreadyRegistered (name : TypeName)
  | noModel (name : TypeName)
  | aliasTaken (other name : TypeName)
  | missingAttribute (field : String) (owner terminal : TypeName) (attr : String)
  | missingRelation (field : String) (owner current : TypeName) (hop : String)
deriving DecidableEq

inductive StorageFault where
  | unknownModel (model : TypeName)
  | unknownAttribute (model : TypeName) (attr : String)
  | unknownRelation (model : TypeName) (relation : String)
  | notForeignKey (relation : String) (model : TypeName)
  | notManyToMany (relation : String) (model : TypeName)
  | missingKeyTarget (target : EntityRef)
  | missingLinkTarget (target : EntityRef)
  /-- A relation that cannot be followed at the moment. -/
  | brokenRelation (relation : String)
deriving DecidableEq

inductive Missing where
  | entityType (name : TypeName)
  | field (field : String) (owner : TypeName)
  | entity (entity : EntityRef)
deriving DecidableEq

inductive ArgumentFault where
  | zero (setting : String)
  | duplicateKey (key : String)
  | unknownKey (key : String)
deriving DecidableEq

/-- The cause of a failure. -/
inductive SearchError where
  | configuration (fault : ConfigurationFault)
  | scopeNotFound (scope : String)
  | backendUnavailable (reason : String)
  | schema (fault : SchemaFault)
  | notAnEntry (argument : String)
  | storage (fault : StorageFault)
  /-- A field of a document leaves the catalog at a relation hop. -/
  | index (field : String) (owner current : TypeName) (hop : String)
  | notFound (what : Missing)
  | invalidArgument (fault : ArgumentFault)
  | json
  | unreadable
deriving DecidableEq

inductive ErrorKind where
  | configuration | scopeNotFound | backendUnavailable | schema | query | storage | index | other
  | json | io
deriving DecidableEq, Repr

namespace ErrorKind

def heading : ErrorKind → String
  | configuration => "Configuration error: "
  | scopeNotFound => "Scope not found: "
  | backendUnavailable => "Search backend unavailable: "
  | schema => "Schema error: "
  | query => "Query error: "
  | storage => "Storage error: "
  | index => "Index error: "
  | other => "Error: "
  | json => "JSON error: "
  | io => "I/O error: "

def isConfiguration : ErrorKind → Bool
  | configuration | scopeNotFound => true
  | _ => false

def isBackendUnavailable : ErrorKind → Bool
  | backendUnavailable => true
  | _ => false

def message (kind : ErrorKind) (detail : String) : String := kind.heading ++ detail

end ErrorKind

def notFoundDetail (what : String) : String := "Not found: " ++ what

def invalidArgumentDetail (what : String) : String := "Invalid argument: " ++ what

def NameFault.detail : NameFault → String
  | .noDot text => s!"Entity type name '{text}' must be written as 'namespace.kind'"
  | .emptyPart space kind =>
    s!"Entity type name '{space}.{kind}' must have a namespace and a kind"
  | .extraDot space kind => s!"Entity type name '{space}.{kind}' must contain exactly one '.'"

def ConfigurationFault.detail : ConfigurationFault → String
  | .tooFewOperands definition =>
    s!"Operator '__op__{definition}' must name at least two scopes"
  | .operatorValue definition =>
    s!"Operator '__op__{definition}' value must be 'and=<alias>' or 'or=<alias>'"
  | .emptyAlias definition => s!"Operator '__op__{definition}' has an empty result alias"
  | .unknownCombinator word => s!"Unknown operator combinator '{word}'"
  | .emptyScope scope => s!"Scope '{scope}' has no query body"
  | .cyclicOperator operator above =>
    s!"Operator '{operator}' refers to itself through " ++ String.intercalate " -> " above
  | .nestedTooDeep operator limit => s!"Operator '{operator}' nests deeper than {limit} levels"

def SchemaFault.detail : SchemaFault → String
  | .malformedName fault => fault.detail
  | .modelExists model => s!"Model '{model}' already exists"
  | .invalidAttribute attr model =>
    s!"Invalid attribute name '{attr}' on model '{model}'"
  | .unknownModel model => s!"Unknown model '{model}'"
  | .invalidRelation relation model => s!"Invalid relation name '{relation}' on model '{model}'"
  | .memberExists model member => s!"Model '{model}' already has a member named '{member}'"
  | .selfReverse relation model => s!"Relation '{relation}' on '{model}' cannot be its own reverse"
  | .invalidPath path => s!"Invalid field path '{path}'"
  | .noFields name => s!"Entity type '{name}' has no searchable fields"
  | .repeatedField field name => s!"Field '{field}' registered twice on '{name}'"
  | .unknownHop path owner current hop =>
    s!"Field path '{path}' of '{owner}': '{current}' has no relation '{hop}'"
  | .unknownTerminal field owner attr terminal =>
    s!"Field '{field}' of '{owner}' ends at unknown attribute '{attr}' of '{terminal}'"
  | .alreadyRegistered name => s!"Entity type '{name}' is already registered"
  | .noModel name => s!"Entity type '{name}' has no model in the catalog"
  | .aliasTaken other name => s!"Alias '{other}' of '{name}' is already registered"
  | .missingAttribute field owner terminal attr =>
    s!"Field '{field}' of '{owner}': '{terminal}' has no attribute '{attr}'"
  | .missingRelation field owner current hop =>
    s!"Field '{field}' of '{owner}': '{current}' has no relation '{hop}'"

def StorageFault.detail : StorageFault → String
  | .unknownModel model => s!"Unknown model '{model}'"
  | .unknownAttribute model attr => s!"Model '{model}' has no attribute '{attr}'"
  | .unknownRelation model relation => s!"'{model}' has no relation '{relation}'"
  | .notForeignKey relation model => s!"Relation '{relation}' of '{model}' is not a foreign key"
  | .notManyToMany relation model => s!"Relation '{relation}' of '{model}' is not many-to-many"
  | .missingKeyTarget target => s!"Foreign key target {target} does not exist"
  | .missingLinkTarget target => s!"Link target {target} does not exist"
  | .brokenRelation relation => s!"broken relation '{relation}'"

def Missing.detail : Missing → String
  | .entityType name => s!"entity type '{name}'"
  | .field name owner => s!"field '{name}' of '{owner}'"
  | .entity absent => absent.text

def ArgumentFault.detail : ArgumentFault → String
  | .zero setting => s!"{setting} must be greater than zero"
  | .duplicateKey key => s!"Duplicate record key '{key}'"
  | .unknownKey key => s!"Unknown record key '{key}'"

namespace SearchError

/-- The class of a cause. -/
def kind : SearchError → ErrorKind
  | configuration _ => .configuration
  | scopeNotFound _ => .scopeNotFound
  | backendUnavailable _ => .backendUnavailable
  | schema _ => .schema
  | notAnEntry _ => .query
  | storage _ => .storage
  | index .. => .index
  | notFound _ | invalidArgument _ => .other
  | json => .json
  | unreadable => .io

def detail : SearchError → String
  | configuration fault => fault.detail
  | scopeNotFound scope => scope
  | backendUnavailable reason => reason
  | schema fault => fault.detail
  | notAnEntry argument => s!"Expected KEY=VALUE, got '{argument}'"
  | storage fault => fault.detail
  | index field owner current hop =>
    s!"Field '{field}' of '{owner}': '{current}' has no relation '{hop}'"
  | notFound what => notFoundDetail what.detail
  | invalidArgument fault => invalidArgumentDetail fault.detail
  | json => "malformed document"
  | unreadable => "the file cannot be read"

def message (e : SearchError) : String := e.kind.message e.detail

instance : ToString SearchError := ⟨message⟩

def isConfiguration (e : SearchError) : Bool := e.kind.isConfiguration

def isBackendUnavailable (e : SearchError) : Bool := e.kind.isBackendUnavailable

def ofName {α : Type} (r : Except NameFault α) : Except SearchError α :=
  r.mapError fun fault => .schema (.malformedName fault)

end SearchError

/-- A report about something that was left out or given up. -/
inductive LogEntry where
  | warning (text : String)
  | failure (text : String)
deriving DecidableEq

namespace LogEntry

def text : LogEntry → String
  | warning t => "WARN: " ++ t
  | failure t => "ERROR: " ++ t

end LogEntry
end EntitySearch
