import EntitySearch.Index.Queue
import EntitySearch.Index.Watch
import EntitySearch.Search.Engine
import EntitySearch.Service.Faults
import EntitySearch.Store.Write

/-!
# A search service

A service is a store, an index that follows the store, and searches on the index.  A write to the
store is one call of `Service.write`: the store changes, and the reactions of the watch to the change
become index jobs.  What becomes of the jobs is a matter of the `Dispatch`: they are done on the
spot, kept for later, or left undone.  Jobs done on the spot read the store as observers see it, so
a job about something that is to go still sees it.

What the watch and the queue report, the changes that observers are told of and the jobs handed to
the queue go into the journal of the service.
-/
set_option autoImplicit false
namespace EntitySearch

/-- What becomes of the index jobs that changes cause. -/
inductive Dispatch where
  | inline (retries : Nat)
  | recording
  | dropping
deriving DecidableEq

/-- What happened since the journal was last taken. -/
structure Journal where
  events : List ChangeEvent := []
  jobs : List IndexJob := []
  log : List LogEntry := []

/-- A store with an index that follows it. -/
structure Service where
  registry : Registry
  watch : Watch
  config : Config
  dispatch : Dispatch
  store : Store
  index : Faulty SearchIndex
  permissions : Permissions
  recorded : List IndexJob := []
  broken : List String := []
  journal : Journal := {}

namespace Service

def assemble (registry : Registry) (config : Config) (dispatch : Dispatch)
    (permissions : Permissions) : Except SearchError Service :=
  (Watch.ofRegistry registry).map fun watch =>
    { registry, watch, config, dispatch, permissions
      store := .empty registry.catalog
      index := { inner := .ofConfig config } }

def start (registry : Registry) (config : Config) (dispatch : Dispatch)
    (permissions : Permissions) : Except SearchError Service := do
  let service ← assemble registry config dispatch permissions
  config.validate
  return service

def report (service : Service) (log : List LogEntry) : Service :=
  { service with journal := { service.journal with log := service.journal.log ++ log } }

def takeJournal (service : Service) : Journal × Service :=
  (service.journal, { service with journal := {} })

/-- What indexing sees of a store. -/
def seeing (service : Service) (store : Store) : Indexer where
  registry := service.registry
  view := store.view.breaking service.broken

def indexer (service : Service) : Indexer := service.seeing service.store

def target : IndexTarget (Faulty SearchIndex) := SearchIndex.target.faulty

def indexing {α : Type} (service : Service)
    (run : Faulty SearchIndex → Except SearchError α × Faulty SearchIndex) :
    Except SearchError α × Service :=
  let (result, index) := run service.index
  (result, { service with index })

def apply (service : Service) (job : IndexJob) : Except SearchError Unit × Service :=
  service.indexing (service.indexer.apply target job)

def put (service : Service) (document : Document) : Except SearchError Unit × Service :=
  service.indexing (target.put document)

def drop (service : Service) (entity : EntityRef) : Except SearchError Unit × Service :=
  service.indexing (target.drop entity)

def clear (service : Service) (type : TypeName) : Except SearchError Unit × Service :=
  service.indexing (target.clear type)

def rebuild (service : Service) (type : TypeName) : Except SearchError Nat × Service :=
  service.indexing (service.indexer.rebuild target type)

def rebuildAll (service : Service) : Except SearchError Nat × Service :=
  service.indexing (service.indexer.rebuildAll target)

def buildDocument (service : Service) (type : TypeName) (entity : EntityRef)
    (exclude : Option Exclusion) : Except SearchError (Option Document) := do
  let type ← service.registry.get type
  service.indexer.document type entity exclude

def failNext (service : Service) (count : Nat) : Service :=
  { service with index := { service.index with failing := count } }

def takeCalls (service : Service) : Nat × Service :=
  (service.index.calls, { service with index := { service.index with calls := 0 } })

/-- Makes indexing fail where it follows one of some relations, and nowhere else. -/
def breaking (service : Service) (relations : List String) : Service :=
  { service with broken := relations }

def setOnline (service : Service) (online : Bool) : Service :=
  { service with index := { service.index with inner := { service.index.inner with online } } }

/-! ## Jobs -/

/-- What becomes of a job while observers see a store. -/
def dispatchJob (service : Service) (seen : Store) (job : IndexJob) : Service :=
  match service.dispatch with
  | .inline retries =>
    let (trial, index) :=
      runWithRetries ((service.seeing seen).apply target) retries job service.index
    { service with index }.report trial.log
  | .recording => { service with recorded := service.recorded ++ [job] }
  | .dropping => service

def enqueueSeeing (service : Service) (seen : Store) (job : IndexJob) : Service :=
  let journal := { service.journal with jobs := service.journal.jobs ++ [job] }
  dispatchJob { service with journal } seen job

def enqueue (service : Service) (job : IndexJob) : Service :=
  service.enqueueSeeing service.store job

/-- Does what a reaction says. -/
def react (seen : Store) (service : Service) : Reaction → Service
  | .enqueue job => service.enqueueSeeing seen job
  | .report entry => service.report [entry]

def observe (service : Service) (event : ChangeEvent) (seen : Store) : Service :=
  (service.watch.onChange (service.seeing seen).view event).foldl (react seen) service

def runRecorded (service : Service) (backwards : Bool) :
    List (IndexJob × Except SearchError Unit) × Service :=
  let jobs := if backwards then service.recorded.reverse else service.recorded
  let step := fun (done, service) job =>
    let (result, service) := apply service job
    (done ++ [(job, result)], service)
  jobs.foldl step ([], { service with recorded := [] })

def leadingJobs : List (Except SearchError IndexJob) → List IndexJob × Option SearchError
  | [] => ([], none)
  | .error e :: _ => ([], some e)
  | .ok job :: rest =>
    let (jobs, failure?) := leadingJobs rest
    (job :: jobs, failure?)

/-- Hands jobs to a fresh channel, lets its workers do them, closes it, and hands it `late` ones.

The first job that could not be had ends the handing over.  The workers still do the jobs they were
given by then, and what the channel reported goes into the journal. -/
def runChannel (service : Service) (workers retries : Nat)
    (jobs late : List (Except SearchError IndexJob)) :
    Except SearchError (Channel × List LogEntry) × Service :=
  match Channel.start workers retries with
  | .error e => (.error e, service)
  | .ok channel =>
    let (jobs, failure?) := leadingJobs jobs
    let (late, lateFailure?) := leadingJobs (if failure?.isNone then late else [])
    let (channel, before) := channel.enqueueAll jobs
    let ((channel, during), index) := channel.drain (service.indexer.apply target) service.index
    let (channel, after) := channel.close.enqueueAll late
    let service := { service with index }
    let log := before ++ during ++ after
    match failure?.or lateFailure? with
    | none => (.ok (channel, log), service)
    | some e => (.error e, service.report log)

def follow {α : Type} (service : Service) (outcome : Outcome α) : Service :=
  let service := { service with store := outcome.after }
  match outcome.notice? with
  | none => service
  | some notice =>
    let journal := { service.journal with events := service.journal.events ++ [notice.event] }
    { service with journal }.observe notice.event notice.seen

def write {α : Type} (service : Service) (operation : Store → Except SearchError (Outcome α)) :
    Except SearchError α × Service :=
  match operation service.store with
  | .error e => (.error e, service)
  | .ok outcome => (.ok outcome.answer, service.follow outcome)

def engine (service : Service) : Engine where
  registry := service.registry
  config := service.config
  view := service.store.view
  permissions := service.permissions

def withIndex (service : Service) (index : SearchIndex) : Service :=
  { service with index := { service.index with inner := index } }

/-- Runs a search at the second `now`; the answer comes with whether its hits were restricted. -/
def search (service : Service) (search : Search) (now : Nat) :
    (Except SearchError Hits × Bool) × Service :=
  let outcome := service.engine.search search now service.index.inner
  ((outcome.answer, outcome.restricted), (service.withIndex outcome.index).report outcome.log)

def answer (service : Service) (type : TypeName) (actor : String) (now : Nat) (scope : Scope) :
    Except SearchError Hits × Service :=
  match service.registry.get type with
  | .error e => (.error e, service)
  | .ok type =>
    let index := service.index.inner
    let (result, after) := service.engine.evaluator.answer type actor now scope index
    (result, (service.withIndex after).report (Evaluator.answerLog type scope index))

def changeGrants (service : Service) (change : Grants → Grants) : Service :=
  match service.permissions with
  | .unrestricted => service
  | .granted grants => { service with permissions := .granted (change grants) }

end Service
end EntitySearch
