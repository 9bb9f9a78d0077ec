import EntitySearch.Search.Grants
import EntitySearch.Search.Resolve
import EntitySearch.Search.SearchIndex

/-!
# Searching

A search decodes its request into a scope tree, resolves the scope asked for, restricts the hits
once by the permission of the entity type, and keeps the first of them.  An index that cannot be
asked makes the search fail if the configuration is strict, and gives no hits otherwise; a malformed
tree always makes it fail.
-/
set_option autoImplicit false
namespace EntitySearch

structure Search where
  typeName : TypeName
  request : Request
  actor : String := "anonymous"
  matchAll : Bool := false

structure Engine where
  registry : Registry
  config : Config
  view : StoreView
  permissions : Permissions

/-- What a search answers, reports and leaves behind. -/
structure SearchOutcome where
  answer : Except SearchError Hits
  log : List LogEntry
  restricted : Bool
  index : SearchIndex

namespace Engine

def evaluator (engine : Engine) : Evaluator where
  catalog := engine.registry.catalog
  view := engine.view
  binding := engine.config.binding true

abbrev Running := SearchIndex × List LogEntry

/-- Answers a scope through the index and reports what is dropped. -/
def answering (engine : Engine) (type : EntityType) (actor : String) (now : Nat) :
    QueryTree.Answering Running := fun scope (index, log) =>
  let (result, after) := engine.evaluator.answer type actor now scope index
  (result, after, log ++ Evaluator.answerLog type scope index)

/-- The hits an actor may see, the first `maxResults` of them. -/
def restrict (engine : Engine) (type : EntityType) (actor : String) (hits : Hits) : Hits :=
  let allowed := match type.permission? with
    | some permission => engine.permissions.restrict ⟨actor, permission⟩ hits
    | none => hits
  allowed.take engine.config.maxResults

def conclude (engine : Engine) (search : Search) (type : EntityType)
    (resolved : Except SearchError Hits) (index : SearchIndex) (log : List LogEntry) :
    SearchOutcome :=
  match resolved with
  | .ok hits =>
    { answer := .ok (engine.restrict type search.actor hits), log
      restricted := type.permission?.isSome, index }
  | .error e =>
    if e.isBackendUnavailable && !engine.config.strict then
      let report : LogEntry := .failure s!"search on '{search.typeName}' degraded to no results: {e}"
      { answer := .ok Hits.none, log := log ++ [report], restricted := false, index }
    else { answer := .error e, log, restricted := false, index }

def search (engine : Engine) (search : Search) (now : Nat) (index : SearchIndex) : SearchOutcome :=
  match engine.registry.get search.typeName with
  | .error e => { answer := .error e, log := [], restricted := false, index }
  | .ok type =>
    if search.request.isEmpty then
      { answer := .ok Hits.none, log := [], restricted := false, index }
    else
      let decodeLog := QueryTree.decodeLog search.request
      match QueryTree.decode search.request search.matchAll with
      | .error e => { answer := .error e, log := decodeLog, restricted := false, index }
      | .ok tree =>
        let (resolved, index, log) :=
          tree.resolve (engine.answering type search.actor now) engine.config.maxScopeDepth
            tree.resultScope (index, decodeLog)
        engine.conclude search type resolved index log

end Engine
end EntitySearch
