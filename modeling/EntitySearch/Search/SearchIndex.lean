import EntitySearch.Config
import EntitySearch.Index.Indexer
import EntitySearch.Search.Cache

/-!
# The search index

The index holds documents and evaluates one scope at a time.  A scope is cleaned first: values lose
the white space at their ends, blank ones go, a free-text scope keeps its free text only, and
unknown fields go with a warning.  The documents that satisfy the filter of the cleaned scope give
identifiers; of these the ones in the base set of the type that are still stored are the hits, in
ascending order.

An index that is offline fails every operation.  Free-text results go through the cache, if there is
one.
-/
set_option autoImplicit false
namespace EntitySearch

structure SearchIndex where
  documents : SortedMap EntityRef Document := .empty
  online : Bool := true
  cache? : Option Cache := none
deriving DecidableEq

namespace SearchIndex

def ofConfig (config : Config) : SearchIndex where
  cache? := if config.cacheEnabled then some { lifetime := config.cacheSeconds } else none

def checkOnline (index : SearchIndex) : Except SearchError Unit :=
  if index.online then .ok () else .error (.backendUnavailable "the search index is offline")

def changing (index : SearchIndex)
    (change : SortedMap EntityRef Document → SortedMap EntityRef Document) :
    Except SearchError Unit × SearchIndex :=
  match index.checkOnline with
  | .ok _ => (.ok (), { index with documents := change index.documents })
  | .error e => (.error e, index)

def target : IndexTarget SearchIndex where
  put document index := index.changing fun documents => documents.insert document.entity document
  drop entity index := index.changing fun documents => documents.erase entity
  clear type index :=
    index.changing fun documents => documents.filter fun entity _ => entity.typeName ≠ type

def document? (index : SearchIndex) (entity : EntityRef) : Except SearchError (Option Document) :=
  index.checkOnline.map fun _ => index.documents.get? entity

def documentsUpTo (index : SearchIndex) (type : TypeName) (last : Nat) :
    Except SearchError (List Document) :=
  ((List.range last).mapM fun i => index.document? ⟨type, i + 1⟩).map fun found =>
    found.filterMap id

def count (index : SearchIndex) (type : TypeName) : Nat :=
  (index.documents.keys.filter fun entity => entity.typeName = type).length

end SearchIndex

namespace Scope

/-- The fields of a cleaned scope: trimmed values that are not blank, of known fields. -/
def cleanedFields (scope : Scope) (type : EntityType) : QueryMode → SortedMap String String
  | .freeText =>
    match scope.freeText?.map trimmedValue with
    | some value => if value = "" then .empty else SortedMap.empty.insert anyField value
    | none => .empty
  | .structured =>
    (scope.fields.map fun _ value => trimmedValue value).filter fun name value =>
      value ≠ "" && (type.field? name).isSome

def cleaned (scope : Scope) (type : EntityType) : Scope :=
  { scope with fields := scope.cleanedFields type scope.mode }

/-- What cleaning reports: the fields of a structured scope that are dropped as unknown. -/
def cleaningLog (scope : Scope) (type : EntityType) : List LogEntry :=
  match scope.mode with
  | .freeText => []
  | .structured => scope.fields.entries.filterMap fun (name, value) =>
    if blankValue value || (type.field? name).isSome then none
    else some (.warning s!"dropping unknown field '{name}' of '{type.name}'")

end Scope

structure Evaluator where
  catalog : Catalog
  view : StoreView
  binding : Binding

namespace Evaluator

def matching (index : SearchIndex) (type : TypeName) (predicate : Predicate) : List Nat :=
  (index.documents.entries.filter fun (entity, document) =>
    entity.typeName = type && predicate.accepts document.texts).map fun e => e.1.id

def base (evaluator : Evaluator) (type : EntityType) : Except SearchError (List Nat) :=
  match type.base with
  | .all => .ok (evaluator.view.ids type.name)
  | .provided provider => provider evaluator.view

/-- The identifiers that are in the base set of a type and still stored.  Without identifiers the
base set is not asked for. -/
def fetch (evaluator : Evaluator) (type : EntityType) (ids : List Nat) : Except SearchError Hits :=
  if ids.isEmpty then .ok Hits.none
  else (evaluator.base type).map fun base =>
    Hits.ofList (ids.filter fun id => base.contains id && evaluator.view.contains ⟨type.name, id⟩)

def hits (evaluator : Evaluator) (index : SearchIndex) (type : EntityType) (scope : Scope)
    (mode : QueryMode) : Except SearchError Hits :=
  match evaluator.binding.filter evaluator.catalog type scope mode with
  | .error e => .error e
  | .ok .nothing => .ok Hits.none
  | .ok (.matching predicate) => evaluator.fetch type (matching index type.name predicate)

/-- The key that the hits of a cleaned scope are cached under. -/
def cacheKey? (type : EntityType) (actor : String) (scope : Scope) : QueryMode → Option CacheKey
  | .freeText => if scope.isEmpty then none else some ⟨type.name, actor, scope⟩
  | .structured => none

def answer (evaluator : Evaluator) (type : EntityType) (actor : String) (now : Nat) (scope : Scope)
    (index : SearchIndex) : Except SearchError Hits × SearchIndex :=
  match index.checkOnline with
  | .error e => (.error e, index)
  | .ok _ =>
    let cleaned := scope.cleaned type
    let result := evaluator.hits index type cleaned scope.mode
    match index.cache?, cacheKey? type actor cleaned scope.mode with
    | some cache, some key =>
      match cache.get? now key with
      | some hits => (.ok hits, index)
      | none =>
        match result with
        | .ok hits => (.ok hits, { index with cache? := some (cache.insert now key hits) })
        | .error e => (.error e, index)
    | _, _ => (result, index)

def answerLog (type : EntityType) (scope : Scope) (index : SearchIndex) : List LogEntry :=
  if index.online then scope.cleaningLog type else []

end Evaluator
end EntitySearch
