import EntitySearch.Dataset.Basic
import EntitySearch.Service.Basic

/-!
# Loading a dataset

Loading stores the records of a dataset in a service whose index follows each write: first all
records are inserted, then foreign keys are set and links are added, record by record, so that a
record may refer to one further down.  Keys must be distinct and references must be known.
-/
set_option autoImplicit false
namespace EntitySearch

structure LoadedDataset where
  service : Service
  /-- The key of each stored record. -/
  keys : SortedMap EntityRef String

namespace LoadedDataset

def keyOf? (loaded : LoadedDataset) (entity : EntityRef) : Option String :=
  loaded.keys.get? entity

def search (loaded : LoadedDataset) (search : Search) (now : Nat) :
    Except SearchError (List (Nat × Option String)) × LoadedDataset :=
  let ((answer, _), service) := loaded.service.search search now
  let rows := do
    let type ← loaded.service.registry.get search.typeName
    let hits ← answer
    return hits.ids.map fun id => (id, loaded.keyOf? ⟨type.name, id⟩)
  (rows, { loaded with service })

end LoadedDataset

namespace Dataset

abbrev ByKey := SortedMap String EntityRef

def entityOf (byKey : ByKey) (key : String) : Except SearchError EntityRef :=
  match byKey.get? key with
  | some entity => .ok entity
  | none => .error (.invalidArgument (.unknownKey key))

def written {α : Type} (service : Service) (operation : Store → Except SearchError (Outcome α)) :
    Except SearchError (α × Service) :=
  let (result, service) := service.write operation
  result.map fun answer => (answer, service)

def insertRecord (state : Service × ByKey) (record : RecordEntry) :
    Except SearchError (Service × ByKey) := do
  let (service, byKey) := state
  let attributes := record.attributes.entries.map fun (name, value) => (name, Value.ofJson value)
  let (entity, service) ← written service fun store => store.insert record.model attributes
  if byKey.contains record.key then throw (.invalidArgument (.duplicateKey record.key))
  return (service, byKey.insert record.key entity)

def setKey (byKey : ByKey) (entity : EntityRef) (service : Service) (reference : String × String) :
    Except SearchError Service := do
  let target ← entityOf byKey reference.2
  let (_, service) ← written service fun store =>
    store.setForeignKey entity reference.1 (some target.id)
  return service

def addLinks (byKey : ByKey) (entity : EntityRef) (service : Service)
    (references : String × List String) : Except SearchError Service := do
  let targets ← references.2.mapM (entityOf byKey)
  let (_, service) ← written service fun store =>
    store.link entity references.1 (targets.map EntityRef.id)
  return service

def relateRecord (byKey : ByKey) (service : Service) (record : RecordEntry) :
    Except SearchError Service := do
  let entity ← entityOf byKey record.key
  let service ← record.foreignKeys.entries.foldlM (setKey byKey entity) service
  record.links.entries.foldlM (addLinks byKey entity) service

def addGrant (byKey : ByKey) (grants : Grants) (entry : GrantEntry) : Except SearchError Grants :=
  let holding : Holding := ⟨entry.actor, entry.permission⟩
  match entry.objects? with
  | none => .ok (grants.grantAll holding)
  | some keys =>
    (keys.mapM (entityOf byKey)).map fun entities =>
      grants.grantObjects holding (entities.map EntityRef.id)

/-- Loads a dataset into a fresh service.  The configuration is checked last. -/
def load (dataset : Dataset) (config : Config) : Except SearchError LoadedDataset := do
  let catalog ← dataset.catalog
  let registry ← dataset.registry catalog
  let empty ← Service.assemble registry config (.inline config.indexing.maxRetries)
    (.granted Grants.empty)
  let (inserted, byKey) ← dataset.records.foldlM insertRecord (empty, SortedMap.empty)
  let related ← dataset.records.foldlM (relateRecord byKey) inserted
  let grants ← dataset.grants.foldlM (addGrant byKey) Grants.empty
  config.validate
  return { service := { related with permissions := .granted grants }
           keys := SortedMap.ofList (byKey.entries.map fun (key, entity) => (entity, key)) }

end Dataset
end EntitySearch
