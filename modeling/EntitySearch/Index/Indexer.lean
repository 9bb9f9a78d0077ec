import EntitySearch.Index.Document

/-!
# Indexing

Jobs and rebuilds read entities through a view of the store and write documents to a target.  A
target is anything that takes, drops and clears documents; each of its operations may fail, and its
state after a failure counts.
-/
set_option autoImplicit false
namespace EntitySearch

/-- The writing side of an index with states `σ`. -/
structure IndexTarget (σ : Type) where
  put : Document → σ → Except SearchError Unit × σ
  drop : EntityRef → σ → Except SearchError Unit × σ
  clear : TypeName → σ → Except SearchError Unit × σ

def IndexTarget.putAll {σ : Type} (target : IndexTarget σ) :
    List Document → σ → Except SearchError Unit × σ
  | [], index => (.ok (), index)
  | document :: rest, index =>
    match target.put document index with
    | (.ok _, index) => target.putAll rest index
    | (.error e, index) => (.error e, index)

structure Indexer where
  registry : Registry
  view : StoreView

namespace Indexer

def document (indexer : Indexer) (type : EntityType) (entity : EntityRef)
    (exclude : Option Exclusion) : Except SearchError (Option Document) :=
  Document.build indexer.registry.catalog indexer.view type entity exclude

variable {σ : Type}

/-- Does a job.  A job for an entity of no registered type is passed over, and the document of an
entity that does not exist any more is dropped. -/
def apply (indexer : Indexer) (target : IndexTarget σ) (job : IndexJob) (index : σ) :
    Except SearchError Unit × σ :=
  match job with
  | .deindex entity => target.drop entity index
  | .index entity exclude =>
    match indexer.registry.lookup entity.typeName with
    | none => (.ok (), index)
    | some type =>
      match indexer.document type entity exclude with
      | .error e => (.error e, index)
      | .ok none => target.drop entity index
      | .ok (some document) => target.put document index

def documents (indexer : Indexer) (type : EntityType) : Except SearchError (List Document) :=
  ((indexer.view.ids type.name).mapM fun id =>
    indexer.document type ⟨type.name, id⟩ none).map fun built => built.filterMap id

/-- Replaces the documents of a type by freshly built ones and returns their number.  Nothing is
cleared before everything is built. -/
def rebuild (indexer : Indexer) (target : IndexTarget σ) (name : TypeName) (index : σ) :
    Except SearchError Nat × σ :=
  match indexer.registry.get name with
  | .error e => (.error e, index)
  | .ok type =>
    match indexer.documents type with
    | .error e => (.error e, index)
    | .ok documents =>
      match target.clear type.name index with
      | (.error e, index) => (.error e, index)
      | (.ok _, index) =>
        match target.putAll documents index with
        | (.error e, index) => (.error e, index)
        | (.ok _, index) => (.ok documents.length, index)

def rebuildEach (indexer : Indexer) (target : IndexTarget σ) :
    List TypeName → σ → Except SearchError Nat × σ
  | [], index => (.ok 0, index)
  | name :: rest, index =>
    match indexer.rebuild target name index with
    | (.error e, index) => (.error e, index)
    | (.ok count, index) =>
      match indexer.rebuildEach target rest index with
      | (.error e, index) => (.error e, index)
      | (.ok counts, index) => (.ok (count + counts), index)

def rebuildAll (indexer : Indexer) (target : IndexTarget σ) (index : σ) :
    Except SearchError Nat × σ :=
  indexer.rebuildEach target (indexer.registry.entityTypes.map EntityType.name) index

end Indexer
end EntitySearch
