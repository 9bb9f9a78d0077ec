import EntitySearch.Schema.Registry

/-!
# Datasets

A dataset describes a whole search service: models and the relations between them, the entity types
registered over them, the records to store and the grants of actors.  Records have keys of their
own, which other records and grants refer to them by; a record may refer to one further down.
-/
set_option autoImplicit false
namespace EntitySearch

namespace Dataset

inductive RelationType where
  | foreignKey
  | manyToMany
deriving DecidableEq, Repr

structure RelationEntry where
  type : RelationType
  source : TypeName
  name : String
  target : TypeName
  reverse : String

inductive Transform where
  | uuid
  | lowercase
deriving DecidableEq, Repr

structure FieldEntry where
  path : String
  label? : Option String := none
  rank? : Option Nat := none
  terms? : Option Transform := none
  values? : Option Transform := none

structure TypeEntry where
  name : TypeName
  permission? : Option String := none
  others : List TypeName := []
  fields : List FieldEntry

structure RecordEntry where
  key : String
  model : TypeName
  attributes : SortedMap String Json := .empty
  /-- By foreign key, the key of the record it points at. -/
  foreignKeys : SortedMap String String := .empty
  /-- By relation, the keys of the records to link with. -/
  links : SortedMap String (List String) := .empty

/-- A permission for an actor: on every entity, or on the records with some keys. -/
structure GrantEntry where
  actor : String
  permission : String
  objects? : Option (List String) := none

namespace Transform

def ofTerms : Transform → TermTransform
  | uuid => .uuid
  | lowercase => .lowercase

def ofValues : Transform → ValueTransform
  | uuid => .uuid
  | lowercase => .lowercase

end Transform

def FieldEntry.field (entry : FieldEntry) : Except SearchError Field :=
  (Field.ofPath entry.path).map fun field =>
    { field with
      label? := entry.label?
      rank? := entry.rank?
      termTransform? := entry.terms?.map Transform.ofTerms
      valueTransform? := entry.values?.map Transform.ofValues }

def TypeEntry.entityType (entry : TypeEntry) : Except SearchError EntityType := do
  let fields ← entry.fields.mapM FieldEntry.field
  EntityType.make entry.name fields entry.permission? .all entry.others

end Dataset

structure Dataset where
  models : SortedMap TypeName (SortedMap String ValueKind) := .empty
  relations : List Dataset.RelationEntry := []
  types : List Dataset.TypeEntry := []
  records : List Dataset.RecordEntry := []
  grants : List Dataset.GrantEntry := []

namespace Dataset

def RelationEntry.declare (catalog : Catalog) (entry : RelationEntry) : Except SearchError Catalog :=
  match entry.type with
  | .foreignKey => catalog.foreignKey entry.source entry.name entry.target entry.reverse
  | .manyToMany =>
    (catalog.manyToMany entry.source entry.name entry.target entry.reverse).map Prod.snd

/-- The catalog: the models by ascending name, then the relations in order. -/
def catalog (dataset : Dataset) : Except SearchError Catalog := do
  let models ← dataset.models.entries.foldlM (fun (catalog : Catalog) model =>
    catalog.defineModel model.1 model.2.entries) Catalog.empty
  dataset.relations.foldlM RelationEntry.declare models

def TypeEntry.register (registry : Registry) (entry : TypeEntry) : Except SearchError Registry := do
  let type ← entry.entityType
  registry.register type

def registry (dataset : Dataset) (catalog : Catalog) : Except SearchError Registry :=
  dataset.types.foldlM TypeEntry.register { catalog }

end Dataset
end EntitySearch
