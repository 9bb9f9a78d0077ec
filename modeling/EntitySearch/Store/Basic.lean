import EntitySearch.Schema.Catalog
import EntitySearch.Store.View

/-!
# The entity store

The store holds a record for every entity, with its attributes and its foreign keys, and for every
junction its links.  Identifiers are given out from 1 upwards over all types and are never given
out again.

`Store.view` is what search and indexing see.  A relation leads along a foreign key, to the records
whose foreign key points back, or along the links of a junction; identifiers come in ascending
order.
-/
set_option autoImplicit false
namespace EntitySearch

structure Record where
  attributes : SortedMap String Value := .empty
  foreignKeys : SortedMap String Nat := .empty

structure Store where
  catalog : Catalog
  records : SortedMap EntityRef Record := .empty
  /-- The types that have ever had a record. -/
  tables : SortedSet TypeName := .empty
  /-- The links by junction, for the junctions that have ever been linked through. -/
  links : SortedMap String (SortedSet Link) := .empty
  /-- Below 2 ^ 64 after less than 2 ^ 64 - 1 insertions, by `nextId_run_le`. -/
  nextId : Nat := 1

namespace Store

def empty (catalog : Catalog) : Store := { catalog }

def ids (store : Store) (type : TypeName) : List Nat :=
  (store.records.keys.filter fun entity => entity.typeName = type).map EntityRef.id

def count (store : Store) (type : TypeName) : Nat := (store.ids type).length

def contains (store : Store) (entity : EntityRef) : Bool := store.records.contains entity

/-- An attribute of an entity; a missing one of a stored entity is `null`. -/
def attr? (store : Store) (entity : EntityRef) (attr : String) : Option Value :=
  (store.records.get? entity).map fun record => (record.attributes.get? attr).getD .null

def linksOf (store : Store) (junction : String) : List Link :=
  match store.links.get? junction with
  | some links => links.members
  | none => []

def pointingAt (store : Store) (type : TypeName) (field : String) (id : Nat) : List Nat :=
  (store.records.entries.filter fun (entity, record) =>
    entity.typeName = type && record.foreignKeys.get? field == some id).map fun e => e.1.id

def relatedIds (store : Store) (entity : EntityRef) (relation : Relation) : List Nat :=
  match relation.kind with
  | .foreignKey =>
    ((store.records.get? entity).bind fun record => record.foreignKeys.get? relation.name).toList
  | .reverseForeignKey field => store.pointingAt relation.target field entity.id
  | .manyToMany junction side => (store.linksOf junction).filterMap (Link.from? side entity.id)

def relation (store : Store) (model : TypeName) (name : String) : Except SearchError Relation :=
  match store.catalog.relation? model name with
  | some relation => .ok relation
  | none => .error (.storage (.unknownRelation model name))

def related (store : Store) (entity : EntityRef) (name : String) :
    Except SearchError (List EntityRef) :=
  (store.relation entity.typeName name).map fun relation =>
    (store.relatedIds entity relation).map (EntityRef.mk relation.target)

/-- The store as search and indexing read it. -/
def view (store : Store) : StoreView where
  ids := store.ids
  contains := store.contains
  attr? := store.attr?
  related := store.related

end Store
end EntitySearch
