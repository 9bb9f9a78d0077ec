import EntitySearch.Store.Basic
import EntitySearch.Store.Change

/-!
# Writing to the store

Each operation either fails and leaves the store as it is, or gives an `Outcome`: the answer, the
store afterwards, and the notice for observers with the store as they see it.  Creations, updates
and added links are seen done; deletions and removed links are seen as they were.

Deleting an entity also clears the foreign keys that point at it and drops its links, without
further notices.
-/
set_option autoImplicit false
namespace EntitySearch

/-- What observers are told, and the store they see. -/
structure Notice where
  event : ChangeEvent
  seen : Store

structure Outcome (α : Type) where
  answer : α
  after : Store
  notice? : Option Notice

namespace Store

def checkAttributes (store : Store) (type : TypeName) (attributes : List (String × Value)) :
    Except SearchError (SortedMap String Value) :=
  match store.catalog.model? type with
  | none => .error (.storage (.unknownModel type))
  | some model =>
    match attributes.find? fun a => !model.attributes.contains a.1 with
    | some (attr, _) => .error (.storage (.unknownAttribute type attr))
    | none => .ok (SortedMap.ofList attributes)

def record (store : Store) (entity : EntityRef) : Except SearchError Record :=
  match store.records.get? entity with
  | some record => .ok record
  | none => .error (.notFound (.entity entity))

def putRecord (store : Store) (entity : EntityRef) (record : Record) : Store :=
  { store with records := store.records.insert entity record }

/-- An outcome that observers see done. -/
def seenDone {α : Type} (answer : α) (after : Store) (event : ChangeEvent) : Outcome α :=
  { answer, after, notice? := some ⟨event, after⟩ }

def insert (store : Store) (type : TypeName) (attributes : List (String × Value)) :
    Except SearchError (Outcome EntityRef) := do
  let attributes ← store.checkAttributes type attributes
  let entity : EntityRef := ⟨type, store.nextId⟩
  let after := { store.putRecord entity { attributes } with
    tables := SortedSet.add store.tables type
    nextId := store.nextId + 1 }
  return seenDone entity after (.entity entity .created)

def update (store : Store) (entity : EntityRef) (attributes : List (String × Value)) :
    Except SearchError (Outcome Unit) := do
  let attributes ← store.checkAttributes entity.typeName attributes
  let record ← store.record entity
  let after := store.putRecord entity
    { record with attributes := record.attributes.insertAll attributes }
  return seenDone () after (.entity entity .updated)

def setForeignKey (store : Store) (entity : EntityRef) (name : String) (target : Option Nat) :
    Except SearchError (Outcome Unit) := do
  let relation ← store.relation entity.typeName name
  if relation.kind ≠ .foreignKey then throw (.storage (.notForeignKey name entity.typeName))
  match target with
  | none => pure ()
  | some id =>
    let target : EntityRef := ⟨relation.target, id⟩
    if !store.contains target then throw (.storage (.missingKeyTarget target))
  let record ← store.record entity
  let keys := match target with
    | some id => record.foreignKeys.insert name id
    | none => record.foreignKeys.erase name
  let after := store.putRecord entity { record with foreignKeys := keys }
  return seenDone () after (.entity entity .updated)

/-- The foreign keys that can point at entities of a model: the model they are stored on and their
name. -/
def keysToward (store : Store) (type : TypeName) : List (TypeName × String) :=
  match store.catalog.model? type with
  | none => []
  | some model => model.relations.values.filterMap fun relation =>
    match relation.kind with
    | .reverseForeignKey field => some (relation.target, field)
    | _ => none

def clearKeys (keys : List (TypeName × String)) (id : Nat) (holder : EntityRef) (record : Record) :
    Record :=
  keys.foldl (fun record (type, field) =>
    if holder.typeName = type ∧ record.foreignKeys.get? field = some id then
      { record with foreignKeys := record.foreignKeys.erase field }
    else record) record

def involves (junction : Junction) (entity : EntityRef) (link : Link) : Bool :=
  (junction.left = entity.typeName && link.left = entity.id) ||
    (junction.right = entity.typeName && link.right = entity.id)

def dropLinks (store : Store) (entity : EntityRef) : SortedMap String (SortedSet Link) :=
  store.links.map fun name links =>
    match store.catalog.junction? name with
    | none => links
    | some junction => links.filter fun link _ => !involves junction entity link

def without (store : Store) (entity : EntityRef) : Store :=
  { store with
    records := (store.records.erase entity).map
      (clearKeys (store.keysToward entity.typeName) entity.id)
    links := store.dropLinks entity }

def delete (store : Store) (entity : EntityRef) : Except SearchError (Outcome Unit) :=
  -- Observers are told while the entity is still there, so that what leads to it can be found.
  if store.contains entity then
    .ok { answer := (), after := store.without entity
          notice? := some ⟨.entity entity .deleted, store⟩ }
  else .error (.notFound (.entity entity))

/-- A many-to-many relation: its junction, the side of its source and its target. -/
def junctionOf (store : Store) (entity : EntityRef) (name : String) :
    Except SearchError (String × Side × TypeName) := do
  let relation ← store.relation entity.typeName name
  match relation.junction? with
  | some (junction, side) => return (junction, side, relation.target)
  | none => throw (.storage (.notManyToMany name entity.typeName))

def linkSet (store : Store) (junction : String) : SortedSet Link :=
  (store.links.get? junction).getD .empty

def link (store : Store) (entity : EntityRef) (name : String) (targets : List Nat) :
    Except SearchError (Outcome Unit) := do
  let (junction, side, type) ← store.junctionOf entity name
  let _ ← store.record entity
  match targets.find? fun id => !store.contains ⟨type, id⟩ with
  | some id => throw (.storage (.missingLinkTarget ⟨type, id⟩))
  | none => pure ()
  let links := store.linkSet junction
  let added := distinct (targets.filter fun id => !links.contains (Link.ofSide side entity.id id))
  let linked := added.foldl (fun links id => links.add (Link.ofSide side entity.id id)) links
  -- A junction counts as used from the first call on, even if the call links nothing.
  let after := { store with links := store.links.insert junction linked }
  if added.isEmpty then return { answer := (), after, notice? := none }
  return seenDone () after (.link junction .added side entity (added.map (EntityRef.mk type)))

def unlink (store : Store) (entity : EntityRef) (name : String) (targets : List Nat) :
    Except SearchError (Outcome Unit) := do
  let (junction, side, type) ← store.junctionOf entity name
  let links := store.linkSet junction
  let existing := targets.filter fun id => links.contains (Link.ofSide side entity.id id)
  if existing.isEmpty then return { answer := (), after := store, notice? := none }
  -- As with a deletion, observers still see what is to go.
  let left := existing.foldl (fun links id => links.erase (Link.ofSide side entity.id id)) links
  return { answer := (), after := { store with links := store.links.insert junction left }
           notice? := some ⟨.link junction .removed side entity (existing.map (EntityRef.mk type)),
             store⟩ }

end Store
end EntitySearch
