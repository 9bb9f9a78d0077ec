import EntitySearch.Proofs.Registry.Orderly
import EntitySearch.Proofs.Store.Walk

/-!
# What the building of documents reads

`Store.documentOf` is the document of an entity of a registered type, built by unchecked walks.  It
reads the store in few places only: from the entities that the steps of the fields visit, the next
step, and at their ends the attributes.

Main statements: `build_eq_documentOf` (building never fails for a registered type) and
`documentOf_congr` (stores that agree where the walks look have the same document).
-/
set_option autoImplicit false
namespace EntitySearch

open Catalog (Hop)

namespace Store

def fieldTexts (store : Store) (type : EntityType) (entity : EntityRef)
    (exclude : Option Exclusion) (field : Field) : List String :=
  (store.walk exclude (store.catalog.stepsAlong type.name field.path.relations) [entity]).flatMap
    (Document.textsAt store.view field)

def documentOf (store : Store) (type : EntityType) (entity : EntityRef)
    (exclude : Option Exclusion) : Option Document :=
  if store.contains entity then
    some { entity
           fields := SortedMap.ofList (type.fields.map fun field =>
             (field.name, store.fieldTexts type entity exclude field)) }
  else none

variable {store : Store} {registry : Registry} {type : EntityType} {entity : EntityRef}
  {exclude : Option Exclusion}

theorem documentOf_eq_none (absent : store.contains entity = false) :
    store.documentOf type entity exclude = none := by
  simp [documentOf, absent]

theorem isSome_documentOf (store : Store) (type : EntityType) (entity : EntityRef)
    (exclude : Option Exclusion) :
    (store.documentOf type entity exclude).isSome = store.contains entity := by
  unfold documentOf
  cases store.contains entity <;> rfl

theorem fieldTexts_eq (paired : registry.catalog.Paired) (orderly : registry.Orderly)
    (onCatalog : store.catalog = registry.catalog) (member : type ∈ registry.entityTypes)
    (typed : entity.typeName = type.name) {field : Field} (isField : field ∈ type.fields) :
    Document.fieldTexts registry.catalog store.view exclude type.name entity field =
      .ok (store.fieldTexts type entity exclude field) := by
  obtain ⟨steps, target, walked, names, connects⟩ := orderly.connects paired member isField
  have along : store.catalog.stepsAlong type.name field.path.relations = steps := by
    rw [onCatalog, Catalog.stepsAlong_eq walked]
  rw [← onCatalog] at connects
  have reach : Document.reach store.catalog store.view exclude type.name field type.name [entity]
      (steps.map fun hop => hop.relation.name) = .ok (store.walk exclude steps [entity]) :=
    reach_eq_walk connects fun source isEntity => List.mem_singleton.1 isEntity ▸ typed
  rw [Document.fieldTexts, Store.fieldTexts, along, names, ← onCatalog, reach]
  rfl

/-- The document of an entity of a registered type can be built. -/
theorem build_eq_documentOf (paired : registry.catalog.Paired) (orderly : registry.Orderly)
    (onCatalog : store.catalog = registry.catalog) (member : type ∈ registry.entityTypes)
    (typed : entity.typeName = type.name) :
    Document.build registry.catalog store.view type entity exclude =
      .ok (store.documentOf type entity exclude) := by
  have each : ∀ field ∈ type.fields,
      ((Document.fieldTexts registry.catalog store.view exclude type.name entity field).map
        fun texts => (field.name, texts)) =
          .ok (field.name, store.fieldTexts type entity exclude field) := by
    intro field isField
    rw [fieldTexts_eq paired orderly onCatalog member typed isField]
    rfl
  rw [Document.build, documentOf, mapM_eq_ok each]
  change (if store.contains entity then _ else _) = _
  split <;> rfl

theorem documentOf_congr {other : Store} {otherExclude : Option Exclusion}
    (paired : registry.catalog.Paired) (orderly : registry.Orderly)
    (onCatalog : store.catalog = registry.catalog)
    (otherOnCatalog : other.catalog = registry.catalog)
    (member : type ∈ registry.entityTypes)
    (presence : other.contains entity = store.contains entity)
    (steps : ∀ first hop, type.Takes registry.catalog first hop → ∀ visited,
      store.Leads exclude first entity visited →
        other.passable otherExclude hop.relation visited =
          store.passable exclude hop.relation visited)
    (ends : ∀ field ∈ type.fields, ∀ visited,
      store.Leads exclude (registry.catalog.stepsAlong type.name field.path.relations) entity
        visited →
        ∀ attr, other.attr? visited attr = store.attr? visited attr) :
    other.documentOf type entity otherExclude = store.documentOf type entity exclude := by
  have texts : ∀ field ∈ type.fields,
      other.fieldTexts type entity otherExclude field =
        store.fieldTexts type entity exclude field := by
    intro field isField
    obtain ⟨path, target, walked, -, -⟩ := orderly.connects paired member isField
    have along : registry.catalog.stepsAlong type.name field.path.relations = path :=
      Catalog.stepsAlong_eq walked
    have sameWalk : other.walk otherExclude path [entity] = store.walk exclude path [entity] := by
      refine walk_congr fun first hop rest split source isEntity visited leads => ?_
      obtain rfl := List.mem_singleton.1 isEntity
      exact steps first hop ⟨field, isField, rest, split ▸ walked⟩ visited leads
    rw [Store.fieldTexts, Store.fieldTexts, onCatalog, otherOnCatalog, along, sameWalk]
    refine List.flatMap_congr fun visited found => ?_
    obtain ⟨source, isEntity, leads⟩ := mem_walk.1 found
    obtain rfl := List.mem_singleton.1 isEntity
    have sameAttr : other.view.attr? visited field.path.attr =
        store.view.attr? visited field.path.attr :=
      ends field isField visited (along ▸ leads) field.path.attr
    rw [Document.textsAt, Document.textsAt, sameAttr]
  rw [documentOf, documentOf, presence]
  split
  · rw [List.map_congr_left fun field isField => by rw [texts field isField]]
  · rfl

/-- Stores that join the same where the walks from an entity look have the same document of it. -/
theorem documentOf_eq_of_joins {other : Store} {otherExclude : Option Exclusion}
    (grounded : registry.Grounded) (onCatalog : store.catalog = registry.catalog)
    (otherOnCatalog : other.catalog = registry.catalog) (member : type ∈ registry.entityTypes)
    (typed : entity.typeName = type.name)
    (presence : other.contains entity = store.contains entity)
    (steps : ∀ first hop, type.Takes registry.catalog first hop → ∀ visited,
      store.Leads exclude first entity visited → visited.typeName = hop.source →
        registry.catalog.relation? visited.typeName hop.relation.name = some hop.relation →
          ∀ found, found.typeName = hop.relation.target →
            ((other.Joins hop.relation visited found ∧
                Document.passesOver otherExclude hop.relation visited found = false) ↔
              (store.Joins hop.relation visited found ∧
                Document.passesOver exclude hop.relation visited found = false)))
    (ends : ∀ field ∈ type.fields, ∀ visited,
      store.Leads exclude (registry.catalog.stepsAlong type.name field.path.relations) entity
        visited →
        ∀ attr, other.attr? visited attr = store.attr? visited attr) :
    other.documentOf type entity otherExclude = store.documentOf type entity exclude := by
  refine documentOf_congr grounded.paired grounded.orderly onCatalog otherOnCatalog member presence
    ?_ ends
  intro first hop takes visited leads
  obtain ⟨before, stored⟩ := Registry.connects_of_takes grounded.paired takes
  have typedVisited : visited.typeName = hop.source := typeName_of_leads (typed ▸ before) leads
  rw [← typedVisited] at stored
  exact passable_congr (steps first hop takes visited leads typedVisited stored)

end Store
end EntitySearch
