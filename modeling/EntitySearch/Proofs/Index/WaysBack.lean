import EntitySearch.Proofs.Index.Jobs
import EntitySearch.Proofs.Store.References
import EntitySearch.Proofs.Store.Sharing

/-!
# Ways there and ways back

A registry keeps, for every step of the path of a field, the relations that lead back from where the
step ends.  Going there and coming back are converse: an entity is found from an owner along the
beginning of the path just if the owner is found from the entity along the way back, in every store.

Main statements: `converse_of_connects` (any steps of a declared catalog), `ways_back_converse`
(those that a registry keeps).
-/
set_option autoImplicit false
namespace EntitySearch

open Catalog (Hop)

namespace StoreView
variable {view : StoreView}

theorem nodup_resolve {entity : EntityRef} {path : List String} {found : List EntityRef}
    (resolved : view.resolve entity path = .ok found) : found.Nodup := by
  have keeps : ∀ {relation sources next}, sources.Nodup →
      view.follow sources relation = .ok next → next.Nodup := by
    intro relation sources next _ followed
    obtain ⟨reached, -, rfl⟩ := map_eq_ok followed
    exact nodup_distinct _
  exact foldlM_keeps keeps (List.nodup_singleton entity) resolved

/-- Between entities of two types, `way` leads from one to another just if `back` leads from the
other to the one.  Neither fails, and neither finds an entity twice. -/
def Converse (view : StoreView) (start : TypeName) (way : List String) (goal : TypeName)
    (back : List String) : Prop :=
  ∀ owner entity : EntityRef, owner.typeName = start → entity.typeName = goal →
    ∃ found owners, view.resolve owner way = .ok found ∧ view.resolve entity back = .ok owners ∧
      found.Nodup ∧ owners.Nodup ∧ (entity ∈ found ↔ owner ∈ owners)

end StoreView

/-- The names that lead back over some steps are converse to those that the steps follow. -/
theorem Store.converse_of_connects {store : Store} (paired : store.catalog.Paired)
    {start goal : TypeName} {steps : List Hop}
    (connects : store.catalog.Connects start steps goal) :
    store.view.Converse start (steps.map fun hop => hop.relation.name) goal (wayBack steps) := by
  intro owner entity starts ends
  have there := resolve_eq_walk (starts ▸ connects)
  obtain ⟨owners, back, isOwner⟩ := Watch.resolve_wayBack paired connects ends
  refine ⟨_, owners, there, back, StoreView.nodup_resolve there, StoreView.nodup_resolve back, ?_⟩
  rw [mem_walk, isOwner]
  simp [starts]

namespace Registry

theorem takes_of_depth {catalog : Catalog} {type : EntityType} {field : Field}
    (isField : field ∈ type.fields) {steps : List Hop}
    (walked : catalog.hops type.name field.path.relations = .ok steps) {depth : Nat}
    (inside : depth < steps.length) :
    type.Takes catalog (steps.take depth) steps[depth] := by
  refine ⟨field, isField, steps.drop (depth + 1), ?_⟩
  rw [walked, List.getElem_cons_drop, List.take_append_drop]

/-- Over any declared catalog, whatever names its junctions got: a registry keeps for every step of
the path of a related field the way back from where the step ends, and for a step through a junction
those from both of its sides.  In every store over the catalog each is converse to the part of the
path that leads there. -/
theorem ways_back_converse {catalog : Catalog} {names : List String}
    (declared : catalog.Declared names) {types : List EntityType} {registry : Registry}
    (registered : ofTypes catalog types = .ok registry) {store : Store}
    (onCatalog : store.catalog = catalog) :
    ∃ models junctions, registry.watchedModels = .ok models ∧
      registry.watchedJunctions = .ok junctions ∧
      ∀ type ∈ registry.entityTypes, ∀ field ∈ type.relatedFields,
        ∃ steps, registry.steps type.name field = .ok steps ∧
          steps.length = field.path.relations.length ∧
          ∀ depth (inside : depth < steps.length),
            let hop := steps[depth]
            let near := wayBack (steps.take depth)
            let far := wayBack (steps.take (depth + 1))
            store.view.Converse type.name (field.path.relations.take depth) hop.source near ∧
            store.view.Converse type.name (field.path.relations.take (depth + 1))
              hop.relation.target far ∧
            (∃ watched ∈ models, watched.owner = type.name ∧
              watched.related = hop.relation.target ∧ watched.wayBack = far) ∧
            ∀ junction side, hop.relation.kind = .manyToMany junction side →
              ∃ watched ∈ junctions, watched.junction = junction ∧ watched.owner = type.name ∧
                watched.wayFrom side = near ∧ watched.wayFrom side.other = far := by
  obtain ⟨orderly, rfl⟩ := orderly_of_ofTypes registered
  have paired := declared.paired
  have storePaired : store.catalog.Paired := onCatalog ▸ paired
  obtain ⟨watch, watching⟩ := Watch.exists_ofRegistry orderly
  obtain ⟨-, models, junctions⟩ := Watch.ofRegistry_eq_ok watching
  refine ⟨_, _, models, junctions, fun type isType field isRelated => ?_⟩
  have isField := (List.mem_filter.1 isRelated).1
  obtain ⟨steps, target, walked, spelled, -⟩ := orderly.connects paired isType isField
  have asked : registry.steps type.name field = .ok steps := by
    rw [Registry.steps, walked]
    rfl
  refine ⟨steps, asked, by rw [spelled, List.length_map], ?_⟩
  intro depth inside hop near far
  have takes := takes_of_depth isField walked inside
  have before := (connects_of_takes paired takes).1
  have upTo := Watch.connects_snoc paired takes
  have far_eq : steps.take depth ++ [hop] = steps.take (depth + 1) :=
    (List.take_succ_eq_append_getElem inside).symm
  rw [← onCatalog] at before upTo
  refine ⟨?_, ?_, ?_, ?_⟩
  · rw [spelled, ← List.map_take]
    exact Store.converse_of_connects storePaired before
  · rw [spelled, ← List.map_take]
    exact Store.converse_of_connects storePaired (far_eq ▸ upTo)
  · obtain ⟨watched, isWatched, owned, related, way⟩ :=
      Watch.exists_watched_model orderly watching isType takes
    exact ⟨watched, isWatched, owned, related, way.trans (congrArg wayBack far_eq)⟩
  · intro junction side through
    obtain ⟨watched, isWatched, named, owned, nearWay, farWay⟩ :=
      Watch.exists_watched_junction orderly watching isType takes through
    exact ⟨watched, isWatched, named, owned, nearWay, farWay.trans (congrArg wayBack far_eq)⟩

end Registry

namespace Library

/-- From a book one comes to the shelf that its place is part of, and back to the book. -/
theorem book_on_whole_shelf :
    let store := (Store.empty catalog).run furnish
    store.view.Converse book ["place", "whole"] shelf ["parts", "books"] ∧
      store.view.resolve ⟨book, 3⟩ ["place", "whole"] = .ok [⟨shelf, 1⟩] := by
  intro store
  have onCatalog : store.catalog = catalog := Store.catalog_run catalog furnish
  obtain ⟨models, junctions, -, -, ways⟩ :=
    Registry.ways_back_converse declared registered onCatalog
  have isRelated : field "place.whole.code" ["place", "whole"] "code" ∈
      registry.entityTypes[0].relatedFields := List.mem_cons_self ..
  obtain ⟨steps, asked, length, each⟩ := ways _ (List.getElem_mem _) _ isRelated
  cases asked
  exact ⟨(each 1 (by decide)).2.1, rfl⟩

end Library
end EntitySearch
