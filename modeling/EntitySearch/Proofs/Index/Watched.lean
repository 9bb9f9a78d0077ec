import EntitySearch.Index.Watch
import EntitySearch.Proofs.Index.Building

/-!
# What a watch keeps

Registering makes sure that every path can be walked, so a registry can always be watched.  A watch
keeps, for every step of every field, the relations that lead back from where the step ends, and for
every step through a junction those that lead back from either side.

Main statements: `mem_models`, `exists_watched_model`, `exists_watched_junction`.
-/
set_option autoImplicit false
namespace EntitySearch

open Catalog (Hop)

namespace Registry
variable {registry : Registry}

/-! ## What is watched -/

theorem relatedSteps_eq (orderly : registry.Orderly) :
    registry.relatedSteps = .ok ((registry.entityTypes.flatMap fun type =>
      type.relatedFields.map fun field => (type.name, field)).map fun owned =>
        (owned.1, owned.2,
          registry.catalog.stepsAlong owned.1 owned.2.path.relations)) := by
  refine mapM_eq_ok fun owned member => ?_
  obtain ⟨type, isType, inType⟩ := List.mem_flatMap.1 member
  obtain ⟨field, isRelated, rfl⟩ := List.mem_map.1 inType
  have stored := orderly.mem_entityTypes.1 isType
  obtain ⟨steps, walked⟩ := orderly.walkable _ _ stored field (List.mem_filter.1 isRelated).1
  simp [Registry.steps, walked, Catalog.stepsAlong_eq walked, Except.mapError, Except.map]

theorem mem_relatedSteps_iff (orderly : registry.Orderly)
    {found : List (TypeName × Field × List Hop)} (searched : registry.relatedSteps = .ok found)
    {owner : TypeName} {field : Field} {steps : List Hop} :
    (owner, field, steps) ∈ found ↔ ∃ type ∈ registry.entityTypes, type.name = owner ∧
      field ∈ type.fields ∧ field.isRelated ∧
        registry.catalog.hops owner field.path.relations = .ok steps := by
  rw [relatedSteps_eq orderly] at searched
  cases searched
  simp only [List.mem_map, List.mem_flatMap, EntityType.relatedFields, List.mem_filter]
  constructor
  · rintro ⟨owned, ⟨type, isType, related, ⟨isField, isRelated⟩, rfl⟩, same⟩
    cases same
    have stored := orderly.mem_entityTypes.1 isType
    obtain ⟨steps, walked⟩ := orderly.walkable _ _ stored related isField
    refine ⟨type, isType, rfl, isField, isRelated, ?_⟩
    rw [walked, Catalog.stepsAlong_eq walked]
  · rintro ⟨type, isType, rfl, isField, isRelated, walked⟩
    refine ⟨(type.name, field), ⟨type, isType, field, ⟨isField, isRelated⟩, rfl⟩, ?_⟩
    rw [Catalog.stepsAlong_eq walked]

theorem isRelated_of_takes {catalog : Catalog} {model : TypeName} {field : Field}
    {first rest : List Hop} {hop : Hop}
    (walked : catalog.hops model field.path.relations = .ok (first ++ hop :: rest)) :
    field.isRelated := by
  cases path : field.path.relations with
  | nil =>
      rw [path] at walked
      cases first <;> cases walked
  | cons name later => simp [Field.isRelated, Path.isRelated, path]

theorem mem_mapIdx_take {α β : Type} (entry : List α → α → β) {l : List α} {b : β} :
    b ∈ l.mapIdx (fun i a => entry (l.take i) a) ↔
      ∃ first a rest, l = first ++ a :: rest ∧ b = entry first a := by
  rw [List.mem_mapIdx]
  constructor
  · rintro ⟨i, inside, rfl⟩
    refine ⟨l.take i, l[i], l.drop (i + 1), ?_, rfl⟩
    rw [List.getElem_cons_drop, List.take_append_drop]
  · rintro ⟨first, a, rest, rfl, rfl⟩
    exact ⟨first.length, by simp, by simp⟩

theorem mem_modelsOnWay {owner : TypeName} {field : Field} {steps : List Hop}
    {watched : WatchedModel} :
    watched ∈ modelsOnWay owner field steps ↔ ∃ first hop rest, steps = first ++ hop :: rest ∧
      watched = ⟨owner, field.name, hop.relation.target, wayBack (first ++ [hop])⟩ := by
  have cut : modelsOnWay owner field steps = steps.mapIdx fun i hop =>
      (⟨owner, field.name, hop.relation.target, wayBack (steps.take i ++ [hop])⟩ :
        WatchedModel) := by
    rw [modelsOnWay]
    refine List.mapIdx_eq_mapIdx_iff.2 fun i inside => ?_
    rw [List.take_succ_eq_append_getElem inside]
  rw [cut]
  exact mem_mapIdx_take fun (first : List Hop) (hop : Hop) =>
    (⟨owner, field.name, hop.relation.target, wayBack (first ++ [hop])⟩ : WatchedModel)

theorem mem_junctionsOnWay {owner : TypeName} {field : Field} {steps : List Hop}
    {watched : WatchedJunction} :
    watched ∈ junctionsOnWay owner field steps ↔ ∃ first hop rest, steps = first ++ hop :: rest ∧
      junctionOfStep owner field hop (wayBack first) (wayBack (first ++ [hop])) = some watched := by
  have cut : (steps.mapIdx fun i hop => junctionOfStep owner field hop (wayBack (steps.take i))
      (wayBack (steps.take (i + 1)))) = steps.mapIdx fun i hop =>
        junctionOfStep owner field hop (wayBack (steps.take i))
          (wayBack (steps.take i ++ [hop])) := by
    refine List.mapIdx_eq_mapIdx_iff.2 fun i inside => ?_
    rw [List.take_succ_eq_append_getElem inside]
  have entries := @mem_mapIdx_take _ _ (fun first hop =>
    junctionOfStep owner field hop (wayBack first) (wayBack (first ++ [hop]))) steps (some watched)
  rw [junctionsOnWay, cut, List.mem_filterMap]
  constructor
  · rintro ⟨entry, member, rfl⟩
    obtain ⟨first, hop, rest, split, same⟩ := entries.1 member
    exact ⟨first, hop, rest, split, same.symm⟩
  · rintro ⟨first, hop, rest, split, same⟩
    exact ⟨some watched, entries.2 ⟨first, hop, rest, split, same.symm⟩, rfl⟩

end Registry

def WatchedJunction.wayFrom (watched : WatchedJunction) : Side → List String
  | .left => watched.leftWayBack
  | .right => watched.rightWayBack

theorem Registry.junctionOfStep_eq_some {owner : TypeName} {field : Field} {hop : Hop}
    {near far : List String} {watched : WatchedJunction} :
    Registry.junctionOfStep owner field hop near far = some watched →
      ∃ side, hop.relation.kind = .manyToMany watched.junction side ∧ watched.owner = owner ∧
        watched.wayFrom side = near ∧ watched.wayFrom side.other = far := by
  intro found
  unfold junctionOfStep Relation.junction? at found
  cases kind : hop.relation.kind with
  | foreignKey =>
      rw [kind] at found
      cases found
  | reverseForeignKey field =>
      rw [kind] at found
      cases found
  | manyToMany junction side =>
      rw [kind] at found
      cases side with
      | left =>
          cases found
          exact ⟨.left, rfl, rfl, rfl, rfl⟩
      | right =>
          cases found
          exact ⟨.right, rfl, rfl, rfl, rfl⟩

theorem Registry.exists_junctionOfStep (owner : TypeName) (field : Field) {hop : Hop}
    (near far : List String) {junction : String} {side : Side}
    (through : hop.relation.kind = .manyToMany junction side) :
    ∃ watched, Registry.junctionOfStep owner field hop near far = some watched := by
  unfold junctionOfStep Relation.junction?
  rw [through]
  cases side <;> exact ⟨_, rfl⟩

namespace Watch
variable {registry : Registry} {watch : Watch}

theorem exists_ofRegistry (orderly : registry.Orderly) :
    ∃ watch, Watch.ofRegistry registry = .ok watch := by
  simp only [ofRegistry, Registry.watchedModels, Registry.watchedJunctions,
    Registry.relatedSteps_eq orderly, Except.map]
  exact ⟨_, rfl⟩

theorem ofRegistry_eq_ok (watching : Watch.ofRegistry registry = .ok watch) :
    watch.registry = registry ∧ registry.watchedModels = .ok watch.models ∧
      registry.watchedJunctions = .ok watch.junctions := by
  obtain ⟨models, foundModels, watching⟩ := bind_eq_ok watching
  obtain ⟨junctions, foundJunctions, watching⟩ := bind_eq_ok watching
  cases watching
  exact ⟨rfl, foundModels, foundJunctions⟩

/-- A watch lists what is on the ways of the fields, and each way back once. -/
theorem listed_of_ofRegistry (orderly : registry.Orderly)
    (watching : Watch.ofRegistry registry = .ok watch) :
    ∃ found, registry.relatedSteps = .ok found ∧
      watch.models = distinctBy WatchedModel.sameWay
        (found.flatMap fun e => Registry.modelsOnWay e.1 e.2.1 e.2.2) ∧
      watch.junctions = distinctBy WatchedJunction.sameWays
        (found.flatMap fun e => Registry.junctionsOnWay e.1 e.2.1 e.2.2) := by
  obtain ⟨-, models, junctions⟩ := ofRegistry_eq_ok watching
  unfold Registry.watchedModels at models
  unfold Registry.watchedJunctions at junctions
  rw [Registry.relatedSteps_eq orderly] at models junctions ⊢
  exact ⟨_, rfl, (Except.ok.inj models).symm, (Except.ok.inj junctions).symm⟩

/-- Every step is watched from where it ends. -/
theorem exists_watched_model (orderly : registry.Orderly)
    (watching : Watch.ofRegistry registry = .ok watch) {type : EntityType}
    (isType : type ∈ registry.entityTypes) {first : List Hop} {hop : Hop}
    (takes : type.Takes registry.catalog first hop) :
    ∃ watched ∈ watch.models, watched.owner = type.name ∧
      watched.related = hop.relation.target ∧ watched.wayBack = wayBack (first ++ [hop]) := by
  obtain ⟨found, searched, listed, -⟩ := listed_of_ofRegistry orderly watching
  obtain ⟨field, isField, rest, walked⟩ := takes
  have inFound := (Registry.mem_relatedSteps_iff orderly searched).2
    ⟨type, isType, rfl, isField, Registry.isRelated_of_takes walked, walked⟩
  have onWay : (⟨type.name, field.name, hop.relation.target, wayBack (first ++ [hop])⟩ :
      WatchedModel) ∈ Registry.modelsOnWay type.name field (first ++ hop :: rest) :=
    Registry.mem_modelsOnWay.2 ⟨first, hop, rest, rfl, rfl⟩
  have member : _ ∈ found.flatMap fun e => Registry.modelsOnWay e.1 e.2.1 e.2.2 :=
    List.mem_flatMap.2 ⟨_, inFound, onWay⟩
  have self : ∀ entry : WatchedModel, entry.sameWay entry := by simp [WatchedModel.sameWay]
  obtain ⟨watched, kept, same⟩ := exists_same_mem_distinctBy member (self _)
  simp only [WatchedModel.sameWay, Bool.and_eq_true, decide_eq_true_eq] at same
  exact ⟨watched, listed ▸ kept, same.1.1, same.1.2, same.2⟩

theorem mem_models (orderly : registry.Orderly)
    (watching : Watch.ofRegistry registry = .ok watch) {related : TypeName}
    {way : List String} :
    (∃ watched ∈ watch.models, watched.related = related ∧ watched.wayBack = way) ↔
      ∃ type ∈ registry.entityTypes, ∃ first hop, type.Takes registry.catalog first hop ∧
        related = hop.relation.target ∧ way = wayBack (first ++ [hop]) := by
  constructor
  · rintro ⟨watched, kept, rfl, rfl⟩
    obtain ⟨found, searched, listed, -⟩ := listed_of_ofRegistry orderly watching
    obtain ⟨⟨owner, field, steps⟩, inFound, onWay⟩ :=
      List.mem_flatMap.1 (mem_of_mem_distinctBy (listed ▸ kept))
    obtain ⟨type, isType, rfl, isField, -, walked⟩ :=
      (Registry.mem_relatedSteps_iff orderly searched).1 inFound
    obtain ⟨first, hop, rest, rfl, rfl⟩ := Registry.mem_modelsOnWay.1 onWay
    exact ⟨type, isType, first, hop, ⟨field, isField, rest, walked⟩, rfl, rfl⟩
  · rintro ⟨type, isType, first, hop, takes, rfl, rfl⟩
    obtain ⟨watched, isWatched, -, sameEnd, sameWay⟩ :=
      exists_watched_model orderly watching isType takes
    exact ⟨watched, isWatched, sameEnd, sameWay⟩

/-- Every step through a junction is watched from both sides. -/
theorem exists_watched_junction (orderly : registry.Orderly)
    (watching : Watch.ofRegistry registry = .ok watch) {type : EntityType}
    (isType : type ∈ registry.entityTypes) {first : List Hop} {hop : Hop}
    (takes : type.Takes registry.catalog first hop) {junction : String} {side : Side}
    (through : hop.relation.kind = .manyToMany junction side) :
    ∃ watched ∈ watch.junctions, watched.junction = junction ∧ watched.owner = type.name ∧
      watched.wayFrom side = wayBack first ∧
        watched.wayFrom side.other = wayBack (first ++ [hop]) := by
  obtain ⟨found, searched, -, listed⟩ := listed_of_ofRegistry orderly watching
  obtain ⟨field, isField, rest, walked⟩ := takes
  have inFound := (Registry.mem_relatedSteps_iff orderly searched).2
    ⟨type, isType, rfl, isField, Registry.isRelated_of_takes walked, walked⟩
  obtain ⟨entry, ofStep⟩ := Registry.exists_junctionOfStep type.name field (wayBack first)
    (wayBack (first ++ [hop])) through
  have onWay := Registry.mem_junctionsOnWay.2 ⟨first, hop, rest, rfl, ofStep⟩
  have member : entry ∈ found.flatMap fun e => Registry.junctionsOnWay e.1 e.2.1 e.2.2 :=
    List.mem_flatMap.2 ⟨_, inFound, onWay⟩
  have self : entry.sameWays entry := by simp [WatchedJunction.sameWays]
  obtain ⟨watched, kept, same⟩ := exists_same_mem_distinctBy member self
  simp only [WatchedJunction.sameWays, Bool.and_eq_true, decide_eq_true_eq] at same
  obtain ⟨⟨⟨sameJunction, sameOwner⟩, sameLeft⟩, sameRight⟩ := same
  obtain ⟨side', through', owned, near, far⟩ := Registry.junctionOfStep_eq_some ofStep
  rw [through] at through'
  cases through'
  refine ⟨watched, listed ▸ kept, sameJunction, sameOwner.trans owned, ?_, ?_⟩
  · rw [← near]
    cases side
    · exact sameLeft
    · exact sameRight
  · rw [← far]
    cases side
    · exact sameRight
    · exact sameLeft

end Watch
end EntitySearch
