import EntitySearch.Proofs.Index.Watched

/-!
# The jobs that changes cause

A document shows an entity if the steps of one of its fields lead to the entity.  A change of an
entity causes jobs for exactly the documents that show it, in the store as observers see it; a
change of links causes jobs for all documents whose steps cross one of the links.

Main statements: `mem_jobsOn_entity`, `mem_jobsOn_link` and, whatever is registered,
`jobsOn_entity_eq`.
-/
set_option autoImplicit false
namespace EntitySearch

open Catalog (Hop backward)

/-- The document of `owner` shows `entity`: some steps of one of its fields lead there. -/
def Registry.Shows (registry : Registry) (store : Store) (owner entity : EntityRef) : Prop :=
  ∃ type ∈ registry.entityTypes, owner.typeName = type.name ∧
    ∃ first hop, type.Takes registry.catalog first hop ∧
      store.Leads none (first ++ [hop]) owner entity

def Reaction.job? : Reaction → Option IndexJob
  | .enqueue job => some job
  | .report _ => none

namespace Watch

def jobsOn (watch : Watch) (view : StoreView) (event : ChangeEvent) : List IndexJob :=
  (watch.onChange view event).filterMap Reaction.job?

theorem mem_jobsOn {watch : Watch} {view : StoreView} {event : ChangeEvent} {job : IndexJob} :
    job ∈ watch.jobsOn view event ↔ .enqueue job ∈ watch.onChange view event := by
  rw [jobsOn, List.mem_filterMap]
  constructor
  · rintro ⟨reaction, member, isJob⟩
    cases reaction with
    | enqueue other =>
        cases isJob
        exact member
    | report entry => cases isJob
  · intro member
    exact ⟨.enqueue job, member, rfl⟩

theorem mem_reactions {job : IndexJob} {jobOf : EntityRef → IndexJob} {findings : List Finding} :
    .enqueue job ∈ reactions jobOf findings ↔
      ∃ owner, .ok owner ∈ findings ∧ job = jobOf owner := by
  rw [reactions, List.mem_map]
  constructor
  · rintro ⟨finding, kept, isJob⟩
    cases finding with
    | error entry => cases isJob
    | ok owner =>
        cases isJob
        exact ⟨owner, mem_of_mem_distinctBy kept, rfl⟩
  · rintro ⟨owner, found, rfl⟩
    have self : sameEntity (.ok owner) (.ok owner) = true := by simp [sameEntity]
    obtain ⟨finding, kept, same⟩ := exists_same_mem_distinctBy found self
    cases finding with
    | error entry => cases same
    | ok other =>
        obtain rfl : other = owner := by simpa [sameEntity] using same
        exact ⟨.ok other, kept, rfl⟩

def findings (watch : Watch) (view : StoreView) (entity : EntityRef) : List Finding :=
  (watch.models.filter fun watched => watched.related = entity.typeName).flatMap
    (ownersOfChange view entity)

theorem jobsOn_entity_append (watch : Watch) (view : StoreView) (entity : EntityRef)
    (change : EntityChange) :
    watch.jobsOn view (.entity entity change) =
      (if (watch.registry.lookup entity.typeName).isSome then [ownJob entity change] else []) ++
        (reactions (ownerJob entity change) (watch.findings view entity)).filterMap
          Reaction.job? := by
  rw [jobsOn, onChange, onEntity, List.filterMap_append]
  congr 1
  split <;> rfl

theorem ne_of_mem_ownersOfChange {view : StoreView} {entity owner : EntityRef}
    {watched : WatchedModel} (found : .ok owner ∈ ownersOfChange view entity watched) :
    owner ≠ entity := by
  unfold ownersOfChange at found
  split at found
  · obtain ⟨_, kept, same⟩ := List.mem_map.1 found
    cases same
    exact of_decide_eq_true (List.mem_filter.1 kept).2
  · cases List.mem_singleton.1 found

/-- The own job of a changed entity comes first, if its name is in use; the others are for other
entities. -/
theorem jobsOn_entity_eq (watch : Watch) (view : StoreView) (entity : EntityRef)
    (change : EntityChange) :
    ∃ others, watch.jobsOn view (.entity entity change) =
        (if (watch.registry.lookup entity.typeName).isSome then [ownJob entity change] else []) ++
          others ∧
      ∀ job ∈ others, ∃ owner, owner ≠ entity ∧ job = ownerJob entity change owner := by
  refine ⟨_, watch.jobsOn_entity_append view entity change, fun job member => ?_⟩
  obtain ⟨reaction, reacted, isJob⟩ := List.mem_filterMap.1 member
  cases reaction with
  | report entry => cases isJob
  | enqueue other =>
      cases isJob
      obtain ⟨owner, found, rfl⟩ := mem_reactions.1 reacted
      obtain ⟨watched, -, inOwners⟩ := List.mem_flatMap.1 found
      exact ⟨owner, ne_of_mem_ownersOfChange inOwners, rfl⟩

theorem job_of_entity {watch : Watch} {view : StoreView} {entity : EntityRef}
    {change : EntityChange} {job : IndexJob}
    (member : job ∈ watch.jobsOn view (.entity entity change)) :
    job = ownJob entity change ∨
      ∃ owner, owner ≠ entity ∧ job = ownerJob entity change owner := by
  obtain ⟨others, jobs, isOther⟩ := watch.jobsOn_entity_eq view entity change
  rw [jobs] at member
  rcases List.mem_append.1 member with isOwn | inOthers
  · split at isOwn
    · exact Or.inl (List.mem_singleton.1 isOwn)
    · cases isOwn
  · exact Or.inr (isOther job inOthers)

theorem job_of_done {watch : Watch} {view : StoreView} {entity : EntityRef} {change : EntityChange}
    (done : change ≠ .deleted) {job : IndexJob}
    (member : job ∈ watch.jobsOn view (.entity entity change)) :
    ∃ owner, job = .index owner none := by
  cases change with
  | deleted => exact absurd rfl done
  | created =>
      rcases job_of_entity member with rfl | ⟨owner, -, rfl⟩
      · exact ⟨entity, rfl⟩
      · exact ⟨owner, rfl⟩
  | updated =>
      rcases job_of_entity member with rfl | ⟨owner, -, rfl⟩
      · exact ⟨entity, rfl⟩
      · exact ⟨owner, rfl⟩

variable {registry : Registry} {watch : Watch} {store : Store}

/-! ## Walking back to the owners -/

/-- Walking back along watched steps finds the entities that those steps lead from. -/
theorem resolve_wayBack (paired : store.catalog.Paired) {model target : TypeName}
    {steps : List Hop} (connects : store.catalog.Connects model steps target)
    {entity : EntityRef} (typed : entity.typeName = target) :
    ∃ owners, store.view.resolve entity (wayBack steps) = .ok owners ∧
      ∀ owner, owner ∈ owners ↔ owner.typeName = model ∧ store.Leads none steps owner entity := by
  have back := Catalog.connects_backward paired connects
  rw [← typed] at back
  refine ⟨store.walk none (backward steps) [entity], ?_, fun owner => ?_⟩
  · rw [Catalog.wayBack_eq]
    exact Store.resolve_eq_walk back
  · rw [Store.mem_walk]
    constructor
    · rintro ⟨source, isEntity, leads⟩
      obtain rfl := List.mem_singleton.1 isEntity
      have typedOwner : owner.typeName = model := Store.typeName_of_leads back leads
      refine ⟨typedOwner, ?_⟩
      exact (Store.leads_backward paired (typedOwner ▸ connects) typed).1 leads
    · rintro ⟨typedOwner, leads⟩
      refine ⟨entity, List.mem_singleton.2 rfl, ?_⟩
      exact (Store.leads_backward paired (typedOwner ▸ connects) typed).2 leads

theorem mem_ownersOfChange {watched : WatchedModel} {entity owner : EntityRef}
    {owners : List EntityRef}
    (resolved : store.view.resolve entity watched.wayBack = .ok owners) :
    .ok owner ∈ ownersOfChange store.view entity watched ↔ owner ∈ owners ∧ owner ≠ entity := by
  simp [ownersOfChange, resolved]

theorem connects_snoc (paired : registry.catalog.Paired) {type : EntityType} {first : List Hop}
    {hop : Hop} (takes : type.Takes registry.catalog first hop) :
    registry.catalog.Connects type.name (first ++ [hop]) hop.relation.target := by
  obtain ⟨before, stored⟩ := Registry.connects_of_takes paired takes
  exact Catalog.connects_append.2 ⟨hop.source, before, rfl, stored, rfl⟩

theorem resolve_takes (paired : registry.catalog.Paired)
    (onCatalog : store.catalog = registry.catalog) {type : EntityType} {first : List Hop}
    {hop : Hop} (takes : type.Takes registry.catalog first hop) {entity : EntityRef}
    (typed : entity.typeName = hop.relation.target) :
    ∃ owners, store.view.resolve entity (wayBack (first ++ [hop])) = .ok owners ∧
      ∀ owner, owner ∈ owners ↔
        owner.typeName = type.name ∧ store.Leads none (first ++ [hop]) owner entity := by
  have connects := connects_snoc paired takes
  rw [← onCatalog] at paired connects
  exact resolve_wayBack paired connects typed

theorem takes_of_mem_models (orderly : registry.Orderly)
    (watching : Watch.ofRegistry registry = .ok watch) {entity : EntityRef}
    {watched : WatchedModel}
    (member : watched ∈ watch.models.filter fun watched => watched.related = entity.typeName) :
    ∃ type ∈ registry.entityTypes, ∃ first hop, type.Takes registry.catalog first hop ∧
      entity.typeName = hop.relation.target ∧ watched.wayBack = wayBack (first ++ [hop]) := by
  obtain ⟨isWatched, related⟩ := List.mem_filter.1 member
  obtain ⟨type, isType, first, hop, takes, sameRelated, sameWay⟩ :=
    (mem_models orderly watching).1 ⟨watched, isWatched, rfl, rfl⟩
  refine ⟨type, isType, first, hop, takes, ?_, sameWay⟩
  rw [← sameRelated, of_decide_eq_true related]

/-- The owners that a watch finds for a changed entity are those whose documents show it. -/
theorem mem_findings (paired : registry.catalog.Paired) (orderly : registry.Orderly)
    (watching : Watch.ofRegistry registry = .ok watch)
    (onCatalog : store.catalog = registry.catalog) {entity owner : EntityRef} :
    .ok owner ∈ watch.findings store.view entity ↔
      owner ≠ entity ∧ registry.Shows store owner entity := by
  rw [findings, List.mem_flatMap]
  constructor
  · rintro ⟨watched, member, found⟩
    obtain ⟨type, isType, first, hop, takes, typed, sameWay⟩ :=
      takes_of_mem_models orderly watching member
    obtain ⟨owners, resolved, leads⟩ := resolve_takes paired onCatalog takes typed
    rw [← sameWay] at resolved
    obtain ⟨inOwners, other⟩ := (mem_ownersOfChange resolved).1 found
    obtain ⟨typedOwner, leadsThere⟩ := (leads owner).1 inOwners
    exact ⟨other, type, isType, typedOwner, first, hop, takes, leadsThere⟩
  · rintro ⟨other, type, isType, typedOwner, first, hop, takes, leadsThere⟩
    have connects := connects_snoc paired takes
    have typed := Store.typeName_of_leads (typedOwner ▸ connects) leadsThere
    obtain ⟨watched, isWatched, related, way⟩ :=
      (mem_models orderly watching).2 ⟨type, isType, first, hop, takes, rfl, rfl⟩
    obtain ⟨owners, resolved, leads⟩ := resolve_takes paired onCatalog takes typed
    rw [← way] at resolved
    refine ⟨watched, List.mem_filter.2 ⟨isWatched, ?_⟩, ?_⟩
    · exact decide_eq_true (related.trans typed.symm)
    · exact (mem_ownersOfChange resolved).2 ⟨(leads owner).2 ⟨typedOwner, leadsThere⟩, other⟩

theorem ok_of_mem_findings (paired : registry.catalog.Paired) (orderly : registry.Orderly)
    (watching : Watch.ofRegistry registry = .ok watch)
    (onCatalog : store.catalog = registry.catalog) {entity : EntityRef} {finding : Finding}
    (member : finding ∈ watch.findings store.view entity) : ∃ owner, finding = .ok owner := by
  obtain ⟨watched, isWatched, found⟩ := List.mem_flatMap.1 member
  obtain ⟨type, isType, first, hop, takes, typed, sameWay⟩ :=
    takes_of_mem_models orderly watching isWatched
  obtain ⟨owners, resolved, -⟩ := resolve_takes paired onCatalog takes typed
  rw [← sameWay] at resolved
  simp only [ownersOfChange, resolved, List.mem_map] at found
  obtain ⟨owner, -, isOwner⟩ := found
  exact ⟨owner, isOwner.symm⟩

theorem mem_jobsOn_entity (paired : registry.catalog.Paired) (orderly : registry.Orderly)
    (watching : Watch.ofRegistry registry = .ok watch)
    (onCatalog : store.catalog = registry.catalog)
    {entity : EntityRef} {change : EntityChange} {job : IndexJob} :
    job ∈ watch.jobsOn store.view (.entity entity change) ↔
      ((registry.lookup entity.typeName).isSome ∧ job = ownJob entity change) ∨
        ∃ owner, owner ≠ entity ∧ registry.Shows store owner entity ∧
          job = ownerJob entity change owner := by
  have watched := (ofRegistry_eq_ok watching).1
  rw [mem_jobsOn, onChange, onEntity, watched, List.mem_append, mem_reactions]
  apply or_congr
  · split
    · next registered => simp [registered]
    · next unregistered => simp [unregistered]
  · apply exists_congr
    intro owner
    rw [← and_assoc, ← mem_findings paired orderly watching onCatalog, findings]

/-! ## Changes of links -/

theorem exists_of_mem_jobsOn_link {view : StoreView} {junction : String} {change : LinkChange}
    {side : Side} {anchor : EntityRef} {linked : List EntityRef} {job : IndexJob}
    (member : job ∈ watch.jobsOn view (.link junction change side anchor linked)) :
    ∃ owner, job = .index owner (linkExclusion junction change side anchor linked) := by
  rw [mem_jobsOn, onChange, onLinks, mem_reactions] at member
  obtain ⟨owner, -, isJob⟩ := member
  exact ⟨owner, isJob⟩

theorem ownersFrom_eq_ok {view : StoreView} {junction : String} {way : List String}
    {end_ : EntityRef} {owners : List EntityRef} :
    ownersFrom view junction way end_ = .ok owners ↔ view.resolve end_ way = .ok owners := by
  unfold ownersFrom
  cases view.resolve end_ way with
  | error e => simp [Except.mapError]
  | ok found => simp [Except.mapError]

def walksOfLinks (view : StoreView) (side : Side) (anchor : EntityRef) (linked : List EntityRef)
    (watched : WatchedJunction) : List (Except LogEntry (List EntityRef)) :=
  ownersFrom view watched.junction (watched.wayFrom side) anchor ::
    linked.map (ownersFrom view watched.junction (watched.wayFrom side.other))

theorem mem_walksOfLinks {view : StoreView} {side : Side} {anchor : EntityRef}
    {linked owners : List EntityRef} {watched : WatchedJunction} :
    .ok owners ∈ walksOfLinks view side anchor linked watched ↔ ∃ endSide found,
      ((endSide = side ∧ found = anchor) ∨ (endSide = side.other ∧ found ∈ linked)) ∧
        view.resolve found (watched.wayFrom endSide) = .ok owners := by
  simp only [walksOfLinks, List.mem_cons, List.mem_map, ownersFrom_eq_ok,
    eq_comm (a := Except.ok _)]
  constructor
  · rintro (walked | ⟨found, inLinked, walked⟩)
    · exact ⟨side, anchor, .inl ⟨rfl, rfl⟩, walked⟩
    · exact ⟨side.other, found, .inr ⟨rfl, inLinked⟩, walked⟩
  · rintro ⟨_, found, ⟨rfl, rfl⟩ | ⟨rfl, inLinked⟩, walked⟩
    · exact .inl walked
    · exact .inr ⟨found, inLinked, walked⟩

theorem mem_ownersOfLinks {view : StoreView} {side : Side} {anchor owner : EntityRef}
    {linked : List EntityRef} {watched : WatchedJunction} :
    .ok owner ∈ ownersOfLinks view side anchor linked watched ↔
      owner.typeName = watched.owner ∧ ∃ endSide found owners,
        ((endSide = side ∧ found = anchor) ∨ (endSide = side.other ∧ found ∈ linked)) ∧
          view.resolve found (watched.wayFrom endSide) = .ok owners ∧ owner ∈ owners := by
  -- Reports first, then what each walk that succeeds has of owners.
  obtain ⟨reports, owned, split, ofError, ofOk⟩ :
      ∃ (reports : List LogEntry) (owned : Except LogEntry (List EntityRef) → List EntityRef),
        ownersOfLinks view side anchor linked watched = reports.map .error ++
          ((walksOfLinks view side anchor linked watched).flatMap owned).map .ok ∧
        (∀ entry, owned (.error entry) = []) ∧
        ∀ owners, owned (.ok owners) =
          owners.filter fun owner => owner.typeName = watched.owner := by
    cases side <;> exact ⟨_, _, rfl, fun _ => rfl, fun _ => rfl⟩
  have isFound : .ok owner ∈ ownersOfLinks view side anchor linked watched ↔
      owner ∈ (walksOfLinks view side anchor linked watched).flatMap owned := by
    rw [split, List.mem_append, List.mem_map_of_injective fun _ _ => Except.ok.inj]
    simp only [List.mem_map, reduceCtorEq, and_false, exists_false, false_or]
  rw [isFound, List.mem_flatMap]
  constructor
  · rintro ⟨_ | owners, isWalk, kept⟩
    · rw [ofError] at kept
      cases kept
    · rw [ofOk] at kept
      obtain ⟨endSide, found, isEnd, walked⟩ := mem_walksOfLinks.1 isWalk
      obtain ⟨inOwners, typed⟩ := List.mem_filter.1 kept
      exact ⟨of_decide_eq_true typed, endSide, found, owners, isEnd, walked, inOwners⟩
  · rintro ⟨typed, endSide, found, owners, isEnd, walked, inOwners⟩
    refine ⟨.ok owners, mem_walksOfLinks.2 ⟨endSide, found, isEnd, walked⟩, ?_⟩
    rw [ofOk]
    exact List.mem_filter.2 ⟨inOwners, decide_eq_true typed⟩

/-- A document whose steps come to an end of changed links and cross their junction there gets a
job. -/
theorem mem_jobsOn_link (paired : registry.catalog.Paired) (orderly : registry.Orderly)
    (watching : Watch.ofRegistry registry = .ok watch)
    (onCatalog : store.catalog = registry.catalog)
    {type : EntityType} (isType : type ∈ registry.entityTypes) {first : List Hop} {hop : Hop}
    (takes : type.Takes registry.catalog first hop) {junction : String} {endSide side : Side}
    (through : hop.relation.kind = .manyToMany junction endSide) {owner found anchor : EntityRef}
    (typedOwner : owner.typeName = type.name) (leads : store.Leads none first owner found)
    {linked : List EntityRef}
    (isEnd : (endSide = side ∧ found = anchor) ∨ (endSide = side.other ∧ found ∈ linked))
    (change : LinkChange) :
    .index owner (linkExclusion junction change side anchor linked) ∈
      watch.jobsOn store.view (.link junction change side anchor linked) := by
  obtain ⟨connects, -⟩ := Registry.connects_of_takes paired takes
  have typed : found.typeName = hop.source :=
    Store.typeName_of_leads (typedOwner ▸ connects) leads
  obtain ⟨watched, isWatched, sameJunction, owned, near, -⟩ :=
    exists_watched_junction orderly watching isType takes through
  rw [← onCatalog] at paired connects
  obtain ⟨owners, resolved, inOwners⟩ := resolve_wayBack paired connects typed
  rw [mem_jobsOn, onChange, onLinks, mem_reactions]
  refine ⟨owner, List.mem_flatMap.2 ⟨watched, ?_, ?_⟩, rfl⟩
  · exact List.mem_filter.2 ⟨isWatched, decide_eq_true sameJunction⟩
  · refine mem_ownersOfLinks.2 ⟨typedOwner.trans owned.symm, endSide, found, owners, isEnd, ?_⟩
    exact ⟨near ▸ resolved, (inOwners owner).2 ⟨typedOwner, leads⟩⟩

end Watch
end EntitySearch
