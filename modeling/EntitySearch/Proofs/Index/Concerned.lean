import EntitySearch.Proofs.Index.Jobs
import EntitySearch.Proofs.Store.Sharing
import EntitySearch.Proofs.Store.References

/-!
# Whom a change concerns

Seen forwards, a change of an entity concerns those that reach it: following the beginning of the
path of some related field from them, step by step, leads to the entity.  A watch walks the other
way, from the entity back along the ways it keeps, and finds just these; whatever of them it finds
along several ways gets one job all the same.

Main statements: `reaches_iff_shows`, `onChange_entity`, `nodup_jobsOn_entity`,
`jobs_exactly_for_concerned`.
-/
set_option autoImplicit false
namespace EntitySearch

open Catalog (Hop)

/-- Does the path of a related field of a registered type begin with relations that lead from
`owner` to `entity`? -/
def Registry.Reaches (registry : Registry) (view : StoreView) (owner entity : EntityRef) : Prop :=
  ∃ type ∈ registry.entityTypes, type.name = owner.typeName ∧
    ∃ field ∈ type.relatedFields, ∃ way, way ≠ [] ∧ way <+: field.path.relations ∧
      ∃ reached, view.resolve owner way = .ok reached ∧ entity ∈ reached

section Reaches
variable {registry : Registry} {store : Store}

theorem reaches_iff_shows (paired : registry.catalog.Paired) (orderly : registry.Orderly)
    (onCatalog : store.catalog = registry.catalog) {owner entity : EntityRef} :
    registry.Reaches store.view owner entity ↔ registry.Shows store owner entity := by
  constructor
  · rintro ⟨type, isType, named, field, isRelated, way, walks, starts, reached, resolved, found⟩
    have isField := (List.mem_filter.1 isRelated).1
    obtain ⟨steps, target, walked, names, connects⟩ := orderly.connects paired isType isField
    -- The way is spelled by the first steps of the field.
    obtain ⟨begun, rest, rfl, rfl⟩ : ∃ begun rest, steps = begun ++ rest ∧
        way = begun.map fun hop => hop.relation.name := by
      obtain ⟨left, whole⟩ := starts
      obtain ⟨begun, rest, split, spelled, -⟩ := List.map_eq_append_iff.1 (names ▸ whole.symm)
      exact ⟨begun, rest, split, spelled.symm⟩
    obtain ⟨first, hop, rfl⟩ : ∃ first hop, begun = first ++ [hop] := by
      refine ⟨begun.dropLast, begun.getLast fun empty => walks (by rw [empty]; rfl), ?_⟩
      exact (List.dropLast_append_getLast _).symm
    have takes : type.Takes registry.catalog first hop := by
      refine ⟨field, isField, rest, ?_⟩
      rw [walked, List.append_assoc, List.singleton_append]
    have along := Watch.connects_snoc paired takes
    rw [named, ← onCatalog] at along
    rw [Store.resolve_eq_walk along] at resolved
    obtain rfl := Except.ok.inj resolved
    obtain ⟨source, isOwner, leads⟩ := Store.mem_walk.1 found
    obtain rfl := List.mem_singleton.1 isOwner
    exact ⟨type, isType, named.symm, first, hop, takes, leads⟩
  · rintro ⟨type, isType, typed, first, hop, takes, leads⟩
    have along := Watch.connects_snoc paired takes
    rw [← typed, ← onCatalog] at along
    obtain ⟨field, isField, rest, walked⟩ := takes
    have isRelated := List.mem_filter.2 ⟨isField, Registry.isRelated_of_takes walked⟩
    obtain ⟨names, -⟩ := Catalog.connects_of_hops paired walked
    refine ⟨type, isType, typed.symm, field, isRelated,
      (first ++ [hop]).map fun hop => hop.relation.name, by simp, ?_, _,
      Store.resolve_eq_walk along, Store.mem_walk.2 ⟨owner, List.mem_singleton.2 rfl, leads⟩⟩
    rw [names]
    exact ⟨rest.map fun hop => hop.relation.name, by simp⟩

end Reaches

theorem Reaction.eq_map_job? {l : List Reaction}
    (reacts : ∀ reaction ∈ l, ∃ job, reaction = .enqueue job) :
    l = (l.filterMap Reaction.job?).map .enqueue := by
  induction l with
  | nil => rfl
  | cons reaction rest ih =>
      obtain ⟨job, rfl⟩ := reacts reaction (List.mem_cons_self ..)
      have later := ih fun other member => reacts other (List.mem_cons_of_mem _ member)
      exact congrArg (enqueue job :: ·) later

namespace Watch

@[simp] theorem entity_ownJob (entity : EntityRef) (change : EntityChange) :
    (ownJob entity change).entity = entity := by
  cases change <;> rfl

@[simp] theorem entity_ownerJob (entity : EntityRef) (change : EntityChange) (owner : EntityRef) :
    (ownerJob entity change owner).entity = owner := by
  cases change <;> rfl

/-- Whatever is found twice is the same entity, so it gets one job. -/
theorem nodup_jobs_reactions {jobOf : EntityRef → IndexJob}
    (about : ∀ owner, (jobOf owner).entity = owner) (findings : List Finding) :
    (((reactions jobOf findings).filterMap Reaction.job?).map IndexJob.entity).Nodup := by
  rw [reactions, List.Nodup, List.pairwise_map, List.pairwise_filterMap, List.pairwise_map]
  refine (pairwise_distinctBy sameEntity findings).imp ?_
  rintro (_ | first) (_ | second) apart job isJob other isOther
  all_goals cases isJob
  all_goals cases isOther
  simpa [about, sameEntity] using apart

theorem nodup_jobsOn_entity (watch : Watch) (view : StoreView) (entity : EntityRef)
    (change : EntityChange) :
    ((watch.jobsOn view (.entity entity change)).map IndexJob.entity).Nodup := by
  obtain ⟨others, jobs, isOther⟩ := watch.jobsOn_entity_eq view entity change
  obtain rfl := List.append_cancel_left (jobs.symm.trans
    (watch.jobsOn_entity_append view entity change))
  rw [jobs, List.map_append]
  refine List.nodup_append.2 ⟨?_, nodup_jobs_reactions (entity_ownerJob entity change) _, ?_⟩
  · split <;> simp
  · rintro about isOwn other inOthers rfl
    obtain ⟨job, member, rfl⟩ := List.mem_map.1 inOthers
    obtain ⟨owner, differs, rfl⟩ := isOther job member
    split at isOwn
    · exact differs (by simpa using isOwn)
    · cases isOwn

variable {registry : Registry} {watch : Watch} {store : Store}

theorem onChange_entity (paired : registry.catalog.Paired) (orderly : registry.Orderly)
    (watching : Watch.ofRegistry registry = .ok watch)
    (onCatalog : store.catalog = registry.catalog) (entity : EntityRef) (change : EntityChange) :
    watch.onChange store.view (.entity entity change) =
      (watch.jobsOn store.view (.entity entity change)).map .enqueue := by
  refine Reaction.eq_map_job? fun reaction member => ?_
  rcases List.mem_append.1 member with isOwn | isOther
  · split at isOwn
    · exact ⟨_, List.mem_singleton.1 isOwn⟩
    · cases isOwn
  · obtain ⟨finding, kept, rfl⟩ := List.mem_map.1 isOther
    obtain ⟨owner, rfl⟩ :=
      ok_of_mem_findings paired orderly watching onCatalog (mem_of_mem_distinctBy kept)
    exact ⟨_, rfl⟩

/-- Told of a change of an entity, a watch over a registry does nothing but enqueue jobs, no two of
them for one entity: one for the entity itself if its name is in use, and one for every other
entity that reaches it, which passes the entity over just if it is to go. -/
theorem jobs_exactly_for_concerned {catalog : Catalog} {names : List String}
    (declared : catalog.Declared names) {types : List EntityType}
    (registered : Registry.ofTypes catalog types = .ok registry)
    (onCatalog : store.catalog = catalog) :
    ∃ watch, Watch.ofRegistry registry = .ok watch ∧
      ∀ (entity : EntityRef) (change : EntityChange),
        let jobs := watch.jobsOn store.view (.entity entity change)
        watch.onChange store.view (.entity entity change) = jobs.map .enqueue ∧
        (jobs.map IndexJob.entity).Nodup ∧
        ∀ job, job ∈ jobs ↔
          ((registry.lookup entity.typeName).isSome ∧
            job = if change = .deleted then .deindex entity else .index entity none) ∨
          ∃ owner, owner ≠ entity ∧ registry.Reaches store.view owner entity ∧
            job = .index owner (if change = .deleted then some (.instance entity) else none) := by
  obtain ⟨orderly, sameCatalog⟩ := Registry.orderly_of_ofTypes registered
  have paired : registry.catalog.Paired := sameCatalog ▸ declared.paired
  have onRegistered := onCatalog.trans sameCatalog.symm
  obtain ⟨watch, watching⟩ := exists_ofRegistry orderly
  refine ⟨watch, watching, fun entity change => ⟨?_, ?_, fun job => ?_⟩⟩
  · exact onChange_entity paired orderly watching onRegistered entity change
  · exact nodup_jobsOn_entity watch store.view entity change
  · simp only [reaches_iff_shows paired orderly onRegistered]
    rw [mem_jobsOn_entity paired orderly watching onRegistered]
    cases change <;> exact Iff.rfl

end Watch

namespace Library

/-- A book whose shelf is part of one that is to go loses the code it is found by. -/
theorem job_for_book_of_shelf :
    let store := (Store.empty catalog).run furnish
    ∃ watch, Watch.ofRegistry registry = .ok watch ∧
      .index ⟨book, 3⟩ (some (.instance ⟨shelf, 1⟩)) ∈
        watch.jobsOn store.view (.entity ⟨shelf, 1⟩ .deleted) := by
  intro store
  have onCatalog : store.catalog = catalog := Store.catalog_run catalog furnish
  obtain ⟨watch, watching, exactly⟩ :=
    Watch.jobs_exactly_for_concerned declared registered onCatalog
  refine ⟨watch, watching, ((exactly ⟨shelf, 1⟩ .deleted).2.2 _).2 (Or.inr ?_)⟩
  refine ⟨⟨book, 3⟩, by decide, ?_, rfl⟩
  have isRelated : field "place.whole.code" ["place", "whole"] "code" ∈
      registry.entityTypes[0].relatedFields := List.mem_cons_self ..
  exact ⟨_, List.getElem_mem _, rfl, _, isRelated, ["place", "whole"], by decide, by decide,
    [⟨shelf, 1⟩], rfl, List.mem_singleton.2 rfl⟩

end Library
end EntitySearch
