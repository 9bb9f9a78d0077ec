import EntitySearch.Index.Indexer
import EntitySearch.Proofs.Index.Exclusions
import EntitySearch.Proofs.Index.Jobs
import EntitySearch.Proofs.Store.References

/-!
# Exclusions preview changes

Before an entity or some links go, documents are built past them.  Such a document is the one that
is built without any exclusion once they are gone, in every field and with its texts in the same
order and as often.

Main statement: `exclusions_preview_changes`.
-/
set_option autoImplicit false
namespace EntitySearch

/-- Built in one store past an exclusion and in a later one as it is, the document of an entity is
the same, and neither build fails. -/
def Registry.Previews (registry : Registry) (exclusion : Exclusion) (before after : Store)
    (type : EntityType) (owner : EntityRef) : Prop :=
  ∃ document?,
    Indexer.document ⟨registry, before.view⟩ type owner (some exclusion) = .ok document? ∧
      Indexer.document ⟨registry, after.view⟩ type owner none = .ok document?

namespace Store

def pairsOf (store : Store) (junction : String) (side : Side) (anchor : Nat)
    (targets : List Nat) : List Link :=
  (store.linkedOf junction side anchor targets).map (Link.ofSide side anchor)

variable {store : Store}

theorem mem_linksOf_of_unlink {anchor : EntityRef} {name junction : String} {side : Side}
    {targets : List Nat} {relation : Relation} {outcome : Outcome Unit}
    (stored : store.catalog.relation? anchor.typeName name = some relation)
    (through : relation.kind = .manyToMany junction side)
    (success : store.unlink anchor name targets = .ok outcome) (other : String) (link : Link) :
    link ∈ outcome.after.linksOf other ↔ link ∈ store.linksOf other ∧
      ¬ (other = junction ∧ link ∈ store.pairsOf junction side anchor.id targets) := by
  obtain ⟨found, _, _, storedFound, throughFound, after⟩ := unlink_eq_ok success
  cases storedFound.symm.trans stored
  cases throughFound.symm.trans through
  have pairs : link ∈ store.pairsOf junction side anchor.id targets ↔
      ∃ id ∈ store.linkedOf junction side anchor.id targets,
        link = Link.ofSide side anchor.id id := by
    simp [pairsOf, eq_comm]
  rcases after with ⟨nothing, after, -⟩ | ⟨-, after, -⟩
  · rw [pairs, nothing, after]
    simp
  · rw [pairs, after]
    exact mem_linksOf_unlink other link

end Store

namespace Registry
variable {registry : Registry} {store : Store} {type : EntityType} {owner : EntityRef}

theorem previews_of_documentOf (grounded : registry.Grounded) {before after : Store}
    (onCatalog : before.catalog = registry.catalog) (afterOnCatalog : after.catalog = before.catalog)
    (member : type ∈ registry.entityTypes) (typed : owner.typeName = type.name)
    {exclusion : Exclusion}
    (same : before.documentOf type owner (some exclusion) = after.documentOf type owner none) :
    registry.Previews exclusion before after type owner := by
  have paired := grounded.paired
  have orderly := grounded.orderly
  refine ⟨after.documentOf type owner none, ?_, ?_⟩
  · rw [← same]
    exact Store.build_eq_documentOf paired orderly onCatalog member typed
  · exact Store.build_eq_documentOf paired orderly (afterOnCatalog.trans onCatalog) member typed

theorem previews_delete (grounded : registry.Grounded)
    (onCatalog : store.catalog = registry.catalog) (member : type ∈ registry.entityTypes)
    (typed : owner.typeName = type.name) {gone : EntityRef} (other : owner ≠ gone)
    {outcome : Outcome Unit} (success : store.delete gone = .ok outcome) :
    registry.Previews (.instance gone) store outcome.after type owner := by
  obtain ⟨-, after, -⟩ := Store.delete_eq_ok success
  have catalog : outcome.after.catalog = store.catalog := by rw [after]; rfl
  refine previews_of_documentOf grounded onCatalog catalog member typed ?_
  rw [after]
  exact Store.documentOf_before_without grounded onCatalog member typed other

theorem previews_unlink (grounded : registry.Grounded)
    (onCatalog : store.catalog = registry.catalog) (member : type ∈ registry.entityTypes)
    (typed : owner.typeName = type.name) {anchor : EntityRef} {name junction : String}
    {side : Side} {targets : List Nat} {relation : Relation}
    (stored : store.catalog.relation? anchor.typeName name = some relation)
    (through : relation.kind = .manyToMany junction side) {outcome : Outcome Unit}
    (success : store.unlink anchor name targets = .ok outcome) :
    registry.Previews (.links junction (store.pairsOf junction side anchor.id targets)) store
      outcome.after type owner := by
  have catalog : outcome.after.catalog = store.catalog := by
    obtain ⟨_, _, _, -, -, ⟨-, after, -⟩ | ⟨-, after, -⟩⟩ := Store.unlink_eq_ok success
    · rw [after]
    · rw [after]
  refine previews_of_documentOf grounded onCatalog catalog member typed ?_
  exact Store.documentOf_before_unlink grounded onCatalog member typed catalog
    (Store.records_unlink success) (Store.mem_linksOf_of_unlink stored through success)

end Registry

/-- The jobs that a removal of links causes look past the links that it takes away. -/
theorem Watch.excludes_pairsOf {watch : Watch} {store : Store} {anchor : EntityRef}
    {name junction : String} {side : Side} {targets : List Nat} {relation : Relation}
    {outcome : Outcome Unit}
    (stored : store.catalog.relation? anchor.typeName name = some relation)
    (through : relation.kind = .manyToMany junction side)
    (success : store.unlink anchor name targets = .ok outcome) {notice : Notice}
    (noticed : outcome.notice? = some notice) {job : IndexJob}
    (member : job ∈ watch.jobsOn notice.seen.view notice.event) :
    job.exclusion? = some (.links junction (store.pairsOf junction side anchor.id targets)) := by
  obtain ⟨found, _, _, storedFound, throughFound, told⟩ := Store.unlink_eq_ok success
  cases storedFound.symm.trans stored
  cases throughFound.symm.trans through
  rcases told with ⟨-, -, told⟩ | ⟨-, -, told⟩
  · cases told.symm.trans noticed
  · cases told.symm.trans noticed
    obtain ⟨owner, rfl⟩ := Watch.exists_of_mem_jobsOn_link member
    simp [IndexJob.exclusion?, Watch.linkExclusion, Store.pairsOf]

/-- Over a declared catalog whose junctions got distinct names, and whatever was written: an
exclusion shows every document of a registered type as the change that it anticipates leaves it, be
that a deletion or a removal of links through either accessor of a junction. -/
theorem exclusions_preview_changes {catalog : Catalog} {names : List String}
    {types : List EntityType} {registry : Registry} (declared : catalog.Declared names)
    (distinctNames : names.Nodup) (registered : Registry.ofTypes catalog types = .ok registry)
    (writes : List Write) :
    let store := (Store.empty catalog).run writes
    (∀ gone, store.contains gone = true → ∃ outcome, store.delete gone = .ok outcome ∧
      ∀ type ∈ registry.entityTypes, ∀ owner : EntityRef, owner.typeName = type.name →
        owner ≠ gone → registry.Previews (.instance gone) store outcome.after type owner) ∧
    ∀ anchor name relation junction side targets,
      catalog.relation? anchor.typeName name = some relation →
      relation.kind = .manyToMany junction side →
        let pairs := store.pairsOf junction side anchor.id targets
        ∃ outcome, store.unlink anchor name targets = .ok outcome ∧
          (∀ other link, link ∈ outcome.after.linksOf other ↔
            link ∈ store.linksOf other ∧ ¬ (other = junction ∧ link ∈ pairs)) ∧
          (∀ (watch : Watch), ∀ notice ∈ outcome.notice?,
            ∀ job ∈ watch.jobsOn notice.seen.view notice.event,
              job.exclusion? = some (.links junction pairs)) ∧
          ∀ type ∈ registry.entityTypes, ∀ owner : EntityRef, owner.typeName = type.name →
            registry.Previews (.links junction pairs) store outcome.after type owner := by
  intro store
  obtain ⟨grounded, sameCatalog⟩ :=
    Registry.grounded_of_ofTypes declared distinctNames registered
  have sound : store.Sound catalog :=
    (Store.sound_empty catalog).run declared.paired (declared.junctionsOwned distinctNames) writes
  have onCatalog : store.catalog = registry.catalog := sound.onCatalog.trans sameCatalog.symm
  refine ⟨?_, ?_⟩
  · intro gone present
    obtain ⟨outcome, success⟩ := Store.exists_delete present
    refine ⟨outcome, success, fun type member owner typed other => ?_⟩
    exact Registry.previews_delete grounded onCatalog member typed other success
  · intro anchor name relation junction side targets stored through pairs
    rw [← sound.onCatalog] at stored
    obtain ⟨outcome, success⟩ := Store.exists_unlink stored through targets
    refine ⟨outcome, success, Store.mem_linksOf_of_unlink stored through success, ?_, ?_⟩
    · intro watch notice noticed job member
      exact Watch.excludes_pairsOf stored through success noticed member
    · intro type member owner typed
      exact Registry.previews_unlink grounded onCatalog member typed stored through success

namespace Library

/-- The book's author is to lose her only work, seen from her side. -/
theorem unlinked_work_previewed :
    let store := (Store.empty catalog).run furnish
    ∃ outcome, store.unlink ⟨author, 4⟩ "works" [3] = .ok outcome ∧
      ∀ type ∈ registry.entityTypes, ∀ owner : EntityRef, owner.typeName = type.name →
        registry.Previews (.links authorship [⟨3, 4⟩]) store outcome.after type owner := by
  have previews := (exclusions_preview_changes declared (by decide) registered furnish).2
    ⟨author, 4⟩ "works" ⟨"works", book, .manyToMany authorship .right, "authors"⟩ authorship .right
    [3] (by decide +kernel) rfl
  obtain ⟨outcome, success, -, -, documents⟩ := previews
  have pairs : ((Store.empty catalog).run furnish).pairsOf authorship .right 4 [3] = [⟨3, 4⟩] := by
    decide +kernel
  refine ⟨outcome, success, ?_⟩
  rw [← pairs]
  exact documents

end Library
end EntitySearch
