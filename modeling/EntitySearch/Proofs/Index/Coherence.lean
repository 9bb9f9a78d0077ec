import EntitySearch.Proofs.Index.Settling
import EntitySearch.Proofs.Index.Tracking

/-!
# Coherence of an index with a store

An index is coherent with a store if it holds, for every registered type, exactly the documents of
the stored entities of that type as they are built from the store.  Jobs that keep track of a write
and are done while observers see their store carry coherence over the write.

Main statements: `coherentWith_iff`, `mirrors_of_prompt`.
-/
set_option autoImplicit false
namespace EntitySearch

/-- For every registered type, the index holds what is built for its entities and nothing else:
building answers no document just for the entities that are not stored. -/
def SearchIndex.CoherentWith (index : SearchIndex) (indexer : Indexer) : Prop :=
  ∀ type ∈ indexer.registry.entityTypes, ∀ id,
    indexer.document type ⟨type.name, id⟩ none = .ok (index.documents.get? ⟨type.name, id⟩)

def Registry.Mirrors (registry : Registry) (held : EntityRef → Option Document) (store : Store) :
    Prop :=
  ∀ type ∈ registry.entityTypes, ∀ owner : EntityRef, owner.typeName = type.name →
    held owner = store.documentOf type owner none

theorem coherentWith_iff {registry : Registry} (grounded : registry.Grounded) {store : Store}
    (onCatalog : store.catalog = registry.catalog) (index : SearchIndex) :
    index.CoherentWith ⟨registry, store.view⟩ ↔ registry.Mirrors index.held store := by
  have built : ∀ type ∈ registry.entityTypes, ∀ owner : EntityRef, owner.typeName = type.name →
      (Indexer.mk registry store.view).document type owner none =
        .ok (store.documentOf type owner none) :=
    fun type member owner typed =>
      Store.build_eq_documentOf grounded.paired grounded.orderly onCatalog member typed
  constructor
  · rintro coherent type member ⟨name, id⟩ rfl
    have holds := coherent type member id
    rw [built type member ⟨type.name, id⟩ rfl] at holds
    exact (Except.ok.inj holds).symm
  · intro mirrors type member id
    rw [built type member ⟨type.name, id⟩ rfl]
    exact congrArg Except.ok (mirrors type member ⟨type.name, id⟩ rfl).symm

theorem mirrors_empty (registry : Registry) (catalog : Catalog) :
    registry.Mirrors (fun _ => none) (Store.empty catalog) := by
  intro type _ owner _
  exact (Store.documentOf_eq_none rfl).symm

/-- Jobs done while observers see their store carry coherence over a write. -/
theorem mirrors_of_prompt {registry : Registry} {watch : Watch} {before : Store}
    {outcome : Outcome Unit} (tracked : Tracked registry watch before outcome) {notice : Notice}
    (noticed : outcome.notice? = some notice) {held heldAfter : EntityRef → Option Document}
    (settles : SettlesAll registry notice.seen (watch.jobsOn notice.seen.view notice.event) held
      heldAfter)
    (mirrors : registry.Mirrors held before) : registry.Mirrors heldAfter outcome.after := by
  intro type member owner typed
  refine settles.held member typed ?_ ?_
  · rintro job isJob rfl
    exact tracked.prompt type member notice noticed job isJob typed
  · intro noJob
    rw [mirrors type member owner typed]
    refine (tracked.quiet type member owner typed ?_ none).symm
    rw [noticed]
    exact noJob

theorem mirrors_of_unnoticed {registry : Registry} {watch : Watch} {before : Store}
    {outcome : Outcome Unit} (tracked : Tracked registry watch before outcome)
    (unnoticed : outcome.notice? = none) {held : EntityRef → Option Document}
    (mirrors : registry.Mirrors held before) : registry.Mirrors held outcome.after := by
  intro type member owner typed
  rw [mirrors type member owner typed]
  refine (tracked.quiet type member owner typed ?_ none).symm
  rw [unnoticed]
  intro job isJob
  cases isJob

end EntitySearch
