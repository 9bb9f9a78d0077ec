import EntitySearch.Proofs.Index.Coherence
import EntitySearch.Search.SearchIndex

/-!
# Documents that match

The live texts of an entity are read off the store along the paths of the fields of its type.  They
are the texts of its document, so in a coherent index the documents that satisfy a predicate are
those of the stored entities whose live texts satisfy it.

Main statements: `texts_documentOf`, `matching_eq`.
-/
set_option autoImplicit false
namespace EntitySearch

namespace StoreView

/-- The values a field has from an entity on: what is found at the end of its path and not null. -/
def liveValues (view : StoreView) (field : Field) (entity : EntityRef) : List Value :=
  match view.resolve entity field.path.relations with
  | .error _ => []
  | .ok reached =>
    (reached.filterMap fun found => view.attr? found field.path.attr).filter fun value =>
      !value.isNull

def liveTexts (view : StoreView) (type : EntityType) (entity : EntityRef) : Predicate.Texts :=
  fun name =>
    match type.field? name with
    | none => []
    | some field => (view.liveValues field entity).flatMap field.indexTexts

theorem flatMap_textsAt (view : StoreView) (field : Field) (reached : List EntityRef) :
    reached.flatMap (Document.textsAt view field) =
      ((reached.filterMap fun found => view.attr? found field.path.attr).filter fun value =>
        !value.isNull).flatMap field.indexTexts := by
  induction reached with
  | nil => rfl
  | cons found rest ih =>
      rw [List.flatMap_cons, ih, List.filterMap_cons, Document.textsAt]
      cases view.attr? found field.path.attr with
      | none => rfl
      | some value => cases isNull : value.isNull <;> simp [isNull]

end StoreView

namespace Store
variable {store : Store} {registry : Registry} {type : EntityType} {entity : EntityRef}

section Documents
variable (paired : registry.catalog.Paired) (orderly : registry.Orderly)
  (onCatalog : store.catalog = registry.catalog) (member : type ∈ registry.entityTypes)
  (typed : entity.typeName = type.name)
include paired orderly onCatalog member typed

theorem fieldTexts_eq_live {field : Field} (isField : field ∈ type.fields) :
    store.fieldTexts type entity none field =
      (store.view.liveValues field entity).flatMap field.indexTexts := by
  obtain ⟨steps, target, walked, names, connects⟩ := orderly.connects paired member isField
  have along : store.catalog.stepsAlong type.name field.path.relations = steps := by
    rw [onCatalog, Catalog.stepsAlong_eq walked]
  rw [← onCatalog, ← typed] at connects
  have resolved : store.view.resolve entity field.path.relations =
      .ok (store.walk none steps [entity]) := by
    rw [names]
    exact resolve_eq_walk connects
  rw [fieldTexts, along, StoreView.flatMap_textsAt, StoreView.liveValues, resolved]

theorem texts_documentOf {document : Document}
    (built : store.documentOf type entity none = some document) :
    document.texts = store.view.liveTexts type entity := by
  unfold documentOf at built
  split at built
  · cases built
    funext name
    have nodup : ((type.fields.map fun field =>
        (field.name, store.fieldTexts type entity none field)).map Prod.fst).Nodup := by
      rw [List.map_map]
      exact type.names_nodup
    unfold Document.texts StoreView.liveTexts
    rw [SortedMap.get?_ofList nodup, List.find?_map]
    change (((type.field? name).map _).map _).getD _ = _
    cases found : type.field? name with
    | none => rfl
    | some field =>
        exact fieldTexts_eq_live paired orderly onCatalog member typed
          (EntityType.mem_of_field? found).1
  · cases built

end Documents

end Store

namespace Evaluator
variable {index : SearchIndex}

theorem mem_matching {typeName : TypeName} {predicate : Predicate} {id : Nat} :
    id ∈ matching index typeName predicate ↔
      ∃ document, index.documents.get? ⟨typeName, id⟩ = some document ∧
        predicate.accepts document.texts = true :=
  mem_typedIds index.documents typeName fun e => predicate.accepts e.2.texts

theorem matching_ascending (index : SearchIndex) (typeName : TypeName) (predicate : Predicate) :
    (matching index typeName predicate).Pairwise (· < ·) :=
  typedIds_ascending index.documents typeName fun e => predicate.accepts e.2.texts

/-- A coherent index matches the stored entities whose live texts satisfy the predicate. -/
theorem matching_eq {store : Store} {registry : Registry} {type : EntityType}
    (paired : registry.catalog.Paired) (orderly : registry.Orderly)
    (onCatalog : store.catalog = registry.catalog) (member : type ∈ registry.entityTypes)
    (coherent : index.CoherentWith ⟨registry, store.view⟩) (predicate : Predicate) :
    matching index type.name predicate =
      (store.ids type.name).filter fun id =>
        predicate.accepts (store.view.liveTexts type ⟨type.name, id⟩) := by
  refine (matching_ascending index type.name predicate).eq_of_mem_iff
    ((Store.ids_ascending type.name).filter _) fun id => ?_
  have built : (Indexer.mk registry store.view).document type ⟨type.name, id⟩ none =
      .ok (store.documentOf type ⟨type.name, id⟩ none) :=
    Store.build_eq_documentOf paired orderly onCatalog member rfl
  have held : index.documents.get? ⟨type.name, id⟩ =
      store.documentOf type ⟨type.name, id⟩ none :=
    Except.ok.inj ((coherent type member id).symm.trans built)
  rw [mem_matching, held, List.mem_filter, Store.mem_ids,
    ← Store.isSome_documentOf store type ⟨type.name, id⟩ none]
  cases documented : store.documentOf type ⟨type.name, id⟩ none with
  | none => simp
  | some document =>
      simp [Store.texts_documentOf paired orderly onCatalog member rfl documented]

end Evaluator
end EntitySearch
