import EntitySearch.Proofs.Index.Rebuilding
import EntitySearch.Proofs.Index.Watched
import EntitySearch.Proofs.Search.Answers

/-!
# What registering makes sure of

The path of a field is walked again and again: for its kind, for the ways back, for the watch, and
with the entities of a store when a document is built.  Each of these walks has errors of its own.
`Field.Ends` says where a path leads in the catalog, and registering checks that it leads somewhere;
so of a registered type none of the walks fails, no document fails to be built or written, and no
scope fails to be answered.

Main statement: `later_stages_succeed`.
-/
set_option autoImplicit false
namespace EntitySearch

open Catalog (Hop)

structure Field.Ends (field : Field) (catalog : Catalog) (owner : TypeName) (steps : List Hop)
    (kind : ValueKind) : Prop where
  walked : catalog.hops owner field.path.relations = .ok steps
  ends : catalog.attrKind? (Catalog.terminal owner steps) field.path.attr = some kind

namespace Field
variable {field : Field} {catalog : Catalog} {owner : TypeName} {steps : List Hop} {kind : ValueKind}

theorem kind_eq_ok_iff : field.kind catalog owner = .ok kind ↔
    ∃ steps, field.Ends catalog owner steps kind := by
  unfold Field.kind
  constructor
  · intro known
    cases walked : catalog.hops owner field.path.relations with
    | error missing =>
        rw [walked] at known
        cases known
    | ok steps =>
        simp only [walked] at known
        cases ends : catalog.attrKind? (Catalog.terminal owner steps) field.path.attr with
        | none =>
            rw [ends] at known
            cases known
        | some found =>
            rw [ends] at known
            cases known
            exact ⟨steps, walked, ends⟩
  · rintro ⟨steps, walked, ends⟩
    simp only [walked, ends]

theorem kindKnowing_none (ends : field.Ends catalog owner steps kind) :
    field.kindKnowing none catalog owner = (.ok kind, some kind) := by
  have found : field.kind catalog owner = .ok kind := kind_eq_ok_iff.2 ⟨steps, ends⟩
  simp only [kindKnowing, found]

end Field

namespace Registry
variable {registry : Registry} {type : EntityType} {name : TypeName} {field : Field}
  {steps : List Hop} {kind : ValueKind}

section Named
variable (found : registry.get name = .ok type) (isField : field ∈ type.fields)
  (ends : field.Ends registry.catalog type.name steps kind)
include found isField ends

theorem stepsOf_eq : registry.stepsOf name field.name = .ok steps := by
  have walked : registry.steps type.name field = .ok steps := by
    unfold Registry.steps
    rw [ends.walked]
    rfl
  unfold stepsOf
  rw [found, ← walked]
  simp only [bind, Except.bind, EntityType.field?_of_mem isField]

theorem reversePath_eq : registry.reversePath name field.name = .ok (wayBack steps) := by
  rw [reversePath, stepsOf_eq found isField ends]
  rfl

theorem relatedType_eq : registry.relatedType name field.name =
    .ok (steps.getLast?.map fun hop => hop.relation.target) := by
  rw [relatedType, stepsOf_eq found isField ends]
  rfl

end Named

/-- Registering makes sure that the path of every field ends somewhere. -/
theorem ends_of_ofTypes {catalog : Catalog} {types : List EntityType}
    (registered : ofTypes catalog types = .ok registry) (member : type ∈ registry.entityTypes)
    (isField : field ∈ type.fields) :
    ∃ steps kind, field.Ends registry.catalog type.name steps kind := by
  obtain ⟨kind, known⟩ := kind_of_ofTypes registered member isField
  obtain ⟨steps, ends⟩ := Field.kind_eq_ok_iff.1 known
  exact ⟨steps, kind, ends⟩

end Registry

namespace SearchIndex
variable {index : SearchIndex}

theorem exists_put (online : index.online = true) (document : Document) :
    ∃ after, target.put document index = (.ok (), after) ∧ after.online = true :=
  ⟨_, changing_of_online online fun documents => documents.insert document.entity document, online⟩

theorem exists_drop (online : index.online = true) (entity : EntityRef) :
    ∃ after, target.drop entity index = (.ok (), after) ∧ after.online = true :=
  ⟨_, changing_of_online online fun documents => documents.erase entity, online⟩

end SearchIndex

theorem Indexer.exists_apply {indexer : Indexer} {index : SearchIndex} {entity : EntityRef}
    {type : EntityType} {exclude : Option Exclusion} {document? : Option Document}
    (known : indexer.registry.lookup entity.typeName = some type)
    (built : indexer.document type entity exclude = .ok document?) (online : index.online = true) :
    ∃ after, indexer.apply SearchIndex.target (.index entity exclude) index = (.ok (), after) ∧
      after.online = true := by
  simp only [apply, known, built]
  cases document? with
  | none => exact SearchIndex.exists_drop online entity
  | some document => exact SearchIndex.exists_put online document

/-! ## All stages -/

/-- Whatever was registered over a declared catalog: the path of every field is walked along the
same steps by all who ask, under each name of the type, and ends at an attribute; the registry can
be watched; and over any store of the catalog, every document of a registered type can be built and
written or dropped, whatever is passed over, and every scope is answered for a type that starts from
all its entities, as long as the index is online. -/
theorem Registry.later_stages_succeed {catalog : Catalog} {names : List String}
    (declared : catalog.Declared names) {types : List EntityType} {registry : Registry}
    (registered : ofTypes catalog types = .ok registry) :
    (∀ type ∈ registry.entityTypes, ∀ field ∈ type.fields,
      ∃ steps kind, field.Ends catalog type.name steps kind ∧
        field.kindKnowing none catalog type.name = (.ok kind, some kind) ∧
        ∀ name, name = type.name ∨ name ∈ type.others →
          registry.reversePath name field.name = .ok (wayBack steps) ∧
          registry.relatedType name field.name =
            .ok (steps.getLast?.map fun hop => hop.relation.target)) ∧
    (∃ models junctions, registry.watchedModels = .ok models ∧
      registry.watchedJunctions = .ok junctions ∧
      Watch.ofRegistry registry = .ok ⟨registry, models, junctions⟩) ∧
    ∀ store : Store, store.catalog = catalog →
      let indexer : Indexer := ⟨registry, store.view⟩
      (∀ type ∈ registry.entityTypes, ∀ entity : EntityRef, entity.typeName = type.name →
        ∀ exclude,
          (∃ document?, indexer.document type entity exclude = .ok document? ∧
            document?.isSome = store.contains entity) ∧
          ∀ index : SearchIndex, index.online = true →
            ∀ job, job = .index entity exclude ∨ job = .deindex entity →
              ∃ after, indexer.apply SearchIndex.target job index = (.ok (), after) ∧
                after.online = true) ∧
      ∀ type ∈ registry.entityTypes, type.base = .all →
        ∀ binding actor now scope, ∀ index : SearchIndex, index.online = true →
          ∃ hits after, (Evaluator.mk catalog store.view binding).answer type actor now scope
            index = (.ok hits, after) ∧ after.online = true := by
  obtain ⟨orderly, onCatalog⟩ := orderly_of_ofTypes registered
  subst onCatalog
  refine ⟨?_, ?_, ?_⟩
  · intro type member field isField
    obtain ⟨steps, kind, ends⟩ := ends_of_ofTypes registered member isField
    refine ⟨steps, kind, ends, Field.kindKnowing_none ends, fun name named => ?_⟩
    have found := get_of_named registered member named
    exact ⟨reversePath_eq found isField ends, relatedType_eq found isField ends⟩
  · obtain ⟨watch, watching⟩ := Watch.exists_ofRegistry orderly
    obtain ⟨same, models, junctions⟩ := Watch.ofRegistry_eq_ok watching
    exact ⟨watch.models, watch.junctions, models, junctions, by rw [watching, ← same]⟩
  · intro store onCatalog indexer
    refine ⟨fun type member entity typed exclude => ?_, ?_⟩
    · have built : indexer.document type entity exclude =
          .ok (store.documentOf type entity exclude) :=
        Store.build_eq_documentOf declared.paired orderly onCatalog member typed
      refine ⟨⟨_, built, Store.isSome_documentOf store type entity exclude⟩, ?_⟩
      rintro index online job (rfl | rfl)
      · exact Indexer.exists_apply (typed ▸ orderly.lookup_name member) built online
      · exact SearchIndex.exists_drop online entity
    · intro type member all binding actor now scope index online
      have based : (Evaluator.mk registry.catalog store.view binding).base type =
          .ok (store.ids type.name) := by
        rw [Evaluator.base, all]
        rfl
      exact Evaluator.exists_answer based (fun field isField =>
        kind_of_ofTypes registered member isField) actor now scope online

namespace Library

/-- The works of the authors of a book lead back over its authors, and its document is written as
if one of them did not exist. -/
theorem works_lead_back :
    let store := (Store.empty catalog).run furnish
    registry.reversePath book "authors.works.title" = .ok ["authors", "works"] ∧
      registry.relatedType book "authors.works.title" = .ok (some book) ∧
      (∃ watch, Watch.ofRegistry registry = .ok watch) ∧
      (∃ after, (Indexer.mk registry store.view).apply SearchIndex.target
        (.index ⟨book, 3⟩ (some (.instance ⟨author, 4⟩))) {} = (.ok (), after)) ∧
      ∃ hits after, (Evaluator.mk catalog store.view (Config.binding {} true)).answer
        registry.entityTypes[0] "ada" 0 { matchAll := false } {} = (.ok hits, after) := by
  intro store
  have onCatalog : store.catalog = catalog := Store.catalog_run catalog furnish
  obtain ⟨paths, ⟨models, junctions, -, -, watching⟩, stages⟩ :=
    Registry.later_stages_succeed declared registered
  obtain ⟨documents, scopes⟩ := stages store onCatalog
  have isBook : registry.entityTypes[0] ∈ registry.entityTypes := List.getElem_mem _
  have isField : field "authors.works.title" ["authors", "works"] "title" ∈
      registry.entityTypes[0].fields := List.mem_of_getElem? (i := 2) rfl
  obtain ⟨steps, kind, ends, -, named⟩ := paths _ isBook _ isField
  obtain ⟨back, related⟩ := named book (.inl rfl)
  obtain rfl := Except.ok.inj (Eq.trans ends.walked.symm rfl)
  obtain ⟨after, done, -⟩ := (documents _ isBook ⟨book, 3⟩ rfl _).2 {} rfl _ (.inl rfl)
  obtain ⟨hits, answered, found, -⟩ :=
    scopes _ isBook rfl (Config.binding {} true) "ada" 0 { matchAll := false } {} rfl
  exact ⟨back, related, ⟨_, watching⟩, ⟨after, done⟩, hits, answered, found⟩

end Library
end EntitySearch
