import EntitySearch.Proofs.Index.Coherence
import EntitySearch.Proofs.Registry.Names
import EntitySearch.Proofs.Store.References
import EntitySearch.Proofs.Store.Sharing

/-!
# Rebuilding

Whatever documents an index holds, stale ones, surplus ones or none, a rebuild of a type leaves
those that are built for its stored entities, and it leaves the documents of other types alone.  A
rebuild that fails has cleared nothing: everything is built before the first document goes, and an
index that can be cleared can be written.

Main statement: `rebuilds_repair`.
-/
set_option autoImplicit false
namespace EntitySearch

def SearchIndex.replace (index : SearchIndex) (type : TypeName) (documents : List Document) :
    SearchIndex :=
  { index with
    documents := documents.foldl (fun held document => held.insert document.entity document)
      (index.documents.filter fun entity _ => entity.typeName ≠ type) }

/-- Of the entities of a type, the index holds what is built for them, and nothing of those that do
not exist. -/
def SearchIndex.FreshFor (index : SearchIndex) (indexer : Indexer) (type : EntityType) : Prop :=
  ∀ id, indexer.document type ⟨type.name, id⟩ none = .ok (index.held ⟨type.name, id⟩)

/-- A type was rebuilt: its documents are fresh, and all else is as it was. -/
structure Rebuilt (indexer : Indexer) (type : EntityType) (before after : SearchIndex) : Prop where
  fresh : after.FreshFor indexer type
  others : ∀ entity : EntityRef, entity.typeName ≠ type.name → after.held entity = before.held entity
  online : after.online = before.online
  cache : after.cache? = before.cache?

namespace Rebuilt
variable {indexer : Indexer} {type : EntityType} {before after : SearchIndex}

theorem eq_of_fresh (rebuilt : Rebuilt indexer type before after)
    (fresh : before.FreshFor indexer type) : after = before := by
  have documents : after.documents = before.documents := by
    refine SortedMap.ext_get? fun entity => ?_
    obtain ⟨name, id⟩ := entity
    by_cases typed : name = type.name
    · subst typed
      exact Except.ok.inj ((rebuilt.fresh id).symm.trans (fresh id))
    · exact rebuilt.others ⟨name, id⟩ typed
  have online := rebuilt.online
  have cache := rebuilt.cache
  cases before
  cases after
  cases documents
  cases online
  cases cache
  rfl

theorem keeps_fresh (rebuilt : Rebuilt indexer type before after)
    (own : indexer.registry.get type.name = .ok type) {other : EntityType}
    (ownOther : indexer.registry.get other.name = .ok other)
    (fresh : before.FreshFor indexer other) : after.FreshFor indexer other := by
  by_cases same : other.name = type.name
  · rw [same, own] at ownOther
    obtain rfl := Except.ok.inj ownOther
    exact rebuilt.fresh
  · intro id
    rw [rebuilt.others ⟨other.name, id⟩ same]
    exact fresh id

end Rebuilt

/-- A view that lists just the entities it contains. -/
def StoreView.Lists (view : StoreView) : Prop :=
  ∀ type id, id ∈ view.ids type ↔ view.contains ⟨type, id⟩ = true

theorem Store.lists_breaking (store : Store) (broken : List String) :
    (store.view.breaking broken).Lists := fun _ _ => Store.mem_ids

section Documents
variable {catalog : Catalog} {view : StoreView} {type : EntityType} {entity : EntityRef}
  {exclude : Option Exclusion}

theorem Document.exists_of_build (present : view.contains entity = true)
    {document? : Option Document}
    (built : Document.build catalog view type entity exclude = .ok document?) :
    ∃ document, document? = some document := by
  unfold Document.build at built
  rw [if_pos present] at built
  obtain ⟨fields, -, rfl⟩ := map_eq_ok built
  exact ⟨_, rfl⟩

theorem Document.build_of_absent (absent : view.contains entity = false) :
    Document.build catalog view type entity exclude = .ok none := by
  simp [Document.build, absent]

end Documents

namespace Indexer
variable {indexer : Indexer} {type : EntityType} {documents : List Document}

theorem mem_documents (built : indexer.documents type = .ok documents) {document : Document} :
    document ∈ documents ↔ ∃ id ∈ indexer.view.ids type.name,
      indexer.document type ⟨type.name, id⟩ none = .ok (some document) := by
  obtain ⟨found, each, rfl⟩ := map_eq_ok built
  simp only [List.mem_filterMap, id_eq, exists_eq_right]
  exact mem_of_mapM_eq_ok each

theorem entities_of_mapM {ids : List Nat}
    (present : ∀ id ∈ ids, indexer.view.contains ⟨type.name, id⟩ = true)
    {found : List (Option Document)}
    (each : (ids.mapM fun id => indexer.document type ⟨type.name, id⟩ none) = .ok found) :
    (found.filterMap id).map Document.entity = ids.map (EntityRef.mk type.name) := by
  induction ids generalizing found with
  | nil =>
      cases each
      rfl
  | cons first rest ih =>
      rw [List.mapM_cons] at each
      obtain ⟨document?, here, each⟩ := bind_eq_ok each
      obtain ⟨others, later, each⟩ := bind_eq_ok each
      cases each
      obtain ⟨document, rfl⟩ := Document.exists_of_build (present first (List.mem_cons_self ..)) here
      have entity : document.entity = ⟨type.name, first⟩ := Document.entity_of_build here
      have entities := ih (fun id inRest => present id (List.mem_cons_of_mem _ inRest)) later
      change document.entity :: (others.filterMap id).map Document.entity = _
      rw [entity, entities, List.map_cons]

theorem entities_of_documents (lists : indexer.view.Lists)
    (built : indexer.documents type = .ok documents) :
    documents.map Document.entity = (indexer.view.ids type.name).map (EntityRef.mk type.name) := by
  obtain ⟨found, each, rfl⟩ := map_eq_ok built
  exact entities_of_mapM (fun id => (lists type.name id).1) each

theorem length_documents (lists : indexer.view.Lists)
    (built : indexer.documents type = .ok documents) :
    documents.length = (indexer.view.ids type.name).length := by
  have entities := congrArg List.length (entities_of_documents lists built)
  rwa [List.length_map, List.length_map] at entities

theorem exists_documents
    (each : ∀ id, ∃ found?, indexer.document type ⟨type.name, id⟩ none = .ok found?) :
    ∃ documents, indexer.documents type = .ok documents := by
  obtain ⟨found, built⟩ := exists_mapM_eq_ok fun id (_ : id ∈ indexer.view.ids type.name) => each id
  refine ⟨found.filterMap id, ?_⟩
  rw [Indexer.documents, built]
  rfl

theorem document_of_unlisted (lists : indexer.view.Lists) {id : Nat}
    (unlisted : id ∉ indexer.view.ids type.name) :
    indexer.document type ⟨type.name, id⟩ none = .ok none := by
  rw [lists, Bool.not_eq_true] at unlisted
  exact Document.build_of_absent unlisted

def document? (indexer : Indexer) (type : EntityType) (entity : EntityRef) : Option Document :=
  (indexer.document type entity none).toOption.join

theorem document?_of_ok {entity : EntityRef} {found? : Option Document}
    (built : indexer.document type entity none = .ok found?) :
    indexer.document? type entity = found? := by
  rw [document?, built]
  rfl

theorem held_replace (lists : indexer.view.Lists)
    (built : indexer.documents type = .ok documents) (index : SearchIndex) (entity : EntityRef) :
    (index.replace type.name documents).held entity =
      if entity.typeName = type.name then indexer.document? type entity
      else index.held entity := by
  have each : ∀ document ∈ documents,
      indexer.document? type document.entity = some document := by
    intro document member
    obtain ⟨id, -, makes⟩ := (mem_documents built).1 member
    rw [Document.entity_of_build makes, document?_of_ok makes]
  unfold SearchIndex.held SearchIndex.replace
  rw [SortedMap.get?_foldl_insert_of_each Document.entity (indexer.document? type) each,
    entities_of_documents lists built, SortedMap.get?_filter]
  obtain ⟨name, id⟩ := entity
  by_cases typed : name = type.name
  · subst typed
    -- An entity that is not listed has no document, and what was held of it is cleared.
    by_cases stored : id ∈ indexer.view.ids type.name
    · simp [stored]
    · have none := document?_of_ok (document_of_unlisted lists stored)
      simp [stored, none]
  · have other : ⟨name, id⟩ ∉ (indexer.view.ids type.name).map (EntityRef.mk type.name) := by
      simp [Ne.symm typed]
    rw [if_neg other, if_neg typed]
    cases index.documents.get? ⟨name, id⟩ <;> simp [typed]

theorem rebuilt_replace (lists : indexer.view.Lists)
    (built : indexer.documents type = .ok documents) (index : SearchIndex) :
    Rebuilt indexer type index (index.replace type.name documents) := by
  have held := held_replace lists built index
  refine ⟨fun id => ?_, fun entity other => ?_, rfl, rfl⟩
  · rw [held, if_pos rfl]
    by_cases stored : id ∈ indexer.view.ids type.name
    · obtain ⟨found, each, -⟩ := map_eq_ok built
      obtain ⟨found?, here⟩ := each_of_mapM_eq_ok each stored
      rw [here, document?_of_ok here]
    · have here := document_of_unlisted lists stored
      rw [here, document?_of_ok here]
  · rw [held, if_neg other]

end Indexer

/-! ## One type -/

namespace SearchIndex

theorem changing_of_online {index : SearchIndex} (online : index.online = true)
    (change : SortedMap EntityRef Document → SortedMap EntityRef Document) :
    index.changing change = (.ok (), { index with documents := change index.documents }) := by
  simp [changing, checkOnline, online]

theorem putAll_of_online (index : SearchIndex) (online : index.online = true)
    (documents : List Document) :
    target.putAll documents index = (.ok (), { index with
      documents := documents.foldl (fun held document => held.insert document.entity document)
        index.documents }) := by
  induction documents generalizing index with
  | nil => rfl
  | cons document rest ih =>
      have put : target.put document index = (.ok (), { index with
          documents := index.documents.insert document.entity document }) :=
        changing_of_online online fun held => held.insert document.entity document
      rw [IndexTarget.putAll, put]
      exact ih _ online

end SearchIndex

namespace Indexer
variable {indexer : Indexer} {type : EntityType} {name : TypeName} {index : SearchIndex}
  (found : indexer.registry.get name = .ok type)

include found in
theorem rebuild_of_documents {documents : List Document}
    (built : indexer.documents type = .ok documents) (online : index.online = true) :
    indexer.rebuild SearchIndex.target name index =
      (.ok documents.length, index.replace type.name documents) := by
  let rest := index.documents.filter fun entity _ => entity.typeName ≠ type.name
  have cleared : SearchIndex.target.clear type.name index =
      (.ok (), { index with documents := rest }) :=
    SearchIndex.changing_of_online online fun held =>
      held.filter fun entity _ => entity.typeName ≠ type.name
  have written := SearchIndex.putAll_of_online { index with documents := rest } online documents
  simp only [Indexer.rebuild, found, built, cleared, written]
  rfl

include found in
/-- A rebuild either changes nothing or replaces what is held of its type by what was built. -/
theorem rebuild_cases (index : SearchIndex) :
    (∃ e, indexer.rebuild SearchIndex.target name index = (.error e, index)) ∨
      ∃ documents, indexer.documents type = .ok documents ∧ index.online = true ∧
        indexer.rebuild SearchIndex.target name index =
          (.ok documents.length, index.replace type.name documents) := by
  cases built : indexer.documents type with
  | error e => exact .inl ⟨e, by simp [Indexer.rebuild, found, built]⟩
  | ok documents =>
      cases online : index.online with
      | true => exact .inr ⟨documents, rfl, rfl, rebuild_of_documents found built online⟩
      | false =>
          refine .inl ⟨.backendUnavailable "the search index is offline", ?_⟩
          simp [Indexer.rebuild, found, built, SearchIndex.target, SearchIndex.changing,
            SearchIndex.checkOnline, online]

include found in
theorem rebuild_eq_ok (lists : indexer.view.Lists) {count : Nat} {after : SearchIndex}
    (success : indexer.rebuild SearchIndex.target name index = (.ok count, after)) :
    count = (indexer.view.ids type.name).length ∧ index.online = true ∧
      Rebuilt indexer type index after := by
  rcases rebuild_cases found index with ⟨e, failed⟩ | ⟨documents, built, online, replaced⟩
  · cases failed.symm.trans success
  · cases replaced.symm.trans success
    exact ⟨length_documents lists built, online, rebuilt_replace lists built index⟩

include found in
theorem rebuild_of_fresh (lists : indexer.view.Lists) (fresh : index.FreshFor indexer type)
    (online : index.online = true) :
    indexer.rebuild SearchIndex.target name index =
      (.ok (indexer.view.ids type.name).length, index) := by
  obtain ⟨documents, built⟩ := exists_documents fun id => ⟨_, fresh id⟩
  rw [rebuild_of_documents found built online, length_documents lists built,
    (rebuilt_replace lists built index).eq_of_fresh fresh]

/-! ## Several types -/

def listed (indexer : Indexer) : List EntityType → Nat
  | [] => 0
  | type :: rest => (indexer.view.ids type.name).length + indexer.listed rest

section Each
variable (lists : indexer.view.Lists) {types : List EntityType}
  (own : ∀ type ∈ types, indexer.registry.get type.name = .ok type)
include lists own

/-- Types rebuilt one after the other are all fresh in the end, and those that were fresh stay so. -/
theorem rebuildEach_eq_ok {total : Nat} {after : SearchIndex}
    (success : indexer.rebuildEach SearchIndex.target (types.map EntityType.name) index =
      (.ok total, after)) :
    total = indexer.listed types ∧
      after.online = index.online ∧ (∀ type ∈ types, index.online = true) ∧
      ∀ type, indexer.registry.get type.name = .ok type →
        type ∈ types ∨ index.FreshFor indexer type → after.FreshFor indexer type := by
  induction types generalizing index total with
  | nil =>
      cases success
      exact ⟨rfl, rfl, by simp, fun type _ fresh => fresh.resolve_left (by simp)⟩
  | cons first rest ih =>
      have ownFirst := own first (List.mem_cons_self ..)
      rw [List.map_cons, rebuildEach] at success
      split at success
      · cases success
      · next count middle here =>
        obtain ⟨counted, online, rebuilt⟩ := rebuild_eq_ok ownFirst lists here
        split at success
        · cases success
        · next counts last later =>
          cases success
          obtain ⟨countedRest, sameOnline, -, fresh⟩ :=
            ih (fun type inRest => own type (List.mem_cons_of_mem _ inRest)) later
          refine ⟨?_, sameOnline.trans rebuilt.online, fun _ _ => online, ?_⟩
          · rw [counted, countedRest, listed]
          · -- A type is fresh from its own turn on; the turns of other types do not touch it.
            intro type ownType known
            refine fresh type ownType ?_
            rcases known with member | before
            · rcases List.mem_cons.1 member with rfl | inRest
              · exact .inr rebuilt.fresh
              · exact .inl inRest
            · exact .inr (rebuilt.keeps_fresh ownFirst ownType before)

theorem rebuildEach_of_fresh (online : ∀ type ∈ types, index.online = true)
    (fresh : ∀ type ∈ types, index.FreshFor indexer type) :
    indexer.rebuildEach SearchIndex.target (types.map EntityType.name) index =
      (.ok (indexer.listed types), index) := by
  induction types with
  | nil => rfl
  | cons first rest ih =>
      have here := rebuild_of_fresh (own first (List.mem_cons_self ..)) lists
        (fresh first (List.mem_cons_self ..)) (online first (List.mem_cons_self ..))
      have later := ih (fun type inRest => own type (List.mem_cons_of_mem _ inRest))
        (fun type inRest => online type (List.mem_cons_of_mem _ inRest))
        fun type inRest => fresh type (List.mem_cons_of_mem _ inRest)
      rw [List.map_cons, rebuildEach, here]
      simp only [later, listed]

end Each

theorem exists_rebuildEach {types : List EntityType}
    (own : ∀ type ∈ types, indexer.registry.get type.name = .ok type)
    (built : ∀ type ∈ types, ∃ documents, indexer.documents type = .ok documents)
    (online : index.online = true) :
    ∃ total after, indexer.rebuildEach SearchIndex.target (types.map EntityType.name) index =
      (.ok total, after) := by
  induction types generalizing index with
  | nil => exact ⟨0, index, rfl⟩
  | cons first rest ih =>
      obtain ⟨documents, builds⟩ := built first (List.mem_cons_self ..)
      have here := rebuild_of_documents (own first (List.mem_cons_self ..)) builds online
      have stillOnline : (index.replace first.name documents).online = true := online
      obtain ⟨total, after, later⟩ := ih
        (fun type inRest => own type (List.mem_cons_of_mem _ inRest))
        (fun type inRest => built type (List.mem_cons_of_mem _ inRest)) stillOnline
      refine ⟨documents.length + total, after, ?_⟩
      rw [List.map_cons, rebuildEach, here]
      simp only [later]

theorem rebuildAll_eq_ok (lists : indexer.view.Lists)
    (own : ∀ type ∈ indexer.registry.entityTypes, indexer.registry.get type.name = .ok type)
    {total : Nat} {after : SearchIndex}
    (success : indexer.rebuildAll SearchIndex.target index = (.ok total, after)) :
    after.CoherentWith indexer ∧
      indexer.rebuildAll SearchIndex.target after = (.ok total, after) := by
  obtain ⟨counted, sameOnline, online, fresh⟩ := rebuildEach_eq_ok lists own success
  have coherent : after.CoherentWith indexer :=
    fun type isType => fresh type (own type isType) (.inl isType)
  refine ⟨coherent, ?_⟩
  rw [rebuildAll, counted]
  exact rebuildEach_of_fresh lists own (fun type isType => sameOnline.trans (online type isType))
    coherent

end Indexer

/-- Over any registry and any store, whatever an index holds and whichever relations can be followed
or not: under all its names, rebuilding a type either fails and changes nothing, or answers the
number of its stored entities and leaves what is built for them, and nothing else, in place of what
was held of the type.  Where rebuilding everything succeeds, all types are left so, and doing it
again changes nothing.  Over a store of the same catalog whose relations can be followed, it all
succeeds if the index is online. -/
theorem Registry.rebuilds_repair {catalog : Catalog} {names : List String}
    (declared : catalog.Declared names) {types : List EntityType} {registry : Registry}
    (registered : ofTypes catalog types = .ok registry) (store : Store) :
    (∀ broken,
      let indexer : Indexer := ⟨registry, store.view.breaking broken⟩
      (∀ type ∈ registry.entityTypes, ∀ name, name = type.name ∨ name ∈ type.others → ∀ index,
        (∃ e, indexer.rebuild SearchIndex.target name index = (.error e, index)) ∨
        ∃ after, indexer.rebuild SearchIndex.target name index =
            (.ok (store.count type.name), after) ∧ Rebuilt indexer type index after) ∧
      ∀ index total after, indexer.rebuildAll SearchIndex.target index = (.ok total, after) →
        after.CoherentWith indexer ∧
          indexer.rebuildAll SearchIndex.target after = (.ok total, after)) ∧
    (store.catalog = catalog →
      let indexer : Indexer := ⟨registry, store.view⟩
      ∀ index : SearchIndex, index.online = true →
        (∀ type ∈ registry.entityTypes, ∀ name, name = type.name ∨ name ∈ type.others →
          ∃ after, indexer.rebuild SearchIndex.target name index =
            (.ok (store.count type.name), after) ∧ Rebuilt indexer type index after) ∧
        ∃ total after, indexer.rebuildAll SearchIndex.target index = (.ok total, after) ∧
          after.CoherentWith indexer) := by
  have named := @get_of_named _ _ _ registered
  refine ⟨fun broken => ?_, fun onCatalog => ?_⟩
  · have lists := store.lists_breaking broken
    intro indexer
    refine ⟨fun type isType name isName index => ?_, fun index total after success => ?_⟩
    · rcases indexer.rebuild_cases (named isType isName) index with
        failed | ⟨documents, built, -, replaced⟩
      · exact .inl failed
      · refine .inr ⟨_, ?_, Indexer.rebuilt_replace lists built index⟩
        rw [replaced, Indexer.length_documents lists built]
        rfl
    · exact Indexer.rebuildAll_eq_ok lists (fun type isType => named isType (.inl rfl)) success
  · have lists : store.view.Lists := fun _ _ => Store.mem_ids
    intro indexer index online
    obtain ⟨orderly, sameCatalog⟩ := orderly_of_ofTypes registered
    have paired : registry.catalog.Paired := sameCatalog ▸ declared.paired
    have built : ∀ type ∈ registry.entityTypes, ∃ documents, indexer.documents type = .ok documents :=
      fun type isType => Indexer.exists_documents fun id => ⟨_, Store.build_eq_documentOf paired
        orderly (onCatalog.trans sameCatalog.symm) isType rfl⟩
    refine ⟨fun type isType name isName => ?_, ?_⟩
    · obtain ⟨documents, builds⟩ := built type isType
      refine ⟨_, ?_, Indexer.rebuilt_replace lists builds index⟩
      rw [Indexer.rebuild_of_documents (named isType isName) builds online,
        Indexer.length_documents lists builds]
      rfl
    · have own : ∀ type ∈ registry.entityTypes, registry.get type.name = .ok type :=
        fun type isType => named isType (.inl rfl)
      obtain ⟨total, after, success⟩ := Indexer.exists_rebuildEach own built online
      exact ⟨total, after, success, (Indexer.rebuildAll_eq_ok lists own success).1⟩

namespace Library

def volumesRegistry : Registry :=
  (Registry.ofTypes catalog [volumes]).toOption.getD { catalog }

theorem volumes_registered : Registry.ofTypes catalog [volumes] = .ok volumesRegistry := rfl

def titled (entity : EntityRef) (title : String) : Document where
  entity := entity
  fields := SortedMap.ofList [("title", [title])]

/-- An index with an old title of a book, and with a book and a shelf that nobody knows of. -/
def neglected : SearchIndex where
  documents := SortedMap.ofList [(⟨book, 3⟩, titled ⟨book, 3⟩ "logic."),
    (⟨book, 7⟩, titled ⟨book, 7⟩ "lost"), (⟨shelf, 9⟩, titled ⟨shelf, 9⟩ "attic")]

/-- Rebuilding volumes corrects the title, drops the book, and leaves the shelf. -/
theorem neglected_volumes_repaired :
    let store := (Store.empty catalog).run furnish
    ∃ after, (Indexer.mk volumesRegistry store.view).rebuild SearchIndex.target volume neglected =
        (.ok 1, after) ∧
      after.held ⟨book, 3⟩ = some (titled ⟨book, 3⟩ "Logic") ∧ after.held ⟨book, 7⟩ = none ∧
      after.held ⟨shelf, 9⟩ = some (titled ⟨shelf, 9⟩ "attic") := by
  intro store
  have onCatalog : store.catalog = catalog := Store.catalog_run catalog furnish
  obtain ⟨named, -⟩ :=
    (Registry.rebuilds_repair declared volumes_registered store).2 onCatalog neglected rfl
  obtain ⟨after, success, rebuilt⟩ := named volumes (List.mem_cons_self ..) volume
    (.inr (List.mem_cons_self ..))
  refine ⟨after, ?_, ?_, ?_, ?_⟩
  · rw [success]
    rfl
  · exact Except.ok.inj ((rebuilt.fresh 3).symm.trans rfl)
  · exact Except.ok.inj ((rebuilt.fresh 7).symm.trans rfl)
  · exact rebuilt.others ⟨shelf, 9⟩ (by decide)

end Library
end EntitySearch
