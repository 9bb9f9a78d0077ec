import EntitySearch.Proofs.Dataset.Relating
import EntitySearch.Proofs.Dataset.Schema

/-!
# What loading makes of a dataset

A dataset that can be loaded, and whose junctions have different names, is represented by the
service that loading gives: there is one entity for each record, with the attributes, the foreign
keys and the links that the records ask for, the index holds the documents of these entities as they
are in the end, and the entities of records have their keys.

Main statement: `represents_of_load`.
-/
set_option autoImplicit false
namespace EntitySearch
namespace Dataset

/-- A loaded service is what a dataset describes. -/
structure Represents (dataset : Dataset) (loaded : LoadedDataset) : Prop where
  catalog : dataset.catalog = .ok loaded.service.store.catalog
  registry : dataset.registry loaded.service.store.catalog = .ok loaded.service.registry
  indexed : loaded.service.index.inner.CoherentWith
    ⟨loaded.service.registry, loaded.service.store.view⟩
  entities : ∀ entity, loaded.service.store.contains entity = true ↔
    ∃ record, Stored dataset.records record entity
  one : ∀ record ∈ dataset.records, ∃! entity, Stored dataset.records record entity
  attributes : ∀ record entity, Stored dataset.records record entity →
    (loaded.service.store.records.get? entity).map Record.attributes =
      some (record.attributes.map fun _ value => Value.ofJson value)
  foreignKeys : ∀ holder name id, loaded.service.store.keyOf holder name = some id ↔
    (references dataset.records).Point dataset.records holder name id
  links : ∀ junction link, link ∈ loaded.service.store.linksOf junction ↔
    (references dataset.records).Pair loaded.service.store.catalog dataset.records junction link
  resolves : ∀ entity reference, references dataset.records entity reference →
    Resolves loaded.service.store.catalog dataset.records entity reference
  keys : ∀ entity key, loaded.keyOf? entity = some key ↔ Named dataset.records key entity

/-- Turned round, the entities by their keys are the keys of the entities. -/
theorem get?_ofList_swap {records : List RecordEntry} {byKey : ByKey}
    (byName : ∀ key entity, byKey.get? key = some entity ↔ Named records key entity)
    (entity : EntityRef) (key : String) :
    (SortedMap.ofList (byKey.entries.map fun (key, entity) => (entity, key))).get? entity =
      some key ↔ Named records key entity := by
  have distinctEntities :
      ((byKey.entries.map fun (key, entity) => (entity, key)).map Prod.fst).Nodup := by
    rw [List.map_map]
    refine List.Nodup.map_on ?_ (List.Nodup.of_map _ byKey.nodup_keys)
    rintro ⟨key, entity⟩ member ⟨other, found⟩ also same
    have named := (byName key entity).1 (SortedMap.get?_eq_some_iff.2 member)
    have alsoNamed := (byName other found).1 (SortedMap.get?_eq_some_iff.2 also)
    obtain rfl : entity = found := same
    rw [named.key_eq alsoNamed]
  rw [SortedMap.get?_ofList_eq_some_iff distinctEntities, ← byName, SortedMap.get?_eq_some_iff]
  simp

/-- Loading makes of a dataset what it describes. -/
theorem represents_of_load {dataset : Dataset} {config : Config} {loaded : LoadedDataset}
    (distinctJunctions : dataset.junctions.Nodup) (success : dataset.load config = .ok loaded) :
    dataset.Represents loaded := by
  obtain ⟨catalog, described, success⟩ := bind_eq_ok success
  obtain ⟨registry, registered, success⟩ := bind_eq_ok success
  obtain ⟨empty, assembled, success⟩ := bind_eq_ok success
  obtain ⟨⟨inserted, byKey⟩, insertedAll, success⟩ := bind_eq_ok success
  obtain ⟨service, relatedAll, success⟩ := bind_eq_ok success
  -- Neither the grants nor the check of the configuration change the store or the index.
  obtain ⟨grants, -, success⟩ := bind_eq_ok success
  obtain ⟨-, -, success⟩ := bind_eq_ok success
  cases success
  obtain ⟨grounded, sameCatalog⟩ := grounded_registry described registered distinctJunctions
  obtain ⟨_, -, rfl⟩ := Service.assemble_eq_ok assembled
  have stocked := stocked_of_foldlM grounded (Service.following_assemble assembled) rfl insertedAll
  have related := related_of_foldlM grounded stocked relatedAll
  have serves : service.registry = registry := related.following.prompt.serves
  have onCatalog : service.store.catalog = catalog :=
    related.following.sound.onCatalog.trans sameCatalog
  refine ⟨onCatalog ▸ described, onCatalog ▸ serves ▸ registered, ?_, ?_, ?_, ?_, related.keys, ?_,
    ?_, get?_ofList_swap stocked.named⟩
  · have coherent := related.following.coherent grounded
    rw [Service.Coherent, Service.indexer, related.following.prompt.seeing] at coherent
    exact serves ▸ coherent
  · exact fun entity => related.contains_iff
  · intro record member
    obtain ⟨entity, stored⟩ := exists_stored member
    refine ⟨entity, stored, fun other also => ?_⟩
    exact (stored.eq_of_key stocked.distinctKeys also rfl).2.symm
  · intro record entity stored
    exact (related.holds entity _).2 ⟨record, stored, rfl⟩
  · intro junction link
    rw [related.links, sameCatalog, onCatalog]
  · intro entity reference asked
    have resolved := related.resolves entity reference asked
    rwa [sameCatalog, ← onCatalog] at resolved

end Dataset

namespace Library

/-- The books come before the shelves they are placed on and the author they are linked with, from
one side or the other; a shelf is part of itself. -/
def dataset : Dataset where
  models := SortedMap.ofList
    [(shelf, SortedMap.ofList [("code", .text)]), (book, SortedMap.ofList [("title", .text)]),
      (author, SortedMap.ofList [("name", .text)])]
  relations :=
    [⟨.foreignKey, shelf, "whole", shelf, "parts"⟩, ⟨.foreignKey, book, "place", shelf, "books"⟩,
      ⟨.manyToMany, book, "authors", author, "works"⟩]
  types :=
    [{ name := book
       fields := [{ path := "title" }, { path := "place.whole.code" },
         { path := "authors.works.title" }] },
      { name := shelf
        fields := [{ path := "code" }, { path := "parts.code" }, { path := "books.title" }] }]
  records :=
    [{ key := "logic"
       model := book
       attributes := SortedMap.ofList [("title", .string "Logic")]
       foreignKeys := SortedMap.ofList [("place", "A1")]
       links := SortedMap.ofList [("authors", ["ada"])] },
      { key := "sets", model := book, foreignKeys := SortedMap.ofList [("place", "A")] },
      { key := "A1"
        model := shelf
        attributes := SortedMap.ofList [("code", .string "A1")]
        foreignKeys := SortedMap.ofList [("whole", "A")] },
      { key := "A", model := shelf, foreignKeys := SortedMap.ofList [("whole", "A")] },
      { key := "ada"
        model := author
        links := SortedMap.ofList [("works", ["sets", "logic"])] }]

theorem dataset_is_represented :
    ∃ loaded, dataset.load {} = .ok loaded ∧ dataset.Represents loaded ∧
      loaded.keyOf? ⟨shelf, 4⟩ = some "A" ∧ loaded.keyOf? ⟨book, 4⟩ = none ∧
      loaded.service.store.keyOf ⟨book, 1⟩ "place" = some 3 ∧
      ⟨2, 5⟩ ∈ loaded.service.store.linksOf authorship := by
  have loads : (dataset.load {}).toBool = true := by decide +kernel
  obtain ⟨loaded, success⟩ : ∃ loaded, dataset.load {} = .ok loaded := by
    cases tried : dataset.load {} with
    | error e =>
        rw [tried] at loads
        cases loads
    | ok loaded => exact ⟨loaded, rfl⟩
  have represents := Dataset.represents_of_load (by decide +kernel) success
  have onCatalog : loaded.service.store.catalog = catalog := by
    have described : dataset.catalog = .ok catalog := rfl
    exact Except.ok.inj (represents.catalog.symm.trans described)
  refine ⟨loaded, success, represents, ?_, ?_, ?_, ?_⟩
  · exact (represents.keys _ _).2 ⟨dataset.records[3], ⟨3, rfl, rfl⟩, rfl⟩
  · refine Option.eq_none_iff_forall_ne_some.2 fun key found => ?_
    obtain ⟨record, ⟨i, here, same⟩, -⟩ := (represents.keys _ _).1 found
    obtain rfl : i = 3 := (Nat.succ.inj (EntityRef.ext_iff.1 same).2).symm
    cases here
    revert same
    decide
  · have asked : dataset.records[0].foreignKeys.get? "place" = some "A1" := by decide +kernel
    exact (represents.foreignKeys _ _ _).2 ⟨"A1", ⟨shelf, 3⟩, ⟨_, ⟨0, rfl, rfl⟩, asked⟩,
      ⟨_, ⟨2, rfl, rfl⟩, rfl⟩, rfl⟩
  · have asked : dataset.records[4].links.get? "works" = some ["sets", "logic"] := by
      decide +kernel
    have works : loaded.service.store.catalog.relation? author "works" =
        some ⟨"works", book, .manyToMany authorship .right, "authors"⟩ := by
      rw [onCatalog]
      rfl
    exact (represents.links _ _).2 ⟨⟨author, 5⟩, "works", "sets", ⟨book, 2⟩, _, .right,
      ⟨_, ⟨4, rfl, rfl⟩, _, asked, List.mem_cons_self ..⟩, ⟨_, ⟨1, rfl, rfl⟩, rfl⟩, works, rfl, rfl⟩

end Library
end EntitySearch
