import EntitySearch.Proofs.Catalog.Paths
import EntitySearch.Proofs.Data.Fallible
import EntitySearch.Schema.Registry

/-!
# Orderly registries

Whatever types are registered over a catalog, each is stored under its own name, no further name of
a type hides another type, and the path of every field can be walked.  So the name of a registered
type stands for that type, and the steps of its fields are steps of the catalog.

Main statements: `orderly_of_ofTypes`, `Orderly.lookup_name`, `Orderly.connects`.
-/
set_option autoImplicit false
namespace EntitySearch

open Catalog (Hop)

/-- A field of a type takes a step after some others. -/
def EntityType.Takes (catalog : Catalog) (type : EntityType) (first : List Hop) (hop : Hop) :
    Prop :=
  ∃ field ∈ type.fields, ∃ rest,
    catalog.hops type.name field.path.relations = .ok (first ++ hop :: rest)

namespace Registry

/-- What holds of a registry whatever was registered. -/
structure Orderly (registry : Registry) : Prop where
  named : ∀ name type, registry.types.get? name = some type → type.name = name
  apart : ∀ name, registry.types.contains name → registry.others.get? name = none
  walkable : ∀ name type, registry.types.get? name = some type → ∀ field ∈ type.fields,
    ∃ steps, registry.catalog.hops type.name field.path.relations = .ok steps

theorem hops_of_checkField {registry : Registry} {owner : TypeName} {field : Field}
    (passed : registry.checkField owner field = .ok ()) :
    ∃ steps, registry.catalog.hops owner field.path.relations = .ok steps := by
  unfold checkField at passed
  split at passed
  · cases passed
  · next steps walked => exact ⟨steps, walked⟩

theorem register_eq_ok {registry grown : Registry} {type : EntityType}
    (success : registry.register type = .ok grown) :
    registry.isTaken type.name = false ∧
      (∀ other ∈ type.others, registry.isTaken other = false ∧ other ≠ type.name) ∧
      (∀ field ∈ type.fields, registry.checkField type.name field = .ok ()) ∧
      grown = { registry with
        types := registry.types.insert type.name type
        others := type.others.foldl (fun others other => others.insert other type.name)
          registry.others } := by
  unfold register at success
  obtain ⟨free, success⟩ := guard_eq_ok success
  obtain ⟨-, success⟩ := guard_eq_ok success
  cases clash : type.others.find? fun other => registry.isTaken other || other = type.name with
  | some other =>
      rw [clash] at success
      cases success
  | none =>
      rw [clash] at success
      obtain ⟨_, checks, success⟩ := bind_eq_ok success
      refine ⟨Bool.eq_false_iff.2 free, ?_, forM_eq_ok checks,
        (Except.ok.inj success).symm⟩
      intro other member
      simpa using List.find?_eq_none.1 clash other member

theorem isTaken_eq_false {registry : Registry} {name : TypeName} :
    registry.isTaken name = false ↔
      registry.types.get? name = none ∧ registry.others.get? name = none := by
  simp [isTaken, SortedMap.contains]

section Register
variable {registry grown : Registry} {type : EntityType}
  (success : registry.register type = .ok grown)
include success

theorem get?_types_register (name : TypeName) :
    grown.types.get? name = if name = type.name then some type else registry.types.get? name := by
  obtain ⟨-, -, -, rfl⟩ := register_eq_ok success
  exact SortedMap.get?_insert registry.types type.name type name

theorem get?_others_register (name : TypeName) :
    grown.others.get? name =
      if name ∈ type.others then some type.name else registry.others.get? name := by
  obtain ⟨-, -, -, rfl⟩ := register_eq_ok success
  have written := SortedMap.get?_foldl_insert (fun other : TypeName => other) type.name type.others
    registry.others name
  rw [List.map_id'] at written
  exact written

theorem isTaken_of_new {name : TypeName} (new : name = type.name ∨ name ∈ type.others) :
    registry.isTaken name = false := by
  obtain ⟨free, othersFree, -, -⟩ := register_eq_ok success
  rcases new with rfl | member
  · exact free
  · exact (othersFree name member).1

theorem catalog_register : grown.catalog = registry.catalog := by
  obtain ⟨-, -, -, rfl⟩ := register_eq_ok success
  rfl

theorem orderly_register (orderly : registry.Orderly) : grown.Orderly := by
  obtain ⟨-, othersFree, checked, -⟩ := register_eq_ok success
  refine ⟨?_, ?_, ?_⟩
  · intro name found stored
    rw [get?_types_register success] at stored
    split at stored
    · next same =>
      cases stored
      exact same.symm
    · exact orderly.named name found stored
  · intro name stored
    obtain ⟨found, stored⟩ := Option.isSome_iff_exists.1 stored
    rw [get?_types_register success] at stored
    have notOther : name ∉ type.others := by
      intro member
      obtain ⟨free, differs⟩ := othersFree name member
      rw [if_neg differs, (isTaken_eq_false.1 free).1] at stored
      cases stored
    rw [get?_others_register success, if_neg notOther]
    split at stored
    · next same => exact (isTaken_eq_false.1 (isTaken_of_new success (Or.inl same))).2
    · exact orderly.apart name (Option.isSome_iff_exists.2 ⟨found, stored⟩)
  · intro name found stored field member
    rw [get?_types_register success] at stored
    rw [catalog_register success]
    split at stored
    · cases stored
      exact hops_of_checkField (checked field member)
    · exact orderly.walkable name found stored field member

end Register

theorem orderly_empty (catalog : Catalog) : ({ catalog } : Registry).Orderly := by
  refine ⟨?_, ?_, ?_⟩
  · intro name type stored
    cases stored
  · intro name stored
    cases stored
  · intro name type stored
    cases stored

theorem orderly_of_ofTypes {catalog : Catalog} {types : List EntityType} {registry : Registry}
    (registered : ofTypes catalog types = .ok registry) :
    registry.Orderly ∧ registry.catalog = catalog := by
  have keeps : ∀ {registry grown : Registry} {type : EntityType},
      registry.Orderly ∧ registry.catalog = catalog → registry.register type = .ok grown →
        grown.Orderly ∧ grown.catalog = catalog := by
    rintro registry grown type ⟨orderly, rfl⟩ success
    exact ⟨orderly_register success orderly, catalog_register success⟩
  exact foldlM_keeps keeps ⟨orderly_empty catalog, rfl⟩ registered

namespace Orderly
variable {registry : Registry} {type : EntityType}

theorem mem_entityTypes (orderly : registry.Orderly) :
    type ∈ registry.entityTypes ↔ registry.types.get? type.name = some type := by
  rw [entityTypes, SortedMap.values, List.mem_map]
  constructor
  · rintro ⟨⟨name, found⟩, member, rfl⟩
    have stored := SortedMap.get?_eq_some_iff.2 member
    rw [orderly.named name found stored]
    exact stored
  · intro stored
    exact ⟨(type.name, type), SortedMap.get?_eq_some_iff.1 stored, rfl⟩

theorem lookup_name (orderly : registry.Orderly) (member : type ∈ registry.entityTypes) :
    registry.lookup type.name = some type := by
  have stored := orderly.mem_entityTypes.1 member
  have noOther : registry.others.get? type.name = none := by
    apply orderly.apart
    simp [SortedMap.contains, stored]
  rw [lookup, noOther]
  exact stored

theorem isSome_lookup (orderly : registry.Orderly) (member : type ∈ registry.entityTypes)
    {owner : EntityRef} (typed : owner.typeName = type.name) :
    (registry.lookup owner.typeName).isSome := by
  rw [typed, orderly.lookup_name member]
  rfl

theorem connects (orderly : registry.Orderly) (paired : registry.catalog.Paired)
    (member : type ∈ registry.entityTypes) {field : Field} (isField : field ∈ type.fields) :
    ∃ steps target, registry.catalog.hops type.name field.path.relations = .ok steps ∧
      field.path.relations = (steps.map fun hop => hop.relation.name) ∧
      registry.catalog.Connects type.name steps target := by
  have stored := orderly.mem_entityTypes.1 member
  obtain ⟨steps, walked⟩ := orderly.walkable type.name type stored field isField
  obtain ⟨names, target, connects⟩ := Catalog.connects_of_hops paired walked
  exact ⟨steps, target, walked, names, connects⟩

end Orderly

theorem connects_of_takes {catalog : Catalog} (paired : catalog.Paired) {type : EntityType}
    {first : List Hop} {hop : Hop} (takes : type.Takes catalog first hop) :
    catalog.Connects type.name first hop.source ∧
      catalog.relation? hop.source hop.relation.name = some hop.relation := by
  obtain ⟨field, -, rest, walked⟩ := takes
  obtain ⟨-, target, connects⟩ := Catalog.connects_of_hops paired walked
  obtain ⟨middle, before, sourced, stored, -⟩ := Catalog.connects_append.1 connects
  subst sourced
  exact ⟨before, stored⟩

/-- A registry over a catalog whose relations lead back and whose junctions are not shared. -/
structure Grounded (registry : Registry) : Prop where
  orderly : registry.Orderly
  paired : registry.catalog.Paired
  owned : registry.catalog.JunctionsOwned

theorem grounded_of_ofTypes {catalog : Catalog} {names : List String} {types : List EntityType}
    {registry : Registry} (declared : catalog.Declared names) (distinctNames : names.Nodup)
    (registered : ofTypes catalog types = .ok registry) :
    registry.Grounded ∧ registry.catalog = catalog := by
  obtain ⟨orderly, onCatalog⟩ := orderly_of_ofTypes registered
  refine ⟨⟨orderly, ?_, ?_⟩, onCatalog⟩
  · exact onCatalog ▸ declared.paired
  · exact onCatalog ▸ declared.junctionsOwned distinctNames

end Registry

/-! ## A small library

Books stand on shelves and have authors, and a shelf may be part of another one. -/

namespace Library

def shelf : TypeName := ⟨"library", "shelf", by decide⟩

def book : TypeName := ⟨"library", "book", by decide⟩

def author : TypeName := ⟨"library", "author", by decide⟩

def declare : Except SearchError Catalog := do
  let catalog ← Catalog.empty.defineModel shelf [("code", .text)]
  let catalog ← catalog.defineModel book [("title", .text)]
  let catalog ← catalog.defineModel author [("name", .text)]
  let catalog ← catalog.foreignKey shelf "whole" shelf "parts"
  let catalog ← catalog.foreignKey book "place" shelf "books"
  let (_, catalog) ← catalog.manyToMany book "authors" author "works"
  return catalog

def catalog : Catalog := declare.toOption.getD .empty

def authorship : String := Catalog.junctionName book "authors"

theorem declared : catalog.Declared [authorship] := by
  have models := ((Catalog.Declared.empty.model shelf [("code", .text)] rfl).model book
    [("title", .text)] rfl).model author [("name", .text)] rfl
  have keys := (models.foreignKey shelf "whole" shelf "parts" rfl).foreignKey book "place" shelf
    "books" rfl
  exact keys.manyToMany book "authors" author "works" rfl

def field (name : String) (relations : List String) (attr : String) : Field :=
  { name, path := ⟨relations, attr⟩ }

/-- A book is found by its title, the code of the shelf that its place is part of, and the titles
of all works of its authors; a shelf is found by its code and those of its parts. -/
def types : List EntityType :=
  [{ name := book
     fields := [field "title" [] "title", field "place.whole.code" ["place", "whole"] "code",
       field "authors.works.title" ["authors", "works"] "title"]
     fields_ne_nil := by decide
     names_nodup := by decide },
   { name := shelf
     fields := [field "code" [] "code", field "parts.code" ["parts"] "code"]
     fields_ne_nil := by decide
     names_nodup := by decide }]

def registry : Registry := (Registry.ofTypes catalog types).toOption.getD { catalog }

theorem registered : Registry.ofTypes catalog types = .ok registry := rfl

end Library
end EntitySearch
