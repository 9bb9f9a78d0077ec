import EntitySearch.Dataset.Basic
import EntitySearch.Proofs.Catalog.Junctions
import EntitySearch.Proofs.Registry.Orderly

/-!
# The schema of a dataset

The catalog of a dataset is declared: first its models, then its relations.  Its registry is that of
the types its descriptions stand for.  So a dataset whose schema can be made has a grounded
registry, as long as its junctions have different names.

Main statement: `grounded_registry`.
-/
set_option autoImplicit false
namespace EntitySearch
namespace Dataset

def RelationEntry.declaration (entry : RelationEntry) : Declaration :=
  match entry.type with
  | .foreignKey => .foreignKey entry.source entry.name entry.target entry.reverse
  | .manyToMany => .manyToMany ⟨entry.source, entry.name, entry.target, entry.reverse⟩

theorem RelationEntry.declare_eq (catalog : Catalog) (entry : RelationEntry) :
    entry.declare catalog = entry.declaration.declare catalog := by
  unfold declare declaration
  cases entry.type <;> rfl

def declarations (dataset : Dataset) : List Declaration :=
  (dataset.models.entries.map fun model => .model model.1 model.2.entries) ++
    dataset.relations.map RelationEntry.declaration

theorem catalog_eq (dataset : Dataset) :
    dataset.catalog = Catalog.empty.declareAll dataset.declarations := by
  rw [Catalog.declareAll, declarations, List.foldlM_append, List.foldlM_map]
  simp only [List.foldlM_map, ← RelationEntry.declare_eq]
  rfl

def junctions (dataset : Dataset) : List String :=
  (dataset.relations.filter fun entry => entry.type = .manyToMany).map fun entry =>
    Catalog.junctionName entry.source entry.name

theorem junctions_eq (dataset : Dataset) :
    (linkagesOf dataset.declarations).map Linkage.junction = dataset.junctions.reverse := by
  have models : (dataset.models.entries.map fun model =>
      Declaration.model model.1 model.2.entries).filterMap Declaration.linkage? = [] := by
    rw [List.filterMap_map]
    exact List.filterMap_eq_nil_iff.2 fun _ _ => rfl
  rw [linkagesOf, declarations, List.filterMap_append, models, List.nil_append, List.map_reverse,
    junctions, List.filterMap_map]
  congr 1
  induction dataset.relations with
  | nil => rfl
  | cons entry rest ih =>
      rw [List.filterMap_cons, List.filter_cons]
      cases kind : entry.type with
      | foreignKey => simp [RelationEntry.declaration, kind, Declaration.linkage?, ih]
      | manyToMany =>
          simp [RelationEntry.declaration, kind, Declaration.linkage?, ih, Linkage.junction]

theorem declared_catalog {dataset : Dataset} {catalog : Catalog}
    (described : dataset.catalog = .ok catalog) : catalog.Declared dataset.junctions.reverse := by
  rw [catalog_eq] at described
  rw [← junctions_eq]
  exact (Catalog.linked_of_declareAll described).declared

theorem exists_ofTypes {dataset : Dataset} {catalog : Catalog} {registry : Registry}
    (described : dataset.registry catalog = .ok registry) :
    ∃ types, Registry.ofTypes catalog types = .ok registry := by
  have keeps : ∀ {entry registry grown}, (∃ types, Registry.ofTypes catalog types = .ok registry) →
      TypeEntry.register registry entry = .ok grown →
        ∃ types, Registry.ofTypes catalog types = .ok grown := by
    rintro entry registry grown ⟨types, made⟩ registered
    obtain ⟨type, -, success⟩ := bind_eq_ok registered
    refine ⟨types ++ [type], ?_⟩
    rw [Registry.ofTypes] at made ⊢
    rw [List.foldlM_append, made]
    change [type].foldlM Registry.register registry = _
    rw [List.foldlM_cons, success]
    rfl
  exact foldlM_keeps keeps ⟨[], rfl⟩ described

theorem grounded_registry {dataset : Dataset} {catalog : Catalog} {registry : Registry}
    (described : dataset.catalog = .ok catalog)
    (registered : dataset.registry catalog = .ok registry)
    (distinctNames : dataset.junctions.Nodup) : registry.Grounded ∧ registry.catalog = catalog := by
  obtain ⟨types, made⟩ := exists_ofTypes registered
  exact Registry.grounded_of_ofTypes (declared_catalog described)
    (List.nodup_reverse.2 distinctNames) made

end Dataset
end EntitySearch
