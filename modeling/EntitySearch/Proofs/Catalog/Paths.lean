import EntitySearch.Proofs.Catalog.Declared
import EntitySearch.Schema.Registry

/-!
# Steps through a catalog

`Connects model steps target` says that the steps lead from one model to the other along relations
of the catalog, as all lists of steps do that `Catalog.hops` answers.  Where every relation can be
walked back, the reversed steps connect the other way round, and the names along them are the way
back that a registry computes.
-/
set_option autoImplicit false
namespace EntitySearch
namespace Catalog

def Hop.back (hop : Hop) : Hop := ⟨hop.relation.target, hop.relation.dual hop.source⟩

def backward (steps : List Hop) : List Hop := (steps.map Hop.back).reverse

@[simp] theorem backward_nil : backward [] = [] := rfl

@[simp] theorem backward_cons (hop : Hop) (rest : List Hop) :
    backward (hop :: rest) = backward rest ++ [hop.back] := by
  simp [backward]

theorem wayBack_eq (steps : List Hop) :
    wayBack steps = (backward steps).map fun hop => hop.relation.name := by
  rw [wayBack, backward, List.map_reverse, List.map_reverse, List.map_map]
  rfl

def stepsAlong (catalog : Catalog) (model : TypeName) (path : List String) : List Hop :=
  match catalog.hops model path with
  | .ok steps => steps
  | .error _ => []

theorem stepsAlong_eq {catalog : Catalog} {model : TypeName} {path : List String}
    {steps : List Hop} (walked : catalog.hops model path = .ok steps) :
    catalog.stepsAlong model path = steps := by
  rw [stepsAlong, walked]

/-- The steps lead from a model to another along relations of the catalog. -/
def Connects (catalog : Catalog) : TypeName → List Hop → TypeName → Prop
  | model, [], target => model = target
  | model, hop :: rest, target =>
      hop.source = model ∧ catalog.relation? model hop.relation.name = some hop.relation ∧
        Connects catalog hop.relation.target rest target

theorem connects_append {catalog : Catalog} {model target : TypeName} {first rest : List Hop} :
    catalog.Connects model (first ++ rest) target ↔
      ∃ middle, catalog.Connects model first middle ∧ catalog.Connects middle rest target := by
  induction first generalizing model with
  | nil => simp [Connects]
  | cons hop first ih => simp [Connects, ih, and_assoc]

theorem connects_of_hops {catalog : Catalog} (paired : catalog.Paired) {model : TypeName}
    {path : List String} {steps : List Hop} (walked : catalog.hops model path = .ok steps) :
    path = (steps.map fun hop => hop.relation.name) ∧
      ∃ target, catalog.Connects model steps target := by
  induction path generalizing model steps with
  | nil =>
      cases walked
      exact ⟨rfl, model, rfl⟩
  | cons name rest ih =>
      unfold hops at walked
      split at walked
      · cases walked
      · next relation stored =>
        obtain ⟨later, further, rfl⟩ := map_eq_ok walked
        obtain ⟨names, target, connects⟩ := ih further
        have named := (paired model name relation stored).1
        refine ⟨?_, target, rfl, ?_, connects⟩
        · rw [List.map_cons, ← names, named]
        · rw [named]
          exact stored

/-- Reversed steps connect the other way round. -/
theorem connects_backward {catalog : Catalog} (paired : catalog.Paired) {model target : TypeName}
    {steps : List Hop} (connects : catalog.Connects model steps target) :
    catalog.Connects target (backward steps) model := by
  induction steps generalizing model with
  | nil => exact Eq.symm connects
  | cons hop rest ih =>
      obtain ⟨rfl, stored, later⟩ := connects
      obtain ⟨-, -, back⟩ := paired _ _ _ stored
      rw [backward_cons, connects_append]
      exact ⟨hop.relation.target, ih later, rfl, back, rfl⟩

end Catalog
end EntitySearch
