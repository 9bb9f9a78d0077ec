import EntitySearch.Data.Distinct
import EntitySearch.Error
import EntitySearch.Schema.Value

/-!
# What a store shows

Search and indexing read entities through a view: which identifiers a type has, whether an entity
exists, its attributes, and the entities a relation leads to.  `StoreView.resolve` follows a path of
relations; each step keeps first occurrences only, so its answers hold no entity twice.
-/
set_option autoImplicit false
namespace EntitySearch

/-- The stored entities as search and indexing read them. -/
structure StoreView where
  ids : TypeName → List Nat
  contains : EntityRef → Bool
  /-- An attribute of an entity; `none` when the entity does not exist. -/
  attr? : EntityRef → String → Option Value
  related : EntityRef → String → Except SearchError (List EntityRef)

namespace StoreView

def follow (view : StoreView) (sources : List EntityRef) (relation : String) :
    Except SearchError (List EntityRef) :=
  (sources.mapM fun source => view.related source relation).map fun reached =>
    distinct reached.flatten

/-- The entities a path of relations leads to.  The empty path leads to the entity itself. -/
def resolve (view : StoreView) (entity : EntityRef) (path : List String) :
    Except SearchError (List EntityRef) :=
  path.foldlM view.follow [entity]

def breaking (view : StoreView) (relations : List String) : StoreView :=
  { view with
    related := fun entity relation =>
      if relation ∈ relations then .error (.storage (.brokenRelation relation))
      else view.related entity relation }

theorem breaking_nil (view : StoreView) : view.breaking [] = view := by
  simp [breaking]

end StoreView
end EntitySearch
