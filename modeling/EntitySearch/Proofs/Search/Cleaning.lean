import EntitySearch.Proofs.Query.Trimming
import EntitySearch.Search.SearchIndex
import Mathlib.Data.List.Basic

/-!
# Cleaning a scope

Cleaning leaves the filter of a scope as it is: the values that go would be bound to no field, and
the others have the same terms.

Main statement: `filter_cleaned`.
-/
set_option autoImplicit false
namespace EntitySearch

theorem Scope.freeText?_of_mode {scope : Scope} (mode : scope.mode = .freeText) :
    ∃ value, scope.freeText? = some value := by
  unfold Scope.mode at mode
  split at mode
  · next present => exact Option.isSome_iff_exists.1 present
  · cases mode

namespace Scope
variable {scope : Scope} {type : EntityType}

theorem freeText?_cleaned (mode : scope.mode = .freeText) {value : String}
    (given : scope.freeText? = some value) :
    (scope.cleaned type).freeText? =
      if trimmedValue value = "" then none else some (trimmedValue value) := by
  change (scope.cleanedFields type scope.mode).get? anyField = _
  rw [mode, cleanedFields, given, Option.map_some]
  dsimp only
  split
  · rfl
  · rw [SortedMap.get?_insert, if_pos rfl]

theorem entries_cleaned (mode : scope.mode = .structured) :
    (scope.cleaned type).fields.entries =
      (scope.fields.entries.map fun e => (e.1, trimmedValue e.2)).filter fun e =>
        e.2 ≠ "" && (type.field? e.1).isSome := by
  simp only [cleaned, mode]
  rfl

end Scope

namespace Binding
variable (binding : Binding) (type : EntityType) (scope : Scope)

theorem select_cleaned :
    binding.select type (scope.cleaned type) scope.mode =
      (binding.select type scope scope.mode).map fun e => (e.1, trimmedValue e.2) := by
  cases mode : scope.mode with
  | freeText =>
      obtain ⟨value, given⟩ := Scope.freeText?_of_mode mode
      unfold select
      simp only [given, Scope.freeText?_cleaned mode given]
      by_cases blank : blankValue value = true
      · simp [trimmedValue_eq_empty_iff.2 blank, blank]
      · have kept : trimmedValue value ≠ "" := fun empty =>
          blank (trimmedValue_eq_empty_iff.1 empty)
        simp only [if_neg kept, blankValue_trimmedValue, if_neg blank, List.map_map]
        rfl
  | structured =>
      unfold select
      rw [Scope.entries_cleaned mode, List.filterMap_filter, List.filterMap_map,
        List.map_filterMap]
      refine List.filterMap_congr fun ⟨name, value⟩ _ => ?_
      by_cases blank : blankValue value = true
      · simp [trimmedValue_eq_empty_iff.2 blank, blank]
      · have kept : trimmedValue value ≠ "" := fun empty =>
          blank (trimmedValue_eq_empty_iff.1 empty)
        cases known : type.field? name with
        | none => simp [known]
        | some field => simp [kept, known, blankValue_trimmedValue, blank]

/-- Cleaning a scope leaves its filter as it is. -/
theorem filter_cleaned (catalog : Catalog) :
    binding.filter catalog type (scope.cleaned type) scope.mode =
      binding.filter catalog type scope scope.mode := by
  unfold Binding.filter
  have same : ∀ field value, binding.clause? catalog type field (trimmedValue value) =
      binding.clause? catalog type field value := by
    intro field value
    unfold clause?
    rw [Term.ofText_trimmedValue]
  rw [select_cleaned, List.mapM_map]
  simp only [Function.comp_def, same]
  rfl

end Binding
end EntitySearch
