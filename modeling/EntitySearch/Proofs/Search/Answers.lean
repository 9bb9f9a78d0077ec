import EntitySearch.Proofs.Data.Fallible
import EntitySearch.Proofs.Registry.Orderly
import EntitySearch.Search.Engine
import Mathlib.Data.List.Nodup

/-!
# What an index answers

Every field of a registered type ends at an attribute, so making the filter of a scope never fails
for a registered type.  An index that is online and whose base set can be told answers every scope
then, and asking leaves it online.

Main statements: `kind_of_ofTypes`, `exists_filter`, `exists_answer`.
-/
set_option autoImplicit false
namespace EntitySearch

namespace Registry
variable {registry grown : Registry} {type : EntityType}

def Kinded (registry : Registry) : Prop :=
  ∀ name type, registry.types.get? name = some type → ∀ field ∈ type.fields,
    ∃ kind, field.kind registry.catalog type.name = .ok kind

theorem kind_of_checkField {owner : TypeName} {field : Field}
    (passed : registry.checkField owner field = .ok ()) :
    ∃ kind, field.kind registry.catalog owner = .ok kind := by
  unfold checkField at passed
  unfold Field.kind
  cases walked : registry.catalog.hops owner field.path.relations with
  | error missing =>
      rw [walked] at passed
      cases passed
  | ok steps =>
      simp only [walked] at passed ⊢
      cases ends : registry.catalog.attrKind? (Catalog.terminal owner steps) field.path.attr with
      | none =>
          rw [ends] at passed
          cases passed
      | some kind => exact ⟨kind, rfl⟩

theorem kinded_register (kinded : registry.Kinded) (success : registry.register type = .ok grown) :
    grown.Kinded := by
  obtain ⟨-, -, checked, rfl⟩ := register_eq_ok success
  intro name found stored field member
  rw [SortedMap.get?_insert] at stored
  split at stored
  · cases stored
    exact kind_of_checkField (checked field member)
  · exact kinded name found stored field member

theorem mem_of_get {name : TypeName} (got : registry.get name = .ok type) :
    type ∈ registry.entityTypes := by
  unfold get at got
  cases found : registry.lookup name with
  | none =>
      rw [found] at got
      cases got
  | some known =>
      rw [found] at got
      cases got
      have stored := SortedMap.get?_eq_some_iff.1 found
      exact List.mem_map.2 ⟨_, stored, rfl⟩

theorem kind_of_ofTypes {catalog : Catalog} {types : List EntityType}
    (registered : ofTypes catalog types = .ok registry) (member : type ∈ registry.entityTypes)
    {field : Field} (isField : field ∈ type.fields) :
    ∃ kind, field.kind registry.catalog type.name = .ok kind := by
  have kinded : registry.Kinded := by
    refine foldlM_keeps (fun kinded => kinded_register kinded) ?_ registered
    intro name type stored
    cases stored
  have orderly := (orderly_of_ofTypes registered).1
  exact kinded type.name type (orderly.mem_entityTypes.1 member) field isField

end Registry

theorem EntityType.field?_of_mem {type : EntityType} {field : Field}
    (isField : field ∈ type.fields) :
    type.field? field.name = some field := by
  cases found : type.field? field.name with
  | none => simpa using List.find?_eq_none.1 found field isField
  | some other =>
      obtain ⟨isOther, named⟩ := EntityType.mem_of_field? found
      rw [List.inj_on_of_nodup_map type.names_nodup isOther isField named]

theorem EntityType.mem_of_mem_freeTextFields {type : EntityType} {priority : List String}
    {limit : Nat} {field : Field} (member : field ∈ type.freeTextFields priority limit) :
    field ∈ type.fields := by
  have chosen := List.mem_of_mem_take member
  split at chosen
  · exact (List.mem_filter.1 (List.mem_mergeSort.1 chosen)).1
  · split at chosen
    · obtain ⟨attr, -, found⟩ := List.mem_flatMap.1 chosen
      exact (List.mem_filter.1 found).1
    · exact chosen

namespace Binding
variable {binding : Binding} {catalog : Catalog} {type : EntityType} {scope : Scope}

theorem mem_of_mem_select {mode : QueryMode} {field : Field} {value : String}
    (member : (field, value) ∈ binding.select type scope mode) : field ∈ type.fields := by
  unfold select at member
  cases mode with
  | freeText =>
      dsimp only at member
      split at member
      · cases member
      · split at member
        · cases member
        · obtain ⟨chosen, found, same⟩ := List.mem_map.1 member
          cases same
          exact EntityType.mem_of_mem_freeTextFields found
  | structured =>
      obtain ⟨⟨name, text⟩, -, bound⟩ := List.mem_filterMap.1 member
      dsimp only at bound
      split at bound
      · cases bound
      · obtain ⟨known, found, same⟩ := Option.map_eq_some_iff.1 bound
        cases same
        exact (EntityType.mem_of_field? found).1

theorem exists_filter (binding : Binding)
    (kinds : ∀ field ∈ type.fields, ∃ kind, field.kind catalog type.name = .ok kind)
    (scope : Scope) (mode : QueryMode) :
    ∃ filter, binding.filter catalog type scope mode = .ok filter := by
  unfold Binding.filter
  refine exists_bind_eq_ok (exists_mapM_eq_ok fun bound member => ?_) fun clauses => ?_
  · obtain ⟨field, value⟩ := bound
    obtain ⟨kind, known⟩ := kinds field (mem_of_mem_select member)
    unfold clause?
    dsimp only
    split
    · exact ⟨none, rfl⟩
    · exact ⟨_, by rw [known]; rfl⟩
  · cases Predicate.combine scope.matchAll (clauses.filterMap id) with
    | none => exact ⟨.nothing, rfl⟩
    | some predicate => exact ⟨.matching predicate, rfl⟩

end Binding

/-! ## Answers -/

namespace Evaluator
variable {evaluator : Evaluator} {type : EntityType} {base : List Nat} {index : SearchIndex}

theorem fetch_eq (based : evaluator.base type = .ok base) (ids : List Nat) :
    evaluator.fetch type ids = .ok (Hits.ofList (ids.filter fun id =>
      base.contains id && evaluator.view.contains ⟨type.name, id⟩)) := by
  unfold fetch
  split
  · next empty =>
    rw [List.isEmpty_iff.1 empty]
    rfl
  · rw [based]
    rfl

theorem exists_hits (based : evaluator.base type = .ok base)
    (kinds : ∀ field ∈ type.fields, ∃ kind, field.kind evaluator.catalog type.name = .ok kind)
    (index : SearchIndex) (scope : Scope) (mode : QueryMode) :
    ∃ hits, evaluator.hits index type scope mode = .ok hits := by
  obtain ⟨filter, made⟩ := Binding.exists_filter evaluator.binding kinds scope mode
  unfold hits
  rw [made]
  cases filter with
  | nothing => exact ⟨Hits.none, rfl⟩
  | matching predicate => exact ⟨_, fetch_eq based _⟩

theorem answer_offline (offline : index.online = false) (type : EntityType) (actor : String)
    (now : Nat) (scope : Scope) :
    evaluator.answer type actor now scope index =
      (.error (.backendUnavailable "the search index is offline"), index) := by
  simp [answer, SearchIndex.checkOnline, offline]

/-- Without a cache, an index that is online answers the hits of the cleaned scope. -/
theorem answer_uncached (online : index.online = true) (uncached : index.cache? = none)
    (type : EntityType) (actor : String) (now : Nat) (scope : Scope) :
    evaluator.answer type actor now scope index =
      (evaluator.hits index type (scope.cleaned type) scope.mode, index) := by
  simp [answer, SearchIndex.checkOnline, online, uncached]

/-- An index that is online answers every scope and stays online. -/
theorem exists_answer (based : evaluator.base type = .ok base)
    (kinds : ∀ field ∈ type.fields, ∃ kind, field.kind evaluator.catalog type.name = .ok kind)
    (actor : String) (now : Nat) (scope : Scope) (online : index.online = true) :
    ∃ hits after, evaluator.answer type actor now scope index = (.ok hits, after) ∧
      after.online = true := by
  obtain ⟨found, evaluated⟩ := exists_hits based kinds index (scope.cleaned type) scope.mode
  unfold answer
  simp only [SearchIndex.checkOnline, online, if_true, evaluated]
  split
  · next cache key _ _ =>
    cases cache.get? now key with
    | some cached => exact ⟨cached, index, rfl, online⟩
    | none => exact ⟨found, _, rfl, rfl⟩
  · exact ⟨found, index, rfl, online⟩

end Evaluator

namespace Library

def guardedTypes : List EntityType := types.map fun type => { type with permission? := some "read" }

def guardedRegistry : Registry := (Registry.ofTypes catalog guardedTypes).toOption.getD { catalog }

theorem guarded : Registry.ofTypes catalog guardedTypes = .ok guardedRegistry := rfl

def guardedBook : EntityType := guardedRegistry.entityTypes[0]

theorem get_guardedBook : guardedRegistry.get book = .ok guardedBook := by
  have orderly := (Registry.orderly_of_ofTypes guarded).1
  have named : guardedBook.name = book := by decide +kernel
  have known : guardedRegistry.lookup guardedBook.name = some guardedBook :=
    orderly.lookup_name (List.getElem_mem _)
  rw [named] at known
  rw [Registry.get, known]

def decoded (search : Search) : QueryTree :=
  (QueryTree.decode search.request search.matchAll).toOption.getD {}

end Library
end EntitySearch
