import EntitySearch.Proofs.Query.Composing
import EntitySearch.Proofs.Search.Cleaning
import EntitySearch.Proofs.Service.Following

/-!
# What does not matter to a scope

Cleaning a scope leaves its filter as it is, in whatever mode the cleaned scope is read.  A further
value in which there is nothing to search for leaves the hits of a scope as they are too, unless it
is free text: any free text makes the scope a free-text query, which passes over all other values.

Main statements: `filter_as_cleaned`, `answer_setField_iff`.
-/
set_option autoImplicit false
namespace EntitySearch

namespace Scope
variable {scope : Scope} {type : EntityType}

theorem mode_cleaned_of_structured (mode : scope.mode = .structured) :
    (scope.cleaned type).mode = .structured := by
  have absent : scope.fields.get? anyField = none := by
    unfold Scope.mode SortedMap.contains at mode
    split at mode
    · cases mode
    · next missing => simpa using missing
  have cleared : (scope.cleaned type).fields.get? anyField = none := by
    simp only [cleaned, mode, cleanedFields, SortedMap.get?_filter, SortedMap.get?_map, absent]
    rfl
  rw [Scope.mode, SortedMap.contains, cleared]
  rfl

end Scope

namespace Binding
variable {binding : Binding} {type : EntityType} {scope : Scope}

/-- Only free text that is blank makes a cleaned scope change its mode, and then there is nothing
left to bind. -/
theorem select_cleaned_mode :
    binding.select type (scope.cleaned type) (scope.cleaned type).mode =
      binding.select type (scope.cleaned type) scope.mode := by
  cases mode : scope.mode with
  | structured => rw [Scope.mode_cleaned_of_structured mode]
  | freeText =>
      obtain ⟨value, given⟩ := Scope.freeText?_of_mode mode
      have left : (scope.cleaned type).freeText? =
          if trimmedValue value = "" then none else some (trimmedValue value) :=
        Scope.freeText?_cleaned mode given
      by_cases blank : trimmedValue value = ""
      · have none : (scope.cleaned type).fields = .empty := by
          simp only [Scope.cleaned, mode, Scope.cleanedFields, given, Option.map_some, blank,
            if_true]
        rw [Scope.mode, none]
        unfold select Scope.freeText?
        rw [none]
        rfl
      · rw [if_neg blank] at left
        have stays : (scope.cleaned type).mode = .freeText := by
          unfold Scope.freeText? at left
          rw [Scope.mode, SortedMap.contains, left]
          rfl
        rw [stays]

theorem filter_as_cleaned {catalog : Catalog} {types : List EntityType} {registry : Registry}
    (made : Registry.ofTypes catalog types = .ok registry) (member : type ∈ registry.entityTypes)
    (binding : Binding) (scope : Scope) :
    ∃ filter, binding.filter registry.catalog type scope scope.mode = .ok filter ∧
      binding.filter registry.catalog type (scope.cleaned type) scope.mode = .ok filter ∧
      binding.filter registry.catalog type (scope.cleaned type) (scope.cleaned type).mode =
        .ok filter := by
  obtain ⟨filter, filtered⟩ := exists_filter binding
    (fun field isField => Registry.kind_of_ofTypes made member isField) scope scope.mode
  have cleaned : binding.filter registry.catalog type (scope.cleaned type) scope.mode =
      .ok filter := by
    rw [filter_cleaned, filtered]
  refine ⟨filter, filtered, cleaned, ?_⟩
  unfold Binding.filter at cleaned ⊢
  rw [select_cleaned_mode, cleaned]

end Binding

namespace Library

def untidy : Scope where
  matchAll := true
  fields := SortedMap.ofList [("color", "red"), ("place.whole.code", "  "),
    ("title", " say \"hello  world ")]

theorem untidy_as_cleaned :
    let binding := Config.binding {} true
    let type := registry.entityTypes[0]
    untidy.cleaned type =
        ⟨true, SortedMap.empty.insert "title" "say \"hello  world"⟩ ∧
      ∃ filter, binding.filter registry.catalog type untidy .structured = .ok filter ∧
        binding.filter registry.catalog type (untidy.cleaned type) .structured = .ok filter := by
  intro binding type
  obtain ⟨filter, filtered, cleaned, -⟩ :=
    Binding.filter_as_cleaned registered (List.getElem_mem (n := 0) _) binding untidy
  exact ⟨by decide +kernel, filter, filtered, cleaned⟩

end Library

/-! ## Values that ask for nothing -/

namespace Scope
variable {scope : Scope} {name value : String}

theorem freeText?_setField (other : name ≠ anyField) :
    (scope.setField name value).freeText? = scope.freeText? := by
  rw [freeText?, setField, SortedMap.get?_insert, if_neg (Ne.symm other)]
  rfl

theorem mode_setField (other : name ≠ anyField) :
    (scope.setField name value).mode = scope.mode := by
  have same : (scope.setField name value).freeText? = scope.freeText? := freeText?_setField other
  unfold freeText? at same
  rw [mode, mode, SortedMap.contains, SortedMap.contains, same]

theorem mode_setField_anyField : (scope.setField anyField value).mode = .freeText := by
  simp [mode, setField, SortedMap.contains, SortedMap.get?_insert]

end Scope

namespace Binding

/-- Is there nothing to search for in a value, in any field that it would be bound to under a
name? -/
def Idle (binding : Binding) (type : EntityType) (name value : String) : Prop :=
  ∀ field,
    (if name = anyField then field ∈ type.freeTextFields binding.priority binding.limit
      else type.field? name = some field) →
    ∀ term ∈ Term.ofText value, ¬ field.Matchable term

variable {binding : Binding} {catalog : Catalog} {type : EntityType} {scope : Scope}
  {name value : String}

theorem idle_of_onlyKeywords (binding : Binding) (type : EntityType) (name : String)
    (keywords : Term.onlyKeywords (Term.ofText value) = true) : binding.Idle type name value :=
  fun _ _ => Field.not_matchable_of_onlyKeywords keywords

theorem clauses_structured (binding : Binding) (catalog : Catalog) (type : EntityType)
    (scope : Scope) :
    binding.clauses catalog type scope .structured = scope.fields.entries.filterMap fun e =>
      if blankValue e.2 then none
      else (type.field? e.1).bind fun field => binding.clause catalog type (field, e.2) := by
  rw [clauses, select, List.filterMap_filterMap]
  refine List.filterMap_congr fun e _ => ?_
  by_cases blank : blankValue e.2 = true
  · simp [blank]
  · cases known : type.field? e.1 <;> simp [blank, known]

theorem clauses_setField (absent : scope.fields.get? name = none)
    (idle : binding.Idle type name value) (other : name ≠ anyField) :
    binding.clauses catalog type (scope.setField name value) scope.mode =
      binding.clauses catalog type scope scope.mode := by
  cases scope.mode with
  | freeText => simp only [clauses, select, Scope.freeText?_setField other]
  | structured =>
      obtain ⟨before, after, whole, inserted⟩ := SortedMap.exists_split_insert absent value
      have noClause : (type.field? name).bind (fun field =>
          binding.clause catalog type (field, value)) = none := by
        refine Option.bind_eq_none_iff.2 fun field known => ?_
        exact Field.clauseFrom_eq_none_iff.2 (idle field (by rwa [if_neg other]))
      rw [clauses_structured, clauses_structured, whole, Scope.setField, inserted,
        List.filterMap_append, List.filterMap_append, List.filterMap_cons, noClause, ite_self]

theorem clauses_setField_anyField (idle : binding.Idle type anyField value) :
    binding.clauses catalog type (scope.setField anyField value) .freeText = [] := by
  refine clauses_eq_nil_iff.2 ?_
  rintro field bound ⟨⟨-, preferred, given⟩, term, isTerm, matchable⟩
  rw [Scope.setField, SortedMap.get?_insert, if_pos rfl] at given
  obtain rfl := Option.some.inj given
  exact idle field (by rwa [if_pos rfl]) term isTerm matchable

end Binding

namespace Engine
variable {engine : Engine} {type : EntityType} {index : SearchIndex}

theorem answer_congr (online : index.online = true) (uncached : index.cache? = none)
    {scope other : Scope}
    (same : engine.evaluator.binding.filter engine.evaluator.catalog type other other.mode =
      engine.evaluator.binding.filter engine.evaluator.catalog type scope scope.mode)
    (actor : String) (now : Nat) :
    engine.evaluator.answer type actor now other index =
      engine.evaluator.answer type actor now scope index := by
  rw [Evaluator.answer_uncached online uncached, Evaluator.answer_uncached online uncached]
  unfold Evaluator.hits
  rw [Binding.filter_cleaned, Binding.filter_cleaned, same]

/-- A further value in which there is nothing to search for leaves the answer to a scope as it is,
unless it is free text: then nothing is found, whatever the scope asks for. -/
theorem answer_setField_iff {catalog : Catalog} {types : List EntityType}
    (made : Registry.ofTypes catalog types = .ok engine.registry)
    (member : type ∈ engine.registry.entityTypes) (online : index.online = true)
    (uncached : index.cache? = none) {scope : Scope} {name value : String}
    (absent : scope.fields.get? name = none)
    (idle : engine.evaluator.binding.Idle type name value) (actor : String) (now : Nat) :
    let before := engine.evaluator.answer type actor now scope index
    let after := engine.evaluator.answer type actor now (scope.setField name value) index
    after = (if name = anyField then (.ok Hits.none, index) else before) ∧
      (after = before ↔ name ≠ anyField ∨ before = (.ok Hits.none, index)) := by
  intro before after
  have kinds : ∀ field ∈ type.fields,
      ∃ kind, field.kind engine.evaluator.catalog type.name = .ok kind :=
    fun field isField => Registry.kind_of_ofTypes made member isField
  have answered : after = if name = anyField then (.ok Hits.none, index) else before := by
    by_cases free : name = anyField
    · subst free
      rw [if_pos rfl]
      have filtered := Binding.filter_eq engine.evaluator.binding kinds
        (scope.setField anyField value) .freeText
      rw [Binding.clauses_setField_anyField idle] at filtered
      change engine.evaluator.answer .. = _
      rw [Evaluator.answer_uncached online uncached, Evaluator.hits, Binding.filter_cleaned,
        Scope.mode_setField_anyField, filtered]
      rfl
    · rw [if_neg free]
      refine answer_congr online uncached ?_ actor now
      rw [Scope.mode_setField free, Binding.filter_eq _ kinds, Binding.filter_eq _ kinds,
        Binding.clauses_setField absent idle free]
      rfl
  refine ⟨answered, ?_⟩
  rw [answered]
  by_cases free : name = anyField
  · simp [free, eq_comm]
  · simp [free]

end Engine

namespace Library

def logicService : Except SearchError Service :=
  (Service.assemble registry { cacheEnabled := false } (.inline 0) .unrestricted).map fun service =>
    service.writeAll [.insert book [("title", .text "Logic")]]

def onLogic : Scope where
  matchAll := true
  fields := SortedMap.empty.insert "title" "logic"

/-- The book is found whatever keywords are given for its shelf. -/
theorem onLogic_finds_book :
    ∃ service, logicService = .ok service ∧
      let answer := fun scope => service.engine.evaluator.answer registry.entityTypes[0] "ada" 0
        scope service.index.inner
      answer onLogic = (.ok ⟨[1], by simp⟩, service.index.inner) ∧
        answer (onLogic.setField "place.whole.code" "OR \"\" OR") = answer onLogic := by
  refine ⟨_, rfl, by decide +kernel, ?_⟩
  refine (Engine.answer_setField_iff registered (List.getElem_mem (n := 0) _) (by decide +kernel)
    (by decide +kernel) (by decide) ?_ "ada" 0).2.2 (.inl (by decide))
  exact Binding.idle_of_onlyKeywords _ _ _ (by decide +kernel)

/-- The book is not found if blank free text is given beside its title. -/
theorem onLogic_misses_book :
    ∃ service, logicService = .ok service ∧
      let answer := fun scope => service.engine.evaluator.answer registry.entityTypes[0] "ada" 0
        scope service.index.inner
      service.index.inner.online = true ∧ service.index.inner.cache? = none ∧
        onLogic.fields.get? anyField = none ∧ Term.ofText "" = [] ∧
        answer onLogic = (.ok ⟨[1], by simp⟩, service.index.inner) ∧
        answer (onLogic.setField anyField "") = (.ok Hits.none, service.index.inner) := by
  refine ⟨_, rfl, by decide +kernel, by decide +kernel, by decide, by decide +kernel,
    by decide +kernel, by decide +kernel⟩

end Library
end EntitySearch
