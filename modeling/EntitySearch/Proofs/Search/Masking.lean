import EntitySearch.Proofs.Search.Answers
import EntitySearch.Proofs.Search.Lockstep
import EntitySearch.Proofs.Search.WellFormed
import EntitySearch.Store.Basic

/-!
# What hides that a scope tree is malformed

Resolving a malformed tree asks for the scopes that it meets before the fault.  If one of them fails
for another reason than the configuration, the search does not get to the fault.  So an index that
is offline hides every fault that does not come first, and a search that is not strict then answers
that there are no hits.

Main statement: `rejects_iff_of_malformed`.
-/
set_option autoImplicit false
namespace EntitySearch

open QueryTree (askAll)

def SearchOutcome.Rejects (outcome : SearchOutcome) : Prop :=
  ∃ e, outcome.answer = .error e ∧ e.isConfiguration = true

theorem SearchError.not_isBackendUnavailable {e : SearchError} (config : e.isConfiguration = true) :
    e.isBackendUnavailable = false := by
  unfold isConfiguration at config
  unfold isBackendUnavailable
  cases kind : e.kind <;> simp_all [ErrorKind.isConfiguration, ErrorKind.isBackendUnavailable]

namespace Engine
variable {engine : Engine} {search : Search} {type : EntityType} {tree : QueryTree} {now : Nat}
  {index : SearchIndex}

def meets (engine : Engine) (tree : QueryTree) : Survey :=
  tree.survey engine.config.maxScopeDepth tree.resultScope

/-- What comes of asking for the scopes that a search meets. -/
def tried (engine : Engine) (type : EntityType) (actor : String) (now : Nat) (index : SearchIndex)
    (tree : QueryTree) : Except SearchError Unit :=
  (askAll (engine.evaluator.answer type actor now) (engine.meets tree).asked index).1

theorem concluded_configuration {e : SearchError} (config : e.isConfiguration = true)
    (actor : String) : engine.concluded type actor (.error e) = .error e := by
  simp [concluded, SearchError.not_isBackendUnavailable config]

theorem concluded_failure (engine : Engine) (type : EntityType) (actor : String)
    (e : SearchError) :
    engine.concluded type actor (.error e) = .error e ∨
      engine.concluded type actor (.error e) = .ok Hits.none := by
  unfold concluded
  dsimp only
  split
  · exact Or.inr rfl
  · exact Or.inl rfl

theorem tried_online {catalog : Catalog} {types : List EntityType} {base : List Nat}
    (made : Registry.ofTypes catalog types = .ok engine.registry)
    (member : type ∈ engine.registry.entityTypes) (based : engine.evaluator.base type = .ok base)
    (online : index.online = true) (actor : String) (now : Nat) (tree : QueryTree) :
    engine.tried type actor now index tree = .ok () := by
  have kinds : ∀ field ∈ type.fields,
      ∃ kind, field.kind engine.evaluator.catalog type.name = .ok kind :=
    fun field isField => Registry.kind_of_ofTypes made member isField
  have answers : ∀ scope (index : SearchIndex), index.online = true → ∃ hits after,
      engine.evaluator.answer type actor now scope index = (.ok hits, after) ∧
        after.online = true :=
    fun scope index online => Evaluator.exists_answer based kinds actor now scope online
  obtain ⟨after, passed⟩ := QueryTree.askAll_ok answers (engine.meets tree).asked online
  exact congrArg Prod.fst passed

/-- While the index is offline, the first scope that is met fails. -/
theorem tried_offline (engine : Engine) (type : EntityType) (actor : String) (now : Nat)
    (tree : QueryTree) (offline : index.online = false) :
    engine.tried type actor now index tree = if (engine.meets tree).asked = [] then .ok ()
      else .error (.backendUnavailable "the search index is offline") := by
  unfold tried
  cases (engine.meets tree).asked with
  | nil => rfl
  | cons scope rest =>
      rw [askAll, Evaluator.answer_offline offline]
      rfl

section Decoded
variable (registered : engine.registry.get search.typeName = .ok type)
  (asks : search.request.isEmpty = false)
  (decoded : QueryTree.decode search.request search.matchAll = .ok tree)
include registered asks decoded

theorem answer_of_failure {e : SearchError}
    (failed : engine.tried type search.actor now index tree = .error e) :
    (engine.search search now index).answer = engine.concluded type search.actor (.error e) := by
  rw [answer_search registered asks decoded, QueryTree.resolve_of_failure failed]

theorem rejects_iff_of_failure {e : SearchError}
    (failed : engine.tried type search.actor now index tree = .error e) :
    (engine.search search now index).Rejects ↔ e.isConfiguration = true := by
  have answered := answer_of_failure registered asks decoded failed
  constructor
  · rintro ⟨other, same, config⟩
    rw [answered] at same
    rcases concluded_failure engine type search.actor e with kept | hidden
    · rw [kept] at same
      cases same
      exact config
    · rw [hidden] at same
      cases same
  · intro config
    exact ⟨e, answered.trans (concluded_configuration config search.actor), config⟩

theorem rejects_of_fault {fault : SearchError} (faulty : (engine.meets tree).fault? = some fault)
    (passed : engine.tried type search.actor now index tree = .ok ()) :
    (engine.search search now index).Rejects := by
  have config := QueryTree.isConfiguration_of_fault faulty
  refine ⟨fault, ?_, config⟩
  rw [answer_search registered asks decoded, QueryTree.resolve_of_fault faulty passed]
  exact concluded_configuration config search.actor

/-- A search with a malformed tree fails because of the configuration unless a scope that is met
before the fault fails for another reason.  So it does whenever the index is online and the base set
can be told; when the index is offline, it does just if no scope is met before the fault. -/
theorem rejects_iff_of_malformed
    (malformed : ¬ tree.WellFormed engine.config.maxScopeDepth tree.resultScope) :
    ((engine.search search now index).Rejects ↔
      ∀ e, engine.tried type search.actor now index tree = .error e → e.isConfiguration = true) ∧
    (∀ catalog types base, Registry.ofTypes catalog types = .ok engine.registry →
      engine.evaluator.base type = .ok base → index.online = true →
        (engine.search search now index).Rejects) ∧
    (index.online = false →
      ((engine.search search now index).Rejects ↔ (engine.meets tree).asked = []) ∧
      ((engine.meets tree).asked ≠ [] → (engine.search search now index).answer =
        if engine.config.strict then .error (.backendUnavailable "the search index is offline")
        else .ok Hits.none)) := by
  rw [← QueryTree.fault?_survey_eq_none_iff] at malformed
  obtain ⟨fault, faulty⟩ := Option.ne_none_iff_exists'.1 malformed
  refine ⟨?_, ?_, fun offline => ?_⟩
  · cases tried : engine.tried type search.actor now index tree with
    | error e => simpa using rejects_iff_of_failure registered asks decoded tried
    | ok _ => simpa using rejects_of_fault registered asks decoded faulty tried
  · intro catalog types base made based online
    have member := Registry.mem_of_get registered
    have passed := tried_online made member based online search.actor now tree
    exact rejects_of_fault registered asks decoded faulty passed
  · have tried := tried_offline engine type search.actor now tree offline
    by_cases met : (engine.meets tree).asked = []
    · rw [if_pos met] at tried
      simp [met, rejects_of_fault registered asks decoded faulty tried]
    · rw [if_neg met] at tried
      have rejects := rejects_iff_of_failure registered asks decoded tried
      have answered := answer_of_failure registered asks decoded tried
      refine ⟨?_, fun _ => ?_⟩
      · rw [rejects]
        simp [met, SearchError.isConfiguration, SearchError.kind, ErrorKind.isConfiguration]
      · rw [answered, concluded]
        cases engine.config.strict <;> rfl

end Decoded
end Engine

namespace Library

def engine : Engine where
  registry := guardedRegistry
  config := { cacheEnabled := false }
  view := (Store.empty catalog).view
  permissions := .unrestricted

def halfDefined (operands : String) : Search where
  typeName := book
  request := [("__A__title", "Logic"), ("__op__" ++ operands, "and=R"), ("__result", "R")]

/-- With the unknown scope first, the fault is found even if the index is offline. -/
theorem rejects_unknown_first :
    (engine.search (halfDefined "Z_A") 0 { online := false }).Rejects := by
  have registered : engine.registry.get (halfDefined "Z_A").typeName = .ok guardedBook :=
    get_guardedBook
  have malformed : ¬ (decoded (halfDefined "Z_A")).WellFormed engine.config.maxScopeDepth
      (decoded (halfDefined "Z_A")).resultScope := by
    rw [← QueryTree.fault?_survey_eq_none_iff]
    decide +kernel
  have asks : (halfDefined "Z_A").request.isEmpty = false := by decide +kernel
  have first : QueryTree.decode (halfDefined "Z_A").request (halfDefined "Z_A").matchAll =
      .ok (decoded (halfDefined "Z_A")) := by decide +kernel
  have rejects : (engine.search (halfDefined "Z_A") 0 { online := false }).Rejects ↔
      (engine.meets (decoded (halfDefined "Z_A"))).asked = [] :=
    ((Engine.rejects_iff_of_malformed registered asks first malformed).2.2 rfl).1
  exact rejects.2 (by decide +kernel)

/-- With the unknown scope last, it is hidden by the index that is offline. -/
theorem hides_unknown_last :
    engine.registry.get (halfDefined "A_Z").typeName = .ok guardedBook ∧
      (halfDefined "A_Z").request.isEmpty = false ∧
      QueryTree.decode (halfDefined "A_Z").request (halfDefined "A_Z").matchAll =
        .ok (decoded (halfDefined "A_Z")) ∧
      ¬ (decoded (halfDefined "A_Z")).WellFormed engine.config.maxScopeDepth
        (decoded (halfDefined "A_Z")).resultScope ∧
      (engine.search (halfDefined "A_Z") 0 { online := false }).answer = .ok Hits.none := by
  refine ⟨get_guardedBook, by decide +kernel, by decide +kernel, ?_, by decide +kernel⟩
  rw [← QueryTree.fault?_survey_eq_none_iff]
  decide +kernel

end Library
end EntitySearch
