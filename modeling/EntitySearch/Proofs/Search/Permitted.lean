import EntitySearch.Proofs.Search.Reference

/-!
# What an actor may not see does not matter

Two searches are given the same request over two stores and two indexes that agree on the entities
that the actor may see.  Leaf by leaf the hits agree on these entities, and combining keeps that so,
since what is permitted of combined hits is combined from what is permitted of the parts.  The hits
are restricted before they are cut off, so the answers are the same.

Main statements: `filter_combine`, `search_eq_of_permitted_agree`.
-/
set_option autoImplicit false
namespace EntitySearch

namespace Hits
variable {keep : Nat → Bool}

def AgreeOn (keep : Nat → Bool) (a b : Hits) : Prop := a.filter keep = b.filter keep

theorem filter_inter (a b : Hits) : (a.inter b).filter keep = (a.filter keep).inter (b.filter keep) := by
  refine eq_of_ids ?_
  change (a.ids.filter b.contains).filter keep = (a.ids.filter keep).filter (b.filter keep).contains
  rw [List.filter_filter, List.filter_filter]
  refine List.filter_congr fun id _ => ?_
  cases kept : keep id <;> simp [contains, filter, kept]

theorem filter_union (a b : Hits) : (a.union b).filter keep = (a.filter keep).union (b.filter keep) := by
  refine eq_of_ids ?_
  change (distinct (a.ids ++ b.ids)).filter keep = distinct (a.ids.filter keep ++ b.ids.filter keep)
  rw [← distinct_filter, List.filter_append]

/-- What is kept of combined hits is combined from what is kept of the parts. -/
theorem filter_combine (combinator : Combinator) (a b : Hits) :
    (combinator.combine a b).filter keep =
      combinator.combine (a.filter keep) (b.filter keep) := by
  cases combinator with
  | and => exact filter_inter a b
  | or => exact filter_union a b

theorem AgreeOn.combine (combinator : Combinator) {a b a' b' : Hits} (first : AgreeOn keep a b)
    (second : AgreeOn keep a' b') :
    AgreeOn keep (combinator.combine a a') (combinator.combine b b') := by
  unfold AgreeOn at *
  rw [filter_combine, filter_combine, first, second]

theorem filter_ofList (ids : List Nat) : (ofList ids).filter keep = ofList (ids.filter keep) :=
  eq_of_ids (distinct_filter keep ids).symm

end Hits

section Scopes
variable {keep : Nat → Bool} {typeName : TypeName} {index other : SearchIndex}
  (documents : ∀ id, keep id = true →
    other.documents.get? ⟨typeName, id⟩ = index.documents.get? ⟨typeName, id⟩)
include documents

theorem filter_matching (predicate : Predicate) :
    (Evaluator.matching other typeName predicate).filter keep =
      (Evaluator.matching index typeName predicate).filter keep := by
  refine ((Evaluator.matching_ascending other typeName predicate).filter keep).eq_of_mem_iff
    ((Evaluator.matching_ascending index typeName predicate).filter keep) fun id => ?_
  rw [List.mem_filter, List.mem_filter, Evaluator.mem_matching, Evaluator.mem_matching]
  refine and_congr_left fun kept => ?_
  rw [documents id kept]

end Scopes

section Stores
variable {keep : Nat → Bool} {type : EntityType} {store other : Store}
  (stored : ∀ id, keep id = true →
    other.contains ⟨type.name, id⟩ = store.contains ⟨type.name, id⟩)

theorem fetch_all {evaluator : Evaluator} (all : type.base = .all)
    (viewed : evaluator.view = store.view) (ids : List Nat) :
    evaluator.fetch type ids =
      .ok (Hits.ofList (ids.filter fun id => store.contains ⟨type.name, id⟩)) := by
  have based : evaluator.base type = .ok (store.ids type.name) := by
    rw [Evaluator.base, all, viewed]
    rfl
  rw [Evaluator.fetch_eq based, viewed]
  congr 2
  refine List.filter_congr fun id _ => ?_
  change ((store.ids type.name).contains id && store.contains ⟨type.name, id⟩) = _
  cases known : store.contains ⟨type.name, id⟩ with
  | false => rw [Bool.and_false]
  | true => simp [Store.mem_ids, known]

include stored

theorem filter_fetched {ids otherIds : List Nat} (same : otherIds.filter keep = ids.filter keep) :
    Hits.AgreeOn keep
      (Hits.ofList (otherIds.filter fun id => other.contains ⟨type.name, id⟩))
      (Hits.ofList (ids.filter fun id => store.contains ⟨type.name, id⟩)) := by
  unfold Hits.AgreeOn
  -- What is stored may differ where it is not kept, so what is not kept goes first.
  rw [Hits.filter_ofList, Hits.filter_ofList, List.filter_comm, same, List.filter_comm keep]
  congr 1
  refine List.filter_congr fun id member => ?_
  exact stored id (List.mem_filter.1 member).2

end Stores

/-! ## Searches -/

namespace Engine

def onStore (engine : Engine) (store : Store) : Engine := { engine with view := store.view }

section Stacks
variable {engine : Engine} {store other : Store} {index otherIndex : SearchIndex}
  {type : EntityType} {keep : Nat → Bool} (all : type.base = .all)
  (online : index.online = true) (otherOnline : otherIndex.online = true)
  (uncached : index.cache? = none) (otherUncached : otherIndex.cache? = none)

theorem alike_of_filter {filter : Except SearchError Filter}
    {mine yours : Predicate → Except SearchError Hits}
    (each : ∀ predicate, Alike (Hits.AgreeOn keep) (mine predicate) (yours predicate)) :
    Alike (Hits.AgreeOn keep)
      (match filter with
        | .error e => .error e
        | .ok .nothing => .ok Hits.none
        | .ok (.matching predicate) => mine predicate)
      (match filter with
        | .error e => .error e
        | .ok .nothing => .ok Hits.none
        | .ok (.matching predicate) => yours predicate) := by
  cases filter with
  | error e => exact .failure e
  | ok filter =>
      cases filter with
      | nothing => exact .success rfl
      | matching predicate => exact each predicate

section Agreeing
variable (documents : ∀ id, keep id = true →
    otherIndex.documents.get? ⟨type.name, id⟩ = index.documents.get? ⟨type.name, id⟩)
  (stored : ∀ id, keep id = true →
    other.contains ⟨type.name, id⟩ = store.contains ⟨type.name, id⟩)
include all online otherOnline uncached otherUncached documents stored

/-- Of the hits of a scope, the same are kept over both stores. -/
theorem answer_alike (actor : String) (now otherNow : Nat) (scope : Scope) :
    QueryTree.InStep (Hits.AgreeOn keep)
      (fun mine yours => mine = otherIndex ∧ yours = index)
      ((engine.onStore other).evaluator.answer type actor otherNow scope otherIndex)
      ((engine.onStore store).evaluator.answer type actor now scope index) := by
  rw [Evaluator.answer_uncached online uncached, Evaluator.answer_uncached otherOnline otherUncached]
  refine ⟨alike_of_filter fun predicate => ?_, rfl, rfl⟩
  rw [fetch_all all (rfl : (engine.onStore other).evaluator.view = other.view),
    fetch_all all (rfl : (engine.onStore store).evaluator.view = store.view)]
  exact .success (filter_fetched stored (filter_matching documents predicate))

theorem resolve_alike (tree : QueryTree) (limit : Nat) (actor name : String) (now otherNow : Nat) :
    Alike (Hits.AgreeOn keep)
      (tree.resolve ((engine.onStore other).evaluator.answer type actor otherNow) limit name
        otherIndex).1
      (tree.resolve ((engine.onStore store).evaluator.answer type actor now) limit name index).1 := by
  have answers : ∀ scope mine yours, mine = otherIndex ∧ yours = index →
      QueryTree.InStep (Hits.AgreeOn keep)
        (fun mine yours => mine = otherIndex ∧ yours = index)
        ((engine.onStore other).evaluator.answer type actor otherNow scope mine)
        ((engine.onStore store).evaluator.answer type actor now scope yours) := by
    rintro scope _ _ ⟨rfl, rfl⟩
    exact answer_alike all online otherOnline uncached otherUncached documents stored actor now
      otherNow scope
  refine (QueryTree.resolve_inStep ?_ ?_ answers tree limit name ⟨rfl, rfl⟩).result
  · rfl
  · exact fun combinator a b a' b' => Hits.AgreeOn.combine combinator

end Agreeing

end Stacks

section Restricted
variable {engine : Engine} {grants : Grants} {type : EntityType} {permission : String}
  (granted : engine.permissions = .granted grants) (needs : type.permission? = some permission)
include granted needs

theorem restrict_onStore (store : Store) (actor : String) (hits : Hits) :
    (engine.onStore store).restrict type actor hits =
      (hits.filter (grants.permits ⟨actor, permission⟩)).take engine.config.maxResults := by
  unfold restrict
  rw [needs]
  change (engine.permissions.restrict _ hits).take _ = _
  rw [granted]
  rfl

theorem concluded_of_alike (store other : Store) (actor : String)
    {mine yours : Except SearchError Hits}
    (alike : Alike (Hits.AgreeOn (grants.permits ⟨actor, permission⟩)) mine yours) :
    (engine.onStore other).concluded type actor mine =
      (engine.onStore store).concluded type actor yours := by
  cases alike with
  | failure e => rfl
  | @success mine yours same =>
      change Except.ok ((engine.onStore other).restrict type actor mine) =
        Except.ok ((engine.onStore store).restrict type actor yours)
      unfold Hits.AgreeOn at same
      rw [restrict_onStore granted needs, restrict_onStore granted needs, same]

/-- Over stores and indexes that agree on what an actor may see, the actor gets the same answer. -/
theorem search_eq_of_permitted_agree {store other : Store} {index otherIndex : SearchIndex}
    {search : Search} (registered : engine.registry.get search.typeName = .ok type)
    (all : type.base = .all) (online : index.online = true)
    (otherOnline : otherIndex.online = true) (uncached : index.cache? = none)
    (otherUncached : otherIndex.cache? = none)
    (documents : ∀ id, grants.permits ⟨search.actor, permission⟩ id = true →
      otherIndex.documents.get? ⟨type.name, id⟩ = index.documents.get? ⟨type.name, id⟩)
    (stored : ∀ id, grants.permits ⟨search.actor, permission⟩ id = true →
      other.contains ⟨type.name, id⟩ = store.contains ⟨type.name, id⟩) (now otherNow : Nat) :
    ((engine.onStore other).search search otherNow otherIndex).answer =
      ((engine.onStore store).search search now index).answer := by
  have here : (engine.onStore store).registry.get search.typeName = .ok type := registered
  have there : (engine.onStore other).registry.get search.typeName = .ok type := registered
  rw [answer_search_of_get here, answer_search_of_get there]
  split
  · rfl
  · cases QueryTree.decode search.request search.matchAll with
    | error e => rfl
    | ok tree =>
        refine concluded_of_alike granted needs store other search.actor ?_
        exact resolve_alike all online otherOnline uncached otherUncached documents stored tree
          engine.config.maxScopeDepth search.actor tree.resultScope now otherNow

end Restricted
end Engine

namespace Library

theorem permits_readers {id : Nat} (permitted : readers.permits ⟨"ada", "read"⟩ id = true) :
    id = 2 ∨ id = 3 := by
  have granted : readers.get? ⟨"ada", "read"⟩ = some (.objects [2, 3]) := by decide +kernel
  rw [Grants.permits, granted] at permitted
  simpa [Grant.covers] using permitted

/-- The book that Ada may not read comes first, but does not take the place of the first one that
she may read. -/
theorem search_as_if_unread_deleted :
    ∃ service, Service.assemble guardedRegistry { cacheEnabled := false, maxResults := 1 }
        (.inline 0) (.granted readers) = .ok service ∧
      let full := service.writeAll books
      let rest := service.writeAll (books ++ [.delete ⟨book, 1⟩])
      full.store.contains ⟨book, 1⟩ = true ∧ rest.store.contains ⟨book, 1⟩ = false ∧
        ((service.engine.onStore rest.store).search logicOrSets 0 rest.index.inner).answer =
          ((service.engine.onStore full.store).search logicOrSets 0 full.index.inner).answer := by
  refine ⟨_, rfl, ?_⟩
  intro full rest
  refine ⟨by decide +kernel, by decide +kernel, ?_⟩
  have online : full.index.inner.online = true ∧ rest.index.inner.online = true := by
    decide +kernel
  have uncached : full.index.inner.cache? = none ∧ rest.index.inner.cache? = none := by
    decide +kernel
  refine Engine.search_eq_of_permitted_agree rfl rfl get_guardedBook rfl online.1 online.2
    uncached.1 uncached.2 (fun id permitted => ?_) (fun id permitted => ?_) 0 0
  · rcases permits_readers permitted with rfl | rfl <;> decide +kernel
  · rcases permits_readers permitted with rfl | rfl <;> decide +kernel

end Library
end EntitySearch
