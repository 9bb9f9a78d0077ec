import EntitySearch.Proofs.Search.Answers
import EntitySearch.Proofs.Search.Cleaning
import EntitySearch.Proofs.Search.Denotation
import EntitySearch.Proofs.Search.Matching
import EntitySearch.Proofs.Service.Following

/-!
# Searching without an index

A scope can be answered by the store alone: its hits are the stored identifiers in the base set
whose live texts satisfy the filter of the scope.  Over a coherent index without a cache, a search
answers what its scope tree denotes with these lists, restricted to what the actor may see and cut
off.

Main statements: `answer_eq_liveHits`, `search_eq_reference`.
-/
set_option autoImplicit false
namespace EntitySearch

def Grants.shows (grants : Grants) (type : EntityType) (actor : String) (id : Nat) : Bool :=
  match type.permission? with
  | some permission => grants.permits ⟨actor, permission⟩ id
  | none => true

namespace Engine

/-- The stored identifiers in a base set whose live texts satisfy the filter of a scope. -/
def liveIds (engine : Engine) (type : EntityType) (base : List Nat) (scope : Scope) : List Nat :=
  match engine.evaluator.binding.filter engine.registry.catalog type scope scope.mode with
  | .ok (.matching predicate) =>
    (engine.view.ids type.name).filter fun id =>
      base.contains id && predicate.accepts (engine.view.liveTexts type ⟨type.name, id⟩)
  | _ => []

variable {engine : Engine} {type : EntityType} {base : List Nat}

theorem asks_of_resolve {σ : Type} {answer : QueryTree.Answering σ} {search : Search}
    {tree : QueryTree} {limit : Nat} {s : σ} {hits : Hits}
    (decoded : QueryTree.decode search.request search.matchAll = .ok tree)
    (resolved : (tree.resolve answer limit tree.resultScope s).1 = .ok hits) :
    search.request.isEmpty = false := by
  cases request : search.request with
  | nil =>
      rw [request] at decoded
      cases decoded
      unfold QueryTree.resolve QueryTree.resolveBelow at resolved
      cases resolved
  | cons entry rest => rfl

theorem ids_restrict {grants : Grants} (granted : engine.permissions = .granted grants)
    (type : EntityType) (actor : String) (hits : Hits) :
    (engine.restrict type actor hits).ids =
      (hits.ids.filter (grants.shows type actor)).take engine.config.maxResults := by
  unfold restrict Grants.shows
  cases type.permission? with
  | none => exact congrArg _ (List.filter_eq_self.2 fun _ _ => rfl).symm
  | some permission =>
      rw [granted]
      rfl

theorem liveIds_of_nothing {scope : Scope}
    (filtered : engine.evaluator.binding.filter engine.registry.catalog type scope scope.mode =
      .ok .nothing) :
    engine.liveIds type base scope = [] := by
  rw [liveIds, filtered]

theorem liveIds_of_matching {scope : Scope} {predicate : Predicate}
    (filtered : engine.evaluator.binding.filter engine.registry.catalog type scope scope.mode =
      .ok (.matching predicate)) :
    engine.liveIds type base scope = (engine.view.ids type.name).filter fun id =>
      base.contains id && predicate.accepts (engine.view.liveTexts type ⟨type.name, id⟩) := by
  rw [liveIds, filtered]

section Stored
variable {store : Store} (viewed : engine.view = store.view)
include viewed

theorem liveIds_ascending (type : EntityType) (base : List Nat) (scope : Scope) :
    (engine.liveIds type base scope).Pairwise (· < ·) := by
  unfold liveIds
  rw [viewed]
  split
  · exact (Store.ids_ascending type.name).filter _
  · exact List.Pairwise.nil

def liveHits (type : EntityType) (base : List Nat) (scope : Scope) : Hits :=
  ⟨engine.liveIds type base scope, (liveIds_ascending viewed type base scope).imp Nat.ne_of_lt⟩

variable {catalog : Catalog} {names : List String} {types : List EntityType} {index : SearchIndex}
  (declared : catalog.Declared names) (made : Registry.ofTypes catalog types = .ok engine.registry)
  (onCatalog : store.catalog = catalog) (online : index.online = true)
  (uncached : index.cache? = none) (coherent : index.CoherentWith ⟨engine.registry, store.view⟩)
  (member : type ∈ engine.registry.entityTypes) (based : engine.evaluator.base type = .ok base)
include declared made onCatalog online uncached coherent member based

/-- A coherent index without a cache answers a scope as the store does. -/
theorem answer_eq_liveHits (actor : String) (now : Nat) (scope : Scope) :
    engine.evaluator.answer type actor now scope index =
      (.ok (liveHits viewed type base scope), index) := by
  obtain ⟨orderly, sameCatalog⟩ := Registry.orderly_of_ofTypes made
  have paired : engine.registry.catalog.Paired := sameCatalog ▸ declared.paired
  have kinds : ∀ field ∈ type.fields,
      ∃ kind, field.kind engine.evaluator.catalog type.name = .ok kind :=
    fun field isField => Registry.kind_of_ofTypes made member isField
  rw [Evaluator.answer_uncached online uncached, Evaluator.hits, Binding.filter_cleaned]
  congr 1
  obtain ⟨filter, filtered⟩ :=
    Binding.exists_filter engine.evaluator.binding kinds scope scope.mode
  rw [filtered]
  cases filter with
  | nothing =>
      refine congrArg Except.ok (Hits.eq_of_ids ?_)
      exact (liveIds_of_nothing filtered).symm
  | matching predicate =>
      have matched : Evaluator.matching index type.name predicate =
          (store.ids type.name).filter fun id =>
            predicate.accepts (store.view.liveTexts type ⟨type.name, id⟩) :=
        Evaluator.matching_eq paired orderly (onCatalog.trans sameCatalog.symm) member coherent
          predicate
      change engine.evaluator.fetch type _ = _
      rw [matched, Evaluator.fetch_eq based]
      refine congrArg Except.ok (Hits.eq_of_ids ?_)
      change distinct _ = engine.liveIds type base scope
      -- Stored identifiers do not repeat, and every identifier that matches is stored.
      rw [liveIds_of_matching filtered, List.filter_filter, distinct_eq_self]
      · rw [viewed]
        refine List.filter_congr fun id stored => ?_
        have contained : engine.evaluator.view.contains ⟨type.name, id⟩ = true := by
          change engine.view.contains _ = true
          rw [viewed]
          exact Store.mem_ids.1 stored
        rw [contained, Bool.and_true]
      · exact ((Store.ids_ascending type.name).filter _).imp Nat.ne_of_lt

omit member in
/-- Over a coherent index without a cache, a search whose tree can be resolved answers the first of
the identifiers that the tree denotes by the store alone and that the actor may see. -/
theorem search_eq_reference {grants : Grants} (granted : engine.permissions = .granted grants)
    {search : Search} {now : Nat} {tree : QueryTree}
    (registered : engine.registry.get search.typeName = .ok type)
    (decoded : QueryTree.decode search.request search.matchAll = .ok tree)
    (resolves : ∃ hits, (tree.resolve (engine.evaluator.answer type search.actor now)
      engine.config.maxScopeDepth tree.resultScope index).1 = .ok hits) :
    (∀ scope, (engine.liveIds type base scope).Pairwise (· < ·)) ∧
      ∃ listed hits, tree.Denotes (engine.liveIds type base) tree.resultScope listed ∧
        (engine.search search now index).answer = .ok hits ∧
        hits.ids = (listed.filter (grants.shows type search.actor)).take
          engine.config.maxResults := by
  obtain ⟨resolved, success⟩ := resolves
  have member := Registry.mem_of_get registered
  have asks : search.request.isEmpty = false := asks_of_resolve decoded success
  have answers : ∀ scope (asked : SearchIndex), asked = index → ∃ after,
      engine.evaluator.answer type search.actor now scope asked =
        (.ok (liveHits viewed type base scope), after) ∧ after = index := by
    rintro scope asked rfl
    exact ⟨_, answer_eq_liveHits viewed declared made onCatalog online uncached coherent member
      based search.actor now scope, rfl⟩
  refine ⟨liveIds_ascending viewed type base, resolved.ids,
    engine.restrict type search.actor resolved, ?_, ?_, ?_⟩
  · exact QueryTree.denotes_of_resolve answers rfl success
  · rw [answer_search registered asks decoded, success]
    rfl
  · exact ids_restrict granted type search.actor resolved

end Stored
end Engine

namespace Library

def readers : Grants := Grants.empty.grantObjects ⟨"ada", "read"⟩ [2, 3]

def logicOrSets : Search where
  typeName := book
  request := [("__A__title", " logic"), ("__B__title", "sets"), ("__op__A_B", "or=R"),
    ("__result", "R")]
  actor := "ada"

def books : List Write :=
  [.insert book [("title", .text "Sets and Logic")], .insert book [("title", .text "Sets")],
    .insert book [("title", .text "Logic")]]

/-- Of the two books that Ada may read, the one about sets comes behind the one about logic. -/
theorem search_readers :
    ∃ service, Service.assemble guardedRegistry { cacheEnabled := false } (.inline 0)
        (.granted readers) = .ok service ∧
      let after := service.writeAll books
      ∃ listed hits,
        QueryTree.Denotes (decoded logicOrSets)
          (after.engine.liveIds guardedBook (after.store.ids book)) "R" listed ∧
        (after.engine.search logicOrSets 0 after.index.inner).answer = .ok hits ∧
        hits.ids = (listed.filter (readers.shows guardedBook "ada")).take 1000 ∧
        hits.ids = [3, 2] := by
  obtain ⟨grounded, -⟩ := Registry.grounded_of_ofTypes declared (by decide) guarded
  obtain ⟨service, assembled⟩ := Service.exists_assemble grounded.orderly { cacheEnabled := false }
    (.inline 0) (.granted readers)
  have following := (Service.following_assemble assembled).writeAll grounded
    (by decide +kernel : ∀ write ∈ books, write.Spares guardedRegistry)
  have coherent := following.coherent grounded
  rw [Service.Coherent, Service.indexer, following.prompt.seeing] at coherent
  have onCatalog := following.sound.onCatalog
  cases assembled
  refine ⟨_, rfl, ?_⟩
  intro after
  have found : (after.engine.search logicOrSets 0 after.index.inner).answer =
      .ok ⟨[3, 2], by decide⟩ := by decide +kernel
  have online : after.index.inner.online = true := by decide +kernel
  have uncached : after.index.inner.cache? = none := by decide +kernel
  have decodes : QueryTree.decode logicOrSets.request logicOrSets.matchAll =
      .ok (decoded logicOrSets) := by decide +kernel
  have resolves : ∃ hits, ((decoded logicOrSets).resolve
      (after.engine.evaluator.answer guardedBook "ada" 0) 32 (decoded logicOrSets).resultScope
      after.index.inner).1 = .ok hits := ⟨⟨[1, 3, 2], by decide⟩, by decide +kernel⟩
  obtain ⟨-, listed, hits, denotes, answered, same⟩ := Engine.search_eq_reference rfl declared
    guarded onCatalog online uncached coherent rfl rfl get_guardedBook decodes resolves
  refine ⟨listed, hits, denotes, answered, same, ?_⟩
  rw [found] at answered
  cases answered
  rfl

end Library
end EntitySearch
