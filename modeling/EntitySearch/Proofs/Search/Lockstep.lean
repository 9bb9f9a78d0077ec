import EntitySearch.Search.Engine

/-!
# Two searches in step

Resolving a scope tree does the same with the answers of two indexes as long as they correspond:
both indexes fail alike or answer hits that correspond, where combined hits correspond if their
parts do.

The answer of a search does not depend on what was reported so far, so it is the answer of resolving
without reports.

Main statements: `resolve_inStep`, `answer_search_of_get`.
-/
set_option autoImplicit false
namespace EntitySearch

inductive Alike (corresponds : Hits → Hits → Prop) :
    Except SearchError Hits → Except SearchError Hits → Prop where
  | failure (e : SearchError) : Alike corresponds (.error e) (.error e)
  | success {mine yours : Hits} (hits : corresponds mine yours) :
      Alike corresponds (.ok mine) (.ok yours)

theorem Alike.refl {corresponds : Hits → Hits → Prop} (self : ∀ hits, corresponds hits hits)
    (result : Except SearchError Hits) : Alike corresponds result result := by
  cases result with
  | error e => exact .failure e
  | ok hits => exact .success (self hits)

theorem Alike.eq {mine yours : Except SearchError Hits} (alike : Alike Eq mine yours) :
    mine = yours := by
  cases alike with
  | failure e => rfl
  | success same => rw [same]

namespace QueryTree

variable {σ τ : Type}

/-- Two answers are alike and leave states behind that are joined. -/
structure InStep (corresponds : Hits → Hits → Prop) (joined : σ → τ → Prop)
    (mine : Except SearchError Hits × σ) (yours : Except SearchError Hits × τ) : Prop where
  result : Alike corresponds mine.1 yours.1
  state : joined mine.2 yours.2

section InStep
variable {corresponds : Hits → Hits → Prop} {joined : σ → τ → Prop}

theorem andThen_inStep {next : Hits → σ → Except SearchError Hits × σ}
    {other : Hits → τ → Except SearchError Hits × τ}
    (goesOn : ∀ a b s t, corresponds a b → joined s t →
      InStep corresponds joined (next a s) (other b t))
    (mine : Except SearchError Hits × σ) (yours : Except SearchError Hits × τ) :
    InStep corresponds joined mine yours →
      InStep corresponds joined
        (match mine with
          | (.error e, s) => (.error e, s)
          | (.ok hits, s) => next hits s)
        (match yours with
          | (.error e, t) => (.error e, t)
          | (.ok hits, t) => other hits t) := by
  rintro ⟨result, state⟩
  obtain ⟨mineResult, s⟩ := mine
  obtain ⟨yoursResult, t⟩ := yours
  cases result with
  | failure e => exact ⟨.failure e, state⟩
  | success hits => exact goesOn _ _ s t hits state

section Operands
variable {combinator : Combinator}
  (combine : ∀ a b a' b', corresponds a b → corresponds a' b' →
    corresponds (combinator.combine a a') (combinator.combine b b'))
  {one : String → σ → Except SearchError Hits × σ} {other : String → τ → Except SearchError Hits × τ}
  (each : ∀ operand s t, joined s t → InStep corresponds joined (one operand s) (other operand t))
include combine each

theorem combineFrom_inStep {mine yours : Hits} (sofar : corresponds mine yours)
    (operands : List String) {s : σ} {t : τ} (begin : joined s t) :
    InStep corresponds joined (combineFrom combinator one mine operands s)
      (combineFrom combinator other yours operands t) := by
  induction operands generalizing mine yours s t with
  | nil => exact ⟨.success sofar, begin⟩
  | cons operand rest ih =>
      refine andThen_inStep (fun a b s t hits state => ?_) _ _ (each operand s t begin)
      exact ih (combine _ _ _ _ sofar hits) state

theorem combineAll_inStep (nothing : corresponds Hits.none Hits.none) (operands : List String)
    {s : σ} {t : τ} (begin : joined s t) :
    InStep corresponds joined (combineAll combinator one operands s)
      (combineAll combinator other operands t) := by
  cases operands with
  | nil => exact ⟨.success nothing, begin⟩
  | cons operand rest =>
      refine andThen_inStep (fun a b s t hits state => ?_) _ _ (each operand s t begin)
      exact combineFrom_inStep combine each hits rest state

end Operands

variable (nothing : corresponds Hits.none Hits.none)
  (combine : ∀ (combinator : Combinator) a b a' b', corresponds a b → corresponds a' b' →
    corresponds (combinator.combine a a') (combinator.combine b b'))
  {answer : Answering σ} {other : Answering τ}
  (answers : ∀ scope s t, joined s t → InStep corresponds joined (answer scope s) (other scope t))
include nothing combine answers

theorem resolveBelow_inStep (tree : QueryTree) (limit : Nat) : ∀ (left : Nat) (above : List String)
    (name : String) (s : σ) (t : τ), joined s t →
      InStep corresponds joined (tree.resolveBelow answer limit left above name s)
        (tree.resolveBelow other limit left above name t)
  | left, above, name, s, t, begin => by
    unfold resolveBelow
    cases tree.scopes.get? name with
    | some scope =>
        dsimp only
        split
        · exact ⟨.failure _, begin⟩
        · exact answers scope s t begin
    | none =>
        cases tree.operators.get? name with
        | none => exact ⟨.failure _, begin⟩
        | some operator =>
            dsimp only
            split
            · exact ⟨.failure _, begin⟩
            · cases left with
              | zero => exact ⟨.failure _, begin⟩
              | succ left =>
                  have each := resolveBelow_inStep tree limit left (above ++ [name])
                  exact combineAll_inStep (combine operator.combinator) each nothing
                    operator.operands begin

/-- Resolving stays in step with indexes that answer in step. -/
theorem resolve_inStep (tree : QueryTree) (limit : Nat) (name : String) {s : σ} {t : τ}
    (begin : joined s t) :
    InStep corresponds joined (tree.resolve answer limit name s)
      (tree.resolve other limit name t) :=
  resolveBelow_inStep nothing combine answers tree limit limit [] name s t begin

end InStep
end QueryTree

/-! ## Searches without reports -/

namespace Engine

/-- What a search answers when its scope tree was resolved. -/
def concluded (engine : Engine) (type : EntityType) (actor : String) :
    Except SearchError Hits → Except SearchError Hits
  | .ok hits => .ok (engine.restrict type actor hits)
  | .error e =>
    if e.isBackendUnavailable && !engine.config.strict then .ok Hits.none else .error e

variable {engine : Engine} {search : Search}

theorem answer_conclude (type : EntityType) (resolved : Except SearchError Hits)
    (index : SearchIndex) (log : List LogEntry) :
    (engine.conclude search type resolved index log).answer =
      engine.concluded type search.actor resolved := by
  cases resolved with
  | ok hits => rfl
  | error e =>
      unfold conclude concluded
      dsimp only
      split <;> rfl

theorem answering_inStep (engine : Engine) (type : EntityType) (actor : String) (now : Nat) (tree : QueryTree)
    (limit : Nat) (name : String) (index : SearchIndex) (log : List LogEntry) :
    QueryTree.InStep Eq (fun (running : Running) index => running.1 = index)
      (tree.resolve (engine.answering type actor now) limit name (index, log))
      (tree.resolve (engine.evaluator.answer type actor now) limit name index) := by
  refine QueryTree.resolve_inStep rfl ?_ ?_ tree limit name rfl
  · rintro combinator a _ a' _ rfl rfl
    rfl
  · rintro scope ⟨index, log⟩ _ rfl
    exact ⟨.refl (fun _ => rfl) _, rfl⟩

theorem answer_search_of_get {type : EntityType} {now : Nat} {index : SearchIndex}
    (registered : engine.registry.get search.typeName = .ok type) :
    (engine.search search now index).answer =
      if search.request.isEmpty then .ok Hits.none
      else match QueryTree.decode search.request search.matchAll with
        | .error e => .error e
        | .ok tree =>
          engine.concluded type search.actor
            (tree.resolve (engine.evaluator.answer type search.actor now)
              engine.config.maxScopeDepth tree.resultScope index).1 := by
  unfold Engine.search
  simp only [registered]
  split
  · rfl
  · cases QueryTree.decode search.request search.matchAll with
    | error e => rfl
    | ok tree =>
        have same := (answering_inStep engine type search.actor now tree
          engine.config.maxScopeDepth tree.resultScope index
          (QueryTree.decodeLog search.request)).result
        dsimp only
        rw [← same.eq]
        exact answer_conclude ..

theorem answer_search {type : EntityType} {tree : QueryTree} {now : Nat} {index : SearchIndex}
    (registered : engine.registry.get search.typeName = .ok type)
    (asks : search.request.isEmpty = false)
    (decoded : QueryTree.decode search.request search.matchAll = .ok tree) :
    (engine.search search now index).answer =
      engine.concluded type search.actor
        (tree.resolve (engine.evaluator.answer type search.actor now) engine.config.maxScopeDepth
          tree.resultScope index).1 := by
  rw [answer_search_of_get registered, asks, if_neg Bool.false_ne_true, decoded]

end Engine
end EntitySearch
