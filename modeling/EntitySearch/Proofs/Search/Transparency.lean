import EntitySearch.Proofs.Search.Lockstep
import EntitySearch.Proofs.Search.Provenance
import EntitySearch.Proofs.Search.Answers
import EntitySearch.Proofs.Store.Writes

/-!
# Searching with a cache and without one

As long as neither the index nor the store nor the types change, every result in the cache is what
its key would be answered now.  Searches keep that so, and the index with the cache and the one
without it stay in step: they answer alike, and but for the cache they stay the same.  The index may
go offline and come back, the cache may be cleared, results may expire, and permissions may change.

Main statements: `search_bare`, `session_bare`, `cache_transparent`.
-/
set_option autoImplicit false
namespace EntitySearch
namespace Engine

/-- Every result that an index keeps is what its key would be answered now. -/
def Truthful (engine : Engine) (index : SearchIndex) : Prop :=
  ∀ entry ∈ index.kept, ∀ type ∈ engine.registry.entityTypes, type.name = entry.key.typeName →
    engine.evaluator.hits index type entry.key.scope .freeText = .ok entry.hits

variable {engine : Engine} {index : SearchIndex}

theorem truthful_of_kept (empty : index.kept = []) : engine.Truthful index := by
  intro entry member
  rw [empty] at member
  cases member

section Scopes
variable {type : EntityType} (orderly : engine.registry.Orderly)
  (member : type ∈ engine.registry.entityTypes)
include orderly member

theorem truthful_insert (truthful : engine.Truthful index) {cache : Cache}
    (stored : index.cache? = some cache) {actor text : String} {now : Nat} {matchAll : Bool}
    {hits : Hits}
    (evaluated : engine.evaluator.hits index type (.seeking matchAll text) .freeText = .ok hits) :
    engine.Truthful { index with
      cache? := some (cache.insert now ⟨type.name, actor, .seeking matchAll text⟩ hits) } := by
  intro entry isKept other isType named
  change engine.evaluator.hits index other entry.key.scope .freeText = .ok entry.hits
  rcases Cache.mem_insert isKept with rfl | old
  · have known := orderly.mem_entityTypes.1 isType
    rw [named, orderly.mem_entityTypes.1 member] at known
    obtain rfl := Option.some.inj known
    exact evaluated
  · refine truthful entry ?_ other isType named
    unfold SearchIndex.kept
    rw [stored]
    exact old

theorem answer_bare_inStep (truthful : engine.Truthful index) (actor : String) (now : Nat)
    (scope : Scope) :
    QueryTree.InStep Eq (fun mine yours => mine.bare = yours ∧ engine.Truthful mine)
      (engine.evaluator.answer type actor now scope index)
      (engine.evaluator.answer type actor now scope index.bare) := by
  have plainly := engine.evaluator.answer_bare type actor now scope index
  have plainIndex : (engine.evaluator.answer type actor now scope index.bare).2 = index.bare :=
    congrArg Prod.snd plainly
  rcases engine.evaluator.answer_cases type actor now scope index with
    plain | ⟨cache, text, hits, online, stored, sought, result⟩
  · rw [plain]
    exact ⟨.refl (fun _ => rfl) _, plainIndex.symm, truthful⟩
  · have evaluated : (engine.evaluator.answer type actor now scope index.bare).1 =
        engine.evaluator.hits index type (.seeking scope.matchAll text) .freeText := by
      rw [plainly, ← Scope.cleaned_of_sought sought type, ← Scope.mode_of_sought sought]
      unfold SearchIndex.checkOnline
      rw [if_pos online]
      rfl
    rcases result with ⟨found, hit⟩ | ⟨answered, miss⟩
    · obtain ⟨entry, isEntry, isKey, rfl, -⟩ := Cache.mem_of_get? found
      have isKept : entry ∈ index.kept := by
        unfold SearchIndex.kept
        rw [stored]
        exact isEntry
      have true := truthful entry isKept type member (by rw [isKey])
      rw [isKey, ← evaluated] at true
      rw [hit]
      refine ⟨?_, plainIndex.symm, truthful⟩
      rw [true]
      exact .success rfl
    · rw [miss]
      refine ⟨?_, plainIndex.symm, ?_⟩
      · rw [answered]
        exact .success rfl
      · exact truthful_insert orderly member truthful stored (evaluated ▸ answered)

theorem resolve_bare_inStep (truthful : engine.Truthful index) (actor : String) (now : Nat)
    (tree : QueryTree) (limit : Nat) (name : String) (log : List LogEntry) :
    QueryTree.InStep Eq
      (fun (mine yours : Running) => mine.1.bare = yours.1 ∧ engine.Truthful mine.1)
      (tree.resolve (engine.answering type actor now) limit name (index, log))
      (tree.resolve (engine.answering type actor now) limit name (index.bare, log)) := by
  refine QueryTree.resolve_inStep rfl ?_ ?_ tree limit name ⟨rfl, truthful⟩
  · rintro combinator a _ a' _ rfl rfl
    rfl
  · rintro scope ⟨mine, log⟩ ⟨_, other⟩ ⟨rfl, truthful⟩
    have step := answer_bare_inStep orderly member truthful actor now scope
    exact ⟨step.result, step.state⟩

end Scopes

theorem index_conclude (search : Search) (type : EntityType)
    (resolved : Except SearchError Hits) (index : SearchIndex) (log : List LogEntry) :
    (engine.conclude search type resolved index log).index = index := by
  unfold conclude
  cases resolved with
  | ok hits => rfl
  | error e =>
      dsimp only
      split <;> rfl

/-- With true results in the cache, a search is answered as without a cache and leaves true results
behind. -/
theorem search_bare (orderly : engine.registry.Orderly) (truthful : engine.Truthful index)
    (search : Search) (now : Nat) :
    (engine.search search now index).answer = (engine.search search now index.bare).answer ∧
      (engine.search search now index).index.bare = (engine.search search now index.bare).index ∧
        engine.Truthful (engine.search search now index).index := by
  unfold Engine.search
  cases found : engine.registry.get search.typeName with
  | error e => exact ⟨rfl, rfl, truthful⟩
  | ok type =>
      dsimp only
      split
      · exact ⟨rfl, rfl, truthful⟩
      · cases QueryTree.decode search.request search.matchAll with
        | error e => exact ⟨rfl, rfl, truthful⟩
        | ok tree =>
            have inStep := resolve_bare_inStep orderly (Registry.mem_of_get found) truthful
              search.actor now tree engine.config.maxScopeDepth tree.resultScope
              (QueryTree.decodeLog search.request)
            simp only [answer_conclude, index_conclude]
            exact ⟨congrArg _ inStep.result.eq, inStep.state⟩

end Engine

/-! ## Sessions -/

inductive Turn where
  | search (search : Search)
  | setOnline (online : Bool)
  | clearCache
  | wait (seconds : Nat)
  | permit (permissions : Permissions)

namespace Engine

def session (engine : Engine) : List Turn → Nat → SearchIndex → List (Except SearchError Hits)
  | [], _, _ => []
  | .search search :: rest, now, index =>
    (engine.search search now index).answer ::
      engine.session rest now (engine.search search now index).index
  | .setOnline online :: rest, now, index => engine.session rest now { index with online }
  | .clearCache :: rest, now, index =>
    engine.session rest now { index with cache? := index.cache?.map Cache.clear }
  | .wait seconds :: rest, now, index => engine.session rest (now + seconds) index
  | .permit permissions :: rest, now, index =>
    session { engine with permissions } rest now index

variable {engine : Engine}

theorem truthful_clear (engine : Engine) (index : SearchIndex) :
    engine.Truthful { index with cache? := index.cache?.map Cache.clear } := by
  refine truthful_of_kept ?_
  unfold SearchIndex.kept
  cases index.cache? <;> rfl

theorem session_bare (orderly : engine.registry.Orderly) (turns : List Turn) (now : Nat)
    {index : SearchIndex} (truthful : engine.Truthful index) :
    engine.session turns now index = engine.session turns now index.bare := by
  -- `Truthful` is the invariant; it is about the engine too, as a turn may change the permissions.
  induction turns generalizing engine now index with
  | nil => rfl
  | cons turn rest ih =>
      cases turn with
      | search search =>
          obtain ⟨answers, indexes, after⟩ := search_bare orderly truthful search now
          unfold session
          rw [answers, ih orderly now after, indexes]
      | setOnline online =>
          have stillTruthful : engine.Truthful { index with online } := truthful
          exact ih orderly now stillTruthful
      | clearCache => exact ih orderly now (engine.truthful_clear index)
      | wait seconds => exact ih orderly (now + seconds) truthful
      | permit permissions =>
          have stillOrderly : ({ engine with permissions } : Engine).registry.Orderly := orderly
          have stillTruthful : Truthful { engine with permissions } index := truthful
          exact ih stillOrderly now stillTruthful

end Engine

/-- What the cache can do to answers.  In any run a backend answers a question as it would without
its cache, now or at the moment of an earlier question that asks the same, with no clearing of the
cache in between; questions that look for no text are answered as of now.  In a session without any
change of the index, the store or the types, searches with a cache that begins empty answer what
they answer without one. -/
theorem cache_transparent (config : Config) (setting : Setting) (moves : List Move) (call : Call)
    {catalog : Catalog} {types : List EntityType} {engine : Engine}
    (made : Registry.ofTypes catalog types = .ok engine.registry) (turns : List Turn) (now : Nat)
    (index : SearchIndex) (lifetime : Nat) :
    let cached := Backend.start config setting
    let plain := Backend.start { config with cacheEnabled := false } setting
    ((cached.run moves).answer call = (plain.run moves).answer call ∨
      ∃ before earlier later hits, moves = before ++ .ask earlier :: later ∧
        .clearCache ∉ later ∧ earlier.AsksAs call ∧
        (cached.run moves).answer call = .ok hits ∧ (plain.run before).answer call = .ok hits ∧
        (cached.run moves).now < (cached.run before).now + config.cacheSeconds) ∧
    (call.scope.sought? = none →
      (cached.run moves).answer call = (plain.run moves).answer call) ∧
    engine.session turns now { index with cache? := some { lifetime } } =
      engine.session turns now { index with cache? := none } := by
  have orderly := (Registry.orderly_of_ofTypes made).1
  refine ⟨Backend.answer_now_or_earlier config setting moves call,
    Backend.answer_now config setting moves, ?_⟩
  exact Engine.session_bare orderly turns now (Engine.truthful_of_kept rfl)

namespace Library

def lonely : Engine where
  registry := registry
  config := {}
  view := ((Store.empty catalog).run [.insert book [("title", .text "Logic")]]).view
  permissions := .unrestricted

def logic (text : String) : Call := ⟨book, "ada", .seeking false text⟩

def logicBook : Document := { entity := ⟨book, 1⟩, fields := .ofList [("title", ["Logic"])] }

def dropping : List Move := [.put logicBook, .ask (logic "logic"), .wait 10, .drop ⟨book, 1⟩]

def searchTwice : List Turn :=
  let search : Search := { typeName := book, request := [("__A__q", "logic"), ("__result", "A")] }
  [.search search, .wait 10, .search search]

/-- Asked again, the backend answers as before, where it would find nothing without a cache.  If the
book stays, two searches find it with the cache as well as without. -/
theorem dropped_book_is_remembered :
    let setting : Setting := ⟨lonely.evaluator, registry.entityTypes⟩
    let cached := Backend.start {} setting
    let plain := Backend.start { cacheEnabled := false } setting
    let index : SearchIndex := { documents := .ofList [(⟨book, 1⟩, logicBook)] }
    (cached.run dropping).answer (logic " logic ") = .ok ⟨[1], by decide⟩ ∧
      (plain.run dropping).answer (logic " logic ") = .ok Hits.none ∧
      (∃ before earlier later hits, dropping = before ++ .ask earlier :: later ∧
        earlier.AsksAs (logic " logic ") ∧ (plain.run before).answer (logic " logic ") = .ok hits ∧
        hits.ids = [1]) ∧
      lonely.session searchTwice 0 { index with cache? := some { lifetime := 30 } } =
        [.ok ⟨[1], by decide⟩, .ok ⟨[1], by decide⟩] := by
  intro setting cached plain index
  have remembered : (cached.run dropping).answer (logic " logic ") = .ok ⟨[1], by decide⟩ := by
    decide +kernel
  have forgotten : (plain.run dropping).answer (logic " logic ") = .ok Hits.none := by
    decide +kernel
  have made : Registry.ofTypes catalog types = .ok lonely.registry := registered
  obtain ⟨traced, -, same⟩ :=
    cache_transparent {} setting dropping (logic " logic ") made searchTwice 0 index 30
  refine ⟨remembered, forgotten, ?_, ?_⟩
  · rcases traced with now | ⟨before, earlier, later, hits, split, -, asksAs, answered, once, -⟩
    · exact absurd (remembered.symm.trans (now.trans forgotten)) (by decide)
    · refine ⟨before, earlier, later, hits, split, asksAs, once, ?_⟩
      cases remembered.symm.trans answered
      rfl
  · rw [same]
    decide +kernel

end Library
end EntitySearch
