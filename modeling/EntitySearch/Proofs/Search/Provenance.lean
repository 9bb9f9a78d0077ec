import EntitySearch.Proofs.Search.Caching
import Mathlib.Data.List.Induction

/-!
# Where an answer comes from

A backend is asked for scopes while everything else may change at any time: the documents, the
store and the types, whether the index is online, the time, and the cache may be cleared.  It is
compared with the backend without a cache that sees the same moves.

Every result in the cache was the answer to an earlier question, with no clearing of the cache in
between (`traced_of_kept`).  One move adds no other result (`kept_move`).

Main statement: `answer_now_or_earlier`.
-/
set_option autoImplicit false
namespace EntitySearch

structure Setting where
  evaluator : Evaluator
  types : List EntityType

structure Call where
  typeName : TypeName
  actor : String
  scope : Scope

namespace Call

def key? (call : Call) : Option CacheKey :=
  call.scope.sought?.map fun text =>
    ⟨call.typeName, call.actor, .seeking call.scope.matchAll text⟩

/-- Two questions look for one text, for the same type and actor and with the same flag. -/
def AsksAs (call other : Call) : Prop :=
  call.typeName = other.typeName ∧ call.actor = other.actor ∧
    call.scope.matchAll = other.scope.matchAll ∧
      ∃ text, call.scope.sought? = some text ∧ other.scope.sought? = some text

theorem asksAs_of_key {call other : Call} {key : CacheKey} (mine : call.key? = some key)
    (yours : other.key? = some key) : call.AsksAs other := by
  obtain ⟨text, sought, rfl⟩ := Option.map_eq_some_iff.1 mine
  obtain ⟨otherText, otherSought, same⟩ := Option.map_eq_some_iff.1 yours
  obtain ⟨types, actors, scopes⟩ := CacheKey.mk.inj same
  obtain ⟨flags, rfl⟩ := Scope.seeking_injective scopes
  exact ⟨types.symm, actors.symm, flags.symm, otherText, sought, otherSought⟩

end Call

namespace Setting

def answer (setting : Setting) (now : Nat) (call : Call) (index : SearchIndex) :
    Except SearchError Hits × SearchIndex :=
  match setting.types.find? fun type => type.name = call.typeName with
  | some type => setting.evaluator.answer type call.actor now call.scope index
  | none => (.error (.notFound (.entityType call.typeName)), index)

variable {setting : Setting} {now : Nat} {call : Call} {index : SearchIndex}

theorem answer_cases (setting : Setting) (now : Nat) (call : Call) (index : SearchIndex) :
    setting.answer now call index = ((setting.answer now call index.bare).1, index) ∨
      ∃ cache key hits, index.cache? = some cache ∧ call.key? = some key ∧
        ((cache.get? now key = some hits ∧ setting.answer now call index = (.ok hits, index)) ∨
          ((setting.answer now call index.bare).1 = .ok hits ∧
            setting.answer now call index =
              (.ok hits, { index with cache? := some (cache.insert now key hits) }))) := by
  unfold answer
  cases found : setting.types.find? fun type => type.name = call.typeName with
  | none => exact Or.inl rfl
  | some type =>
      have named : type.name = call.typeName := by simpa using List.find?_some found
      dsimp only
      rcases setting.evaluator.answer_cases type call.actor now call.scope index with
        plain | ⟨cache, text, hits, -, stored, sought, result⟩
      · exact Or.inl plain
      · rw [named] at result
        refine Or.inr ⟨cache, _, hits, stored, ?_, result⟩
        rw [Call.key?, sought]
        rfl

theorem answer_bare (setting : Setting) (now : Nat) (call : Call) (index : SearchIndex) :
    (setting.answer now call index.bare).2 = index.bare := by
  rcases setting.answer_cases now call index.bare with plain | ⟨cache, _, _, none, -⟩
  · rw [plain]
  · cases none

theorem answer_eq_of_asksAs {other : Call} (same : call.AsksAs other) (later : Nat) :
    setting.answer now call index.bare = setting.answer later other index.bare := by
  obtain ⟨types, -, flags, text, sought, otherSought⟩ := same
  unfold answer
  rw [types]
  cases setting.types.find? fun type => type.name = other.typeName with
  | none => rfl
  | some type => exact Evaluator.answer_bare_congr sought otherSought flags other.actor later

end Setting

inductive Move where
  | ask (call : Call)
  | put (document : Document)
  | drop (entity : EntityRef)
  | clear (type : TypeName)
  | setOnline (online : Bool)
  | clearCache
  | wait (seconds : Nat)
  | change (setting : Setting)

/-- An index with what it is asked with, at a time. -/
structure Backend where
  setting : Setting
  index : SearchIndex
  now : Nat := 0

namespace Backend

def start (config : Config) (setting : Setting) : Backend where
  setting
  index := SearchIndex.ofConfig config

def answer (backend : Backend) (call : Call) : Except SearchError Hits :=
  (backend.setting.answer backend.now call backend.index).1

def move (backend : Backend) : Move → Backend
  | .ask call =>
    { backend with index := (backend.setting.answer backend.now call backend.index).2 }
  | .put document => { backend with index := (SearchIndex.target.put document backend.index).2 }
  | .drop entity => { backend with index := (SearchIndex.target.drop entity backend.index).2 }
  | .clear type => { backend with index := (SearchIndex.target.clear type backend.index).2 }
  | .setOnline online => { backend with index := { backend.index with online } }
  | .clearCache =>
    { backend with
      index := { backend.index with cache? := backend.index.cache?.map Cache.clear } }
  | .wait seconds => { backend with now := backend.now + seconds }
  | .change setting => { backend with setting }

def run (backend : Backend) (moves : List Move) : Backend := moves.foldl move backend

def bare (backend : Backend) : Backend := { backend with index := backend.index.bare }

variable {backend : Backend}

theorem run_append (backend : Backend) (moves : List Move) (move : Move) :
    backend.run (moves ++ [move]) = (backend.run moves).move move := List.foldl_append

theorem bare_start (config : Config) (setting : Setting) :
    (start config setting).bare = start { config with cacheEnabled := false } setting := by
  unfold start SearchIndex.ofConfig
  cases config.cacheEnabled <;> rfl

theorem changing_bare (index : SearchIndex)
    (change : SortedMap EntityRef Document → SortedMap EntityRef Document) :
    (index.bare.changing change).2 = (index.changing change).2.bare := by
  unfold SearchIndex.changing
  rw [SearchIndex.checkOnline_bare]
  cases index.checkOnline <;> rfl

/-- The cache has no part in anything else that happens. -/
theorem bare_move (backend : Backend) (move : Move) :
    (backend.move move).bare = backend.bare.move move := by
  cases move with
  | ask call =>
      have kept : (backend.setting.answer backend.now call backend.index).2.bare =
          backend.index.bare := by
        rcases backend.setting.answer_cases backend.now call backend.index with
          plain | ⟨_, _, _, -, -, ⟨-, hit⟩ | ⟨-, miss⟩⟩
        · rw [plain]
        · rw [hit]
        · rw [miss]
          rfl
      have same := (backend.setting.answer_bare backend.now call backend.index).symm
      exact congrArg (fun index => { backend with index }) (kept.trans same)
  | put document => exact congrArg (fun index => { backend with index }) (changing_bare ..).symm
  | drop entity => exact congrArg (fun index => { backend with index }) (changing_bare ..).symm
  | clear type => exact congrArg (fun index => { backend with index }) (changing_bare ..).symm
  | setOnline online => rfl
  | clearCache => rfl
  | wait seconds => rfl
  | change setting => rfl

theorem bare_run (backend : Backend) (moves : List Move) :
    (backend.run moves).bare = backend.bare.run moves := by
  induction moves generalizing backend with
  | nil => rfl
  | cons move rest ih =>
      change ((backend.move move).run rest).bare = (backend.bare.move move).run rest
      rw [ih, bare_move]

/-! ## What a cache keeps -/

theorem cache_changing (index : SearchIndex)
    (change : SortedMap EntityRef Document → SortedMap EntityRef Document) :
    (index.changing change).2.cache? = index.cache? := by
  unfold SearchIndex.changing
  split <;> rfl

theorem cache_move_cases (backend : Backend) (move : Move) :
    ((backend.move move).index.cache? = backend.index.cache? ∧ move ≠ .clearCache) ∨
      (backend.move move).index.cache? = backend.index.cache?.map Cache.clear ∨
      ∃ call cache key hits, move = .ask call ∧ backend.index.cache? = some cache ∧
        call.key? = some key ∧ backend.bare.answer call = .ok hits ∧
          (backend.move move).index.cache? = some (cache.insert backend.now key hits) := by
  cases move with
  | ask call =>
      change ((backend.setting.answer backend.now call backend.index).2.cache? = _ ∧ _) ∨ _ ∨
        ∃ other cache key hits, _ ∧ _ ∧ _ ∧ _ ∧
          (backend.setting.answer backend.now call backend.index).2.cache? = _
      rcases backend.setting.answer_cases backend.now call backend.index with
        plain | ⟨cache, key, hits, stored, keyed, ⟨-, hit⟩ | ⟨evaluated, miss⟩⟩
      · exact Or.inl ⟨by rw [plain], Move.noConfusion⟩
      · exact Or.inl ⟨by rw [hit], Move.noConfusion⟩
      · exact Or.inr (Or.inr ⟨call, cache, key, hits, rfl, stored, keyed, evaluated, by rw [miss]⟩)
  | put document => exact Or.inl ⟨cache_changing .., Move.noConfusion⟩
  | drop entity => exact Or.inl ⟨cache_changing .., Move.noConfusion⟩
  | clear type => exact Or.inl ⟨cache_changing .., Move.noConfusion⟩
  | setOnline online => exact Or.inl ⟨rfl, Move.noConfusion⟩
  | clearCache => exact Or.inr (Or.inl rfl)
  | wait seconds => exact Or.inl ⟨rfl, Move.noConfusion⟩
  | change setting => exact Or.inl ⟨rfl, Move.noConfusion⟩

theorem kept_move {move : Move} {entry : CacheEntry}
    (member : entry ∈ (backend.move move).index.kept) :
    (entry ∈ backend.index.kept ∧ move ≠ .clearCache) ∨
      ∃ call, move = .ask call ∧ call.key? = some entry.key ∧ backend.now = entry.since ∧
        backend.bare.answer call = .ok entry.hits := by
  unfold SearchIndex.kept at member
  rcases backend.cache_move_cases move with
    ⟨same, stays⟩ | cleared | ⟨call, cache, key, hits, asks, stored, keyed, evaluated, after⟩
  · rw [same] at member
    exact Or.inl ⟨member, stays⟩
  · rw [cleared] at member
    cases stored : backend.index.cache? with
    | none =>
        rw [stored] at member
        cases member
    | some cache =>
        rw [stored] at member
        cases member
  · rw [after] at member
    rcases Cache.mem_insert member with rfl | old
    · exact Or.inr ⟨call, asks, keyed, rfl, evaluated⟩
    · refine Or.inl ⟨?_, ?_⟩
      · unfold SearchIndex.kept
        rw [stored]
        exact old
      · rw [asks]
        exact Move.noConfusion

theorem lifetime_move (backend : Backend) (move : Move) :
    (backend.move move).index.cache?.map Cache.lifetime =
      backend.index.cache?.map Cache.lifetime := by
  rcases backend.cache_move_cases move with
    ⟨same, -⟩ | cleared | ⟨_, cache, _, _, -, stored, -, -, after⟩
  · rw [same]
  · rw [cleared, Option.map_map]
    rfl
  · rw [after, stored]
    rfl

theorem lifetime_run (backend : Backend) (moves : List Move) :
    (backend.run moves).index.cache?.map Cache.lifetime =
      backend.index.cache?.map Cache.lifetime := by
  induction moves generalizing backend with
  | nil => rfl
  | cons move rest ih => exact (ih (backend.move move)).trans (backend.lifetime_move move)

/-- A result was the answer to an earlier question, with no clearing of the cache in between. -/
def Traced (backend : Backend) (moves : List Move) (entry : CacheEntry) : Prop :=
  ∃ before earlier later, moves = before ++ .ask earlier :: later ∧ .clearCache ∉ later ∧
    earlier.key? = some entry.key ∧ (backend.run before).now = entry.since ∧
      (backend.bare.run before).answer earlier = .ok entry.hits

theorem Traced.append {moves : List Move} {entry : CacheEntry}
    (traced : backend.Traced moves entry) {move : Move} (stays : move ≠ .clearCache) :
    backend.Traced (moves ++ [move]) entry := by
  obtain ⟨before, earlier, later, rfl, uncleared, traced⟩ := traced
  refine ⟨before, earlier, later ++ [move], by simp, ?_, traced⟩
  intro cleared
  rcases List.mem_append.1 cleared with old | new
  · exact uncleared old
  · exact stays (List.mem_singleton.1 new).symm

theorem traced_of_kept (empty : backend.index.kept = []) (moves : List Move) :
    ∀ entry ∈ (backend.run moves).index.kept, backend.Traced moves entry := by
  -- By the last move: traces are stated from the start, so a move is added at their end.
  induction moves using List.reverseRecOn with
  | nil =>
      intro entry member
      rw [show backend.run [] = backend from rfl, empty] at member
      cases member
  | append_singleton moves move ih =>
      intro entry member
      rw [run_append] at member
      rcases kept_move member with ⟨old, stays⟩ | ⟨call, rfl, keyed, since, answered⟩
      · exact (ih entry old).append stays
      · refine ⟨moves, call, [], rfl, List.not_mem_nil, keyed, since, ?_⟩
        rw [← bare_run]
        exact answered

/-! ## Answers -/

/-- What the backend answers is what it would answer without its cache, now or at the moment of an
earlier question that asks the same, with no clearing of the cache in between.  Such an answer is
younger than the lifetime of cached results. -/
theorem answer_now_or_earlier (config : Config) (setting : Setting) (moves : List Move)
    (call : Call) :
    let cached := start config setting
    let plain := start { config with cacheEnabled := false } setting
    (cached.run moves).answer call = (plain.run moves).answer call ∨
      ∃ before earlier later hits, moves = before ++ .ask earlier :: later ∧
        .clearCache ∉ later ∧ earlier.AsksAs call ∧
        (cached.run moves).answer call = .ok hits ∧ (plain.run before).answer call = .ok hits ∧
        (cached.run moves).now < (cached.run before).now + config.cacheSeconds := by
  intro cached plain
  have isPlain : cached.bare = plain := bare_start config setting
  have empty : cached.index.kept = [] := by
    change (SearchIndex.ofConfig config).kept = []
    unfold SearchIndex.ofConfig SearchIndex.kept
    cases config.cacheEnabled <;> rfl
  rw [← isPlain, ← bare_run]
  rcases (cached.run moves).setting.answer_cases (cached.run moves).now call
      (cached.run moves).index with
    same | ⟨cache, key, hits, stored, keyed, ⟨found, hit⟩ | ⟨evaluated, miss⟩⟩
  · have answered := congrArg Prod.fst same
    exact Or.inl answered
  · obtain ⟨entry, member, rfl, rfl, alive⟩ := Cache.mem_of_get? found
    have isKept : entry ∈ (cached.run moves).index.kept := by
      unfold SearchIndex.kept
      rw [stored]
      exact member
    obtain ⟨before, earlier, later, split, uncleared, earlierKey, since, answered⟩ :=
      traced_of_kept empty moves entry isKept
    have asksAs := Call.asksAs_of_key earlierKey keyed
    have lifetime : cache.lifetime = config.cacheSeconds := by
      have kept := cached.lifetime_run moves
      rw [stored] at kept
      change some cache.lifetime = (SearchIndex.ofConfig config).cache?.map Cache.lifetime at kept
      unfold SearchIndex.ofConfig at kept
      split at kept
      · exact Option.some.inj kept
      · cases kept
    refine Or.inr ⟨before, earlier, later, entry.hits, split, uncleared, asksAs, ?_, ?_, ?_⟩
    · exact congrArg Prod.fst hit
    · rw [← answered, ← bare_run]
      exact congrArg Prod.fst (Setting.answer_eq_of_asksAs asksAs _).symm
    · omega
  · refine Or.inl ?_
    exact (congrArg Prod.fst miss).trans evaluated.symm

theorem answer_now (config : Config) (setting : Setting) (moves : List Move) {call : Call}
    (looksForNone : call.scope.sought? = none) :
    ((start config setting).run moves).answer call =
      ((start { config with cacheEnabled := false } setting).run moves).answer call := by
  rcases answer_now_or_earlier config setting moves call with
    now | ⟨_, _, _, _, -, -, ⟨-, -, -, text, -, sought⟩, -⟩
  · exact now
  · rw [looksForNone] at sought
    cases sought

end Backend
end EntitySearch
