import EntitySearch.Search.SearchIndex

/-!
# What the cache adds to an answer

The key of a cached result holds the type, the actor, the flag of the scope and the text it looks
for; scopes that look for no text have no key.  Questions with one key get one answer from an index
without a cache, whatever else their scopes hold.

An index with a cache answers what it would answer without one, unless the cache has a live result:
`answer_cases` is all that an answer can be.

Main statements: `cacheKey?_cleaned`, `answer_bare_congr`, `answer_cases`.
-/
set_option autoImplicit false
namespace EntitySearch

namespace Scope

/-- The text that a free-text scope looks for, without the white space at its ends; a structured
scope and a blank text look for none. -/
def sought? (scope : Scope) : Option String :=
  (scope.freeText?.map trimmedValue).filter fun text => text ≠ ""

def seeking (matchAll : Bool) (text : String) : Scope :=
  ⟨matchAll, SortedMap.empty.insert anyField text⟩

variable {scope : Scope}

theorem mode_of_sought {text : String} (sought : scope.sought? = some text) :
    scope.mode = .freeText := by
  obtain ⟨found, -⟩ := Option.filter_eq_some_iff.1 sought
  obtain ⟨value, held, -⟩ := Option.map_eq_some_iff.1 found
  have holds : scope.fields.contains anyField = true := Option.isSome_iff_exists.2 ⟨value, held⟩
  exact if_pos holds

theorem cleaned_of_sought {text : String} (sought : scope.sought? = some text)
    (type : EntityType) : scope.cleaned type = seeking scope.matchAll text := by
  obtain ⟨found, notBlank⟩ := Option.filter_eq_some_iff.1 sought
  have differs : text ≠ "" := of_decide_eq_true notBlank
  unfold cleaned seeking
  rw [mode_of_sought sought, cleanedFields, found]
  simp only [if_neg differs]

theorem seeking_injective {matchAll otherAll : Bool} {text other : String}
    (same : seeking matchAll text = seeking otherAll other) :
    matchAll = otherAll ∧ text = other := by
  obtain ⟨flags, fields⟩ := Scope.mk.inj same
  have held := congrArg (fun fields => fields.get? anyField) fields
  simp only [SortedMap.get?_insert, if_true, Option.some.injEq] at held
  exact ⟨flags, held⟩

theorem cacheKey?_cleaned (scope : Scope) (type : EntityType) (actor : String) :
    Evaluator.cacheKey? type actor (scope.cleaned type) scope.mode =
      scope.sought?.map fun text => ⟨type.name, actor, seeking scope.matchAll text⟩ := by
  cases sought : scope.sought? with
  | some text =>
      rw [cleaned_of_sought sought, mode_of_sought sought]
      rfl
  | none =>
      cases mode : scope.mode with
      | structured => rfl
      | freeText =>
          have blank : scope.cleanedFields type .freeText = .empty := by
            unfold cleanedFields
            dsimp only
            unfold sought? at sought
            cases found : scope.freeText?.map trimmedValue with
            | none => rfl
            | some value =>
                rw [found, Option.filter_eq_none_iff] at sought
                have empty : value = "" := by simpa using sought value rfl
                exact if_pos empty
          unfold Evaluator.cacheKey? cleaned
          rw [mode, blank]
          rfl

end Scope

namespace Cache
variable {cache : Cache} {now : Nat} {key : CacheKey} {hits : Hits}

theorem mem_of_get? (found : cache.get? now key = some hits) :
    ∃ entry ∈ cache.entries, entry.key = key ∧ entry.hits = hits ∧
      now - entry.since < cache.lifetime := by
  unfold get? at found
  split at found
  · next entry isEntry =>
    split at found
    · next alive =>
      cases found
      have named : entry.key = key := by simpa using List.find?_some isEntry
      exact ⟨entry, List.mem_of_find?_eq_some isEntry, named, rfl, of_decide_eq_true alive⟩
    · cases found
  · cases found

theorem mem_insert {entry : CacheEntry} (member : entry ∈ (cache.insert now key hits).entries) :
    entry = ⟨key, hits, now⟩ ∨ entry ∈ cache.entries := by
  rcases List.mem_cons.1 member with new | kept
  · exact Or.inl new
  · exact Or.inr (List.mem_filter.1 kept).1

end Cache

namespace SearchIndex

def bare (index : SearchIndex) : SearchIndex := { index with cache? := none }

def kept (index : SearchIndex) : List CacheEntry :=
  match index.cache? with
  | some cache => cache.entries
  | none => []

theorem checkOnline_bare (index : SearchIndex) : index.bare.checkOnline = index.checkOnline := rfl

end SearchIndex

namespace Evaluator
variable {evaluator : Evaluator} {type : EntityType} {actor : String} {now : Nat} {scope : Scope}
  {index : SearchIndex}

theorem answer_bare (evaluator : Evaluator) (type : EntityType) (actor : String) (now : Nat)
    (scope : Scope) (index : SearchIndex) :
    evaluator.answer type actor now scope index.bare =
      (index.checkOnline.bind fun _ => evaluator.hits index type (scope.cleaned type) scope.mode,
        index.bare) := by
  unfold answer
  rw [SearchIndex.checkOnline_bare]
  cases index.checkOnline with
  | error e => rfl
  | ok _ => rfl

theorem answer_bare_congr {other : Scope} {text : String} (sought : scope.sought? = some text)
    (otherSought : other.sought? = some text) (flags : scope.matchAll = other.matchAll)
    (otherActor : String) (later : Nat) :
    evaluator.answer type actor now scope index.bare =
      evaluator.answer type otherActor later other index.bare := by
  rw [answer_bare, answer_bare, Scope.cleaned_of_sought sought, Scope.cleaned_of_sought otherSought,
    Scope.mode_of_sought sought, Scope.mode_of_sought otherSought, flags]

/-- An answer is the one without the cache, comes from the cache, or goes into it. -/
theorem answer_cases (evaluator : Evaluator) (type : EntityType) (actor : String) (now : Nat)
    (scope : Scope) (index : SearchIndex) :
    evaluator.answer type actor now scope index =
        ((evaluator.answer type actor now scope index.bare).1, index) ∨
      ∃ cache text hits, index.online = true ∧ index.cache? = some cache ∧
        scope.sought? = some text ∧
        let key : CacheKey := ⟨type.name, actor, .seeking scope.matchAll text⟩
        (cache.get? now key = some hits ∧
            evaluator.answer type actor now scope index = (.ok hits, index)) ∨
          ((evaluator.answer type actor now scope index.bare).1 = .ok hits ∧
            evaluator.answer type actor now scope index =
              (.ok hits, { index with cache? := some (cache.insert now key hits) })) := by
  rw [answer_bare]
  unfold answer
  cases available : index.checkOnline with
  | error e => exact Or.inl rfl
  | ok _ =>
      have online : index.online = true := by
        unfold SearchIndex.checkOnline at available
        split at available
        · assumption
        · cases available
      dsimp only [Except.bind]
      rw [Scope.cacheKey?_cleaned]
      cases stored : index.cache? with
      | none => exact Or.inl rfl
      | some cache =>
          cases sought : scope.sought? with
          | none => exact Or.inl rfl
          | some text =>
              dsimp only [Option.map_some]
              split
              · next hits found =>
                exact Or.inr ⟨cache, text, hits, online, rfl, rfl, Or.inl ⟨found, rfl⟩⟩
              · cases evaluated : evaluator.hits index type (scope.cleaned type) scope.mode with
                | error e => exact Or.inl rfl
                | ok hits => exact Or.inr ⟨cache, text, hits, online, rfl, rfl, Or.inr ⟨rfl, rfl⟩⟩

end Evaluator
end EntitySearch
