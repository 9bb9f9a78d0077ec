import EntitySearch.Query.Scope
import EntitySearch.Schema.TypeName
import EntitySearch.Search.Hits

/-!
# The cache of free-text results

A result is kept under all that a free-text search depends on besides the index and the store: the
entity type, the actor and the cleaned scope.  It lives for a fixed number of seconds and no write
to the index or the store ends it earlier, so an answer from the cache may be out of date.
-/
set_option autoImplicit false
namespace EntitySearch

/-- What a cached result is kept under. -/
structure CacheKey where
  typeName : TypeName
  actor : String
  scope : Scope
deriving DecidableEq

structure CacheEntry where
  key : CacheKey
  hits : Hits
  since : Nat
deriving DecidableEq

structure Cache where
  lifetime : Nat
  entries : List CacheEntry := []
deriving DecidableEq

namespace Cache

def alive (cache : Cache) (now : Nat) (entry : CacheEntry) : Bool :=
  decide (now - entry.since < cache.lifetime)

def get? (cache : Cache) (now : Nat) (key : CacheKey) : Option Hits :=
  match cache.entries.find? fun entry => entry.key = key with
  | some entry => if cache.alive now entry then some entry.hits else none
  | none => none

/-- Puts a result under a key in place of an earlier one.  Entries that are not alive go. -/
def insert (cache : Cache) (now : Nat) (key : CacheKey) (hits : Hits) : Cache :=
  { cache with
    entries := ⟨key, hits, now⟩ :: cache.entries.filter fun entry =>
      cache.alive now entry && entry.key ≠ key }

def size (cache : Cache) : Nat := cache.entries.length

def clear (cache : Cache) : Cache := { cache with entries := [] }

end Cache
end EntitySearch
