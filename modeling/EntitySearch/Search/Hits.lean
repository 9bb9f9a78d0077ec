import EntitySearch.Data.Distinct

/-!
# Result sets

The hits of a search are a list of identifiers without repetition.  Their order is kept: the common
hits of two lists stand as in the first one, and all hits of two lists are those of the first
followed by the new ones of the second.
-/
set_option autoImplicit false
namespace EntitySearch

/-- An ordered list of identifiers without repetition. -/
structure Hits where
  ids : List Nat
  nodup : ids.Nodup
deriving DecidableEq

namespace Hits

theorem eq_of_ids {a b : Hits} (same : a.ids = b.ids) : a = b := by
  cases a
  cases b
  cases same
  rfl

def none : Hits := ⟨[], List.nodup_nil⟩

instance : Inhabited Hits := ⟨none⟩

def ofList (ids : List Nat) : Hits := ⟨distinct ids, nodup_distinct ids⟩

def contains (hits : Hits) (id : Nat) : Bool := hits.ids.contains id

def filter (keep : Nat → Bool) (hits : Hits) : Hits :=
  ⟨hits.ids.filter keep, hits.nodup.filter keep⟩

/-- The common hits, in the order of the first list. -/
def inter (a b : Hits) : Hits := a.filter b.contains

/-- The hits of the first list followed by the new ones of the second. -/
def union (a b : Hits) : Hits := ofList (a.ids ++ b.ids)

def take (limit : Nat) (hits : Hits) : Hits :=
  ⟨hits.ids.take limit, (List.take_sublist limit hits.ids).nodup hits.nodup⟩

theorem mem_ofList {id : Nat} {ids : List Nat} : id ∈ (ofList ids).ids ↔ id ∈ ids := mem_distinct

theorem mem_filter {id : Nat} {keep : Nat → Bool} {hits : Hits} :
    id ∈ (hits.filter keep).ids ↔ id ∈ hits.ids ∧ keep id = true := List.mem_filter

theorem mem_inter {id : Nat} {a b : Hits} : id ∈ (a.inter b).ids ↔ id ∈ a.ids ∧ id ∈ b.ids := by
  simp [inter, mem_filter, contains]

theorem mem_union {id : Nat} {a b : Hits} : id ∈ (a.union b).ids ↔ id ∈ a.ids ∨ id ∈ b.ids := by
  simp [union, mem_ofList]

end Hits
end EntitySearch
