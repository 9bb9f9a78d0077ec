import EntitySearch.Data.Lexicographic
import EntitySearch.Data.SortedMap
import EntitySearch.Search.Hits

/-!
# Permissions

An actor may be granted a permission on every entity or on some.  Without a grant an actor sees
nothing; a grant on every entity takes up later grants on some of them.
-/
set_option autoImplicit false
namespace EntitySearch

structure Holding where
  actor : String
  permission : String
deriving DecidableEq

namespace Holding

instance : Ord Holding := ⟨compareLex (compareOn Holding.actor) (compareOn Holding.permission)⟩

instance : Std.TransOrd Holding :=
  inferInstanceAs (Std.TransCmp (compareLex (compareOn Holding.actor)
    (compareOn Holding.permission)))

instance : Std.LawfulEqOrd Holding where
  eq_of_compare {a b} equal := by
    have parts := parts_eq_of_compareLex equal
    cases a; cases b; simp_all

end Holding

/-- What an actor is granted under a permission. -/
inductive Grant where
  | all
  | objects (ids : List Nat)
deriving DecidableEq

namespace Grant

def covers : Grant → Nat → Bool
  | all, _ => true
  | objects ids, id => ids.contains id

def extend : Grant → List Nat → Grant
  | all, _ => all
  | objects ids, more => objects (ids ++ more)

end Grant

abbrev Grants := SortedMap Holding Grant

namespace Grants

def empty : Grants := SortedMap.empty

def grantAll (grants : Grants) (holding : Holding) : Grants := grants.insert holding .all

def grantObjects (grants : Grants) (holding : Holding) (ids : List Nat) : Grants :=
  grants.insert holding (((grants.get? holding).getD (.objects [])).extend ids)

/-- Withdraws all grants of a permission. -/
def revoke (grants : Grants) (holding : Holding) : Grants := grants.erase holding

def permits (grants : Grants) (holding : Holding) (id : Nat) : Bool :=
  match grants.get? holding with
  | none => false
  | some grant => grant.covers id

def restrict (grants : Grants) (holding : Holding) (hits : Hits) : Hits :=
  hits.filter (grants.permits holding)

end Grants

/-- How the hits of types with a permission are restricted. -/
inductive Permissions where
  | unrestricted
  | granted (grants : Grants)

def Permissions.restrict (permissions : Permissions) (holding : Holding) (hits : Hits) : Hits :=
  match permissions with
  | .unrestricted => hits
  | .granted grants => grants.restrict holding hits

end EntitySearch
