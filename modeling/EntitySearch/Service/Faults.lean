import EntitySearch.Index.Indexer

/-!
# Failure drills

To see how indexing copes with an index that fails, an index can be put behind a counter: the next
calls that put or drop a document fail as if the index could not be reached, whatever its state, and
every such call is counted.  Clearing a type is neither failed nor counted.
-/
set_option autoImplicit false
namespace EntitySearch

/-- An index whose next calls may be made to fail. -/
structure Faulty (σ : Type) where
  inner : σ
  failing : Nat := 0
  calls : Nat := 0

namespace Faulty
variable {σ : Type}

/-- A call that is counted, and fails if it is one of those to fail. -/
def call (run : σ → Except SearchError Unit × σ) (index : Faulty σ) :
    Except SearchError Unit × Faulty σ :=
  match index.failing with
  | left + 1 =>
    (.error (.backendUnavailable "flaky"), { index with failing := left, calls := index.calls + 1 })
  | 0 =>
    let (result, inner) := run index.inner
    (result, { index with inner, calls := index.calls + 1 })

def passOn (run : σ → Except SearchError Unit × σ) (index : Faulty σ) :
    Except SearchError Unit × Faulty σ :=
  let (result, inner) := run index.inner
  (result, { index with inner })

/-- Without failures to come a call is the call of the index behind the counter. -/
theorem call_eq_of_failing_eq_zero (run : σ → Except SearchError Unit × σ) (index : Faulty σ)
    (none : index.failing = 0) :
    call run index = ((run index.inner).1,
      { index with inner := (run index.inner).2, calls := index.calls + 1 }) := by
  simp [call, none]

end Faulty

def IndexTarget.faulty {σ : Type} (target : IndexTarget σ) : IndexTarget (Faulty σ) where
  put document := Faulty.call (target.put document)
  drop entity := Faulty.call (target.drop entity)
  clear type := Faulty.passOn (target.clear type)

end EntitySearch
