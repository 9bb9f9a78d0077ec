import EntitySearch.Data.Lexicographic

/-!
# Links

A junction is a set of links, each a pair of identifiers: the one on the left side, the side of the
model that declared the relation, and the one on the right side.  Links are ordered by their left
identifier, then by their right one.
-/
set_option autoImplicit false
namespace EntitySearch

/-- The side of a junction that an accessor lives on. -/
inductive Side where
  | left
  | right
deriving DecidableEq, Repr

namespace Side

def word : Side → String
  | left => "left"
  | right => "right"

def ofWord? (word : String) : Option Side := [left, right].find? fun side => side.word == word

end Side

structure Link where
  left : Nat
  right : Nat
deriving DecidableEq, Repr

namespace Link

/-- The link between `anchor` on a side and `other` on the other side. -/
def ofSide (side : Side) (anchor other : Nat) : Link :=
  match side with
  | .left => ⟨anchor, other⟩
  | .right => ⟨other, anchor⟩

def from? (side : Side) (anchor : Nat) (link : Link) : Option Nat :=
  match side with
  | .left => if link.left = anchor then some link.right else none
  | .right => if link.right = anchor then some link.left else none

theorem from?_eq_some_iff {side : Side} {anchor other : Nat} {link : Link} :
    link.from? side anchor = some other ↔ link = ofSide side anchor other := by
  obtain ⟨l, r⟩ := link
  cases side with
  | left => simp [from?, ofSide]
  | right => simp [from?, ofSide, and_comm]

instance : Ord Link := ⟨compareLex (compareOn Link.left) (compareOn Link.right)⟩

instance : Std.TransOrd Link :=
  inferInstanceAs (Std.TransCmp (compareLex (compareOn Link.left) (compareOn Link.right)))

instance : Std.LawfulEqOrd Link where
  eq_of_compare {a b} equal := by
    have parts := parts_eq_of_compareLex equal
    cases a; cases b; simp_all

end Link
end EntitySearch
