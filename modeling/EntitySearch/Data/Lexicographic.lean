/-!
# Lexicographic order

Things with two parts are ordered by the first part, then by the second.  Things that this order
cannot tell apart agree in both parts.
-/
set_option autoImplicit false
namespace EntitySearch

theorem parts_eq_of_compareLex {α β γ : Type} [Ord β] [Ord γ] [Std.LawfulEqOrd β]
    [Std.LawfulEqOrd γ] {first : α → β} {second : α → γ} {a b : α}
    (equal : compareLex (compareOn first) (compareOn second) a b = .eq) :
    first a = first b ∧ second a = second b := by
  have both : (compare (first a) (first b)).then (compare (second a) (second b)) = .eq := equal
  have parts : compare (first a) (first b) = .eq ∧ compare (second a) (second b) = .eq := by
    cases order : compare (first a) (first b) <;> simp_all [Ordering.then]
  exact ⟨Std.LawfulEqCmp.eq_of_compare parts.1, Std.LawfulEqCmp.eq_of_compare parts.2⟩

end EntitySearch
