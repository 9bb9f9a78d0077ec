/-!
# First occurrences

`distinct l` keeps the first occurrence of every member of `l`; `distinctBy same l` keeps a member
unless an earlier one is the same by the given test.

Main statements: `mem_distinct`, `nodup_distinct`, `distinct_eq_self`, `distinct_append`,
`exists_same_mem_distinctBy`, `pairwise_distinctBy`.
-/
set_option autoImplicit false
namespace EntitySearch

variable {α : Type}

def distinct [DecidableEq α] : List α → List α
  | [] => []
  | a :: rest => a :: (distinct rest).filter fun b => decide (b ≠ a)

/-- The members of a list that are not the same as an earlier kept one. -/
def distinctBy (same : α → α → Bool) (l : List α) : List α :=
  l.foldl (fun kept a => if kept.any fun b => same b a then kept else kept ++ [a]) []

section Distinct
variable [DecidableEq α]

@[simp] theorem mem_distinct {a : α} {l : List α} : a ∈ distinct l ↔ a ∈ l := by
  induction l with
  | nil => simp [distinct]
  | cons b rest ih =>
      by_cases same : a = b
      · simp [distinct, same]
      · simp [distinct, same, ih]

theorem nodup_distinct (l : List α) : (distinct l).Nodup := by
  induction l with
  | nil => simp [distinct]
  | cons b rest ih =>
      refine List.nodup_cons.2 ⟨by simp, ?_⟩
      exact List.Pairwise.filter _ ih

theorem distinct_eq_self {l : List α} (nodup : l.Nodup) : distinct l = l := by
  induction l with
  | nil => rfl
  | cons b rest ih =>
      obtain ⟨fresh, tail⟩ := List.nodup_cons.1 nodup
      rw [distinct, ih tail]
      congr 1
      refine List.filter_eq_self.2 fun a member => ?_
      have : a ≠ b := fun same => fresh (same ▸ member)
      simpa using this

theorem distinct_filter (p : α → Bool) (l : List α) :
    distinct (l.filter p) = (distinct l).filter p := by
  induction l with
  | nil => rfl
  | cons b rest ih =>
      cases keep : p b with
      | true => simp [distinct, keep, ih, List.filter_filter, Bool.and_comm]
      | false =>
          simp only [List.filter_cons, keep, Bool.false_eq_true, if_false, distinct, ih,
            List.filter_filter]
          refine List.filter_congr fun a _ => ?_
          by_cases same : a = b
          · simp [same, keep]
          · simp [same]

theorem distinct_append (a b : List α) :
    distinct (a ++ b) = distinct a ++ (distinct b).filter fun c => c ∉ a := by
  induction a with
  | nil => exact (List.filter_eq_self.2 fun _ _ => by simp).symm
  | cons c rest ih =>
      rw [List.cons_append, distinct, distinct, ih, List.filter_append, List.filter_filter,
        List.cons_append]
      congr 2
      refine List.filter_congr fun d _ => ?_
      by_cases same : d = c
      · simp [same]
      · simp [same]

theorem distinct_distinct_append (a b : List α) : distinct (distinct a ++ b) = distinct (a ++ b) := by
  rw [distinct_append, distinct_append, distinct_eq_self (nodup_distinct a)]
  simp only [mem_distinct]

end Distinct

section DistinctBy
variable {same : α → α → Bool}

def keepUnlessSame (same : α → α → Bool) (kept : List α) (a : α) : List α :=
  if kept.any fun b => same b a then kept else kept ++ [a]

theorem mem_of_mem_foldl_keepUnlessSame {a : α} {l kept : List α}
    (member : a ∈ l.foldl (keepUnlessSame same) kept) : a ∈ kept ∨ a ∈ l := by
  induction l generalizing kept with
  | nil => exact Or.inl member
  | cons b rest ih =>
      rcases ih member with inKept | later
      · rw [keepUnlessSame] at inKept
        split at inKept
        · exact Or.inl inKept
        · rcases List.mem_append.1 inKept with earlier | last
          · exact Or.inl earlier
          · exact Or.inr (List.mem_cons.2 (Or.inl (List.mem_singleton.1 last)))
      · exact Or.inr (List.mem_cons_of_mem _ later)

theorem exists_same_mem_foldl_keepUnlessSame {a : α} {l kept : List α}
    (known : (∃ b ∈ kept, same b a) ∨ (a ∈ l ∧ same a a)) :
    ∃ b ∈ l.foldl (keepUnlessSame same) kept, same b a := by
  induction l generalizing kept with
  | nil => simpa using known
  | cons c rest ih =>
      apply ih
      rcases known with ⟨b, inKept, sameAsA⟩ | ⟨member, self⟩
      · refine Or.inl ⟨b, ?_, sameAsA⟩
        rw [keepUnlessSame]
        split
        · exact inKept
        · exact List.mem_append_left _ inKept
      · rcases List.mem_cons.1 member with rfl | later
        · refine Or.inl ?_
          rw [keepUnlessSame]
          split
          · next found => simpa using found
          · exact ⟨a, by simp, self⟩
        · exact Or.inr ⟨later, self⟩

theorem mem_of_mem_distinctBy {a : α} {l : List α} (member : a ∈ distinctBy same l) : a ∈ l := by
  have kept : a ∈ l.foldl (keepUnlessSame same) [] := member
  rcases mem_of_mem_foldl_keepUnlessSame kept with none | inList
  · cases none
  · exact inList

theorem exists_same_mem_distinctBy {a : α} {l : List α} (member : a ∈ l) (self : same a a) :
    ∃ b ∈ distinctBy same l, same b a :=
  exists_same_mem_foldl_keepUnlessSame (Or.inr ⟨member, self⟩)

theorem pairwise_foldl_keepUnlessSame {l kept : List α}
    (apart : kept.Pairwise fun a b => same a b = false) :
    (l.foldl (keepUnlessSame same) kept).Pairwise fun a b => same a b = false := by
  induction l generalizing kept with
  | nil => exact apart
  | cons c rest ih =>
      apply ih
      rw [keepUnlessSame]
      split
      · exact apart
      · next fresh =>
        refine List.pairwise_append.2 ⟨apart, List.pairwise_singleton .., ?_⟩
        rintro b inKept d isLast
        rw [List.mem_singleton.1 isLast]
        exact Bool.eq_false_iff.2 fun found => fresh (List.any_eq_true.2 ⟨b, inKept, found⟩)

theorem pairwise_distinctBy (same : α → α → Bool) (l : List α) :
    (distinctBy same l).Pairwise fun a b => same a b = false :=
  pairwise_foldl_keepUnlessSame List.Pairwise.nil

end DistinctBy
end EntitySearch
