import EntitySearch.Schema.EntityType
import Mathlib.Data.List.Nodup

/-!
# The fields of free-text queries

Free text is bound to the first fields of a list of candidates.  The candidates are the fields with
a rank, by rank; without any, the fields that end at a priority attribute, by the first place of the
attribute among the priorities; without any of these, all fields.  Fields that this does not part
are in the order in which they were registered, so there is one list of candidates only.

Main statement: `freeTextFields_first_candidates`.
-/
set_option autoImplicit false
namespace EntitySearch

section Stable
variable {α : Type} (key : α → Nat)

def keyLE (a b : α) : Bool := decide (key a ≤ key b)

theorem keyLE_trans (a b c : α) (first : keyLE key a b = true) (second : keyLE key b c = true) :
    keyLE key a c = true :=
  decide_eq_true (Nat.le_trans (of_decide_eq_true first) (of_decide_eq_true second))

theorem keyLE_total (a b : α) : (keyLE key a b || keyLE key b a) = true := by
  simpa [keyLE] using Nat.le_total (key a) (key b)

/-- Members with the same key keep their order. -/
theorem filter_mergeSort_key (k : Nat) (l : List α) :
    (l.mergeSort (keyLE key)).filter (fun a => key a = k) = l.filter fun a => key a = k := by
  have level : (l.filter fun a => key a = k).Pairwise fun a b => keyLE key a b = true := by
    refine List.pairwise_of_forall_mem_list fun a inA b inB => ?_
    have keyA : key a = k := by simpa using (List.mem_filter.1 inA).2
    have keyB : key b = k := by simpa using (List.mem_filter.1 inB).2
    simp [keyLE, keyA, keyB]
  have within := List.sublist_mergeSort (keyLE_trans key) (keyLE_total key) level List.filter_sublist
  have part := within.filter fun a => decide (key a = k)
  simp only [List.filter_filter, Bool.and_self] at part
  have same := (List.mergeSort_perm l (keyLE key)).filter fun a => decide (key a = k)
  exact (part.eq_of_length same.length_eq.symm).symm

/-- Sorting by a key parts the members that a finer order has parted already. -/
theorem pairwise_mergeSort_key {place : α → Nat} {l : List α}
    (placed : l.Pairwise fun a b => place a < place b) :
    (l.mergeSort (keyLE key)).Pairwise fun a b =>
      key a < key b ∨ key a = key b ∧ place a < place b := by
  have sorted := List.pairwise_mergeSort (keyLE_trans key) (keyLE_total key) l
  rw [List.pairwise_iff_forall_sublist] at sorted ⊢
  intro a b pair
  rcases Nat.lt_or_eq_of_le (of_decide_eq_true (sorted pair)) with less | same
  · exact .inl less
  · refine .inr ⟨same, ?_⟩
    have level := pair.filter fun c => decide (key c = key b)
    rw [filter_mergeSort_key] at level
    simp only [List.filter_cons, same, decide_true, if_true, List.filter_nil] at level
    exact List.pairwise_iff_forall_sublist.1 placed (level.trans List.filter_sublist)

end Stable

theorem pairwise_distinct_idxOf (l : List String) :
    (distinct l).Pairwise fun a b => l.idxOf a < l.idxOf b := by
  induction l with
  | nil => exact List.Pairwise.nil
  | cons c rest ih =>
      rw [distinct]
      have other : ∀ a ∈ (distinct rest).filter fun b => decide (b ≠ c),
          (c :: rest).idxOf a = rest.idxOf a + 1 := by
        intro a member
        have differs : a ≠ c := by simpa using (List.mem_filter.1 member).2
        exact List.idxOf_cons_ne _ differs.symm
      refine List.pairwise_cons.2 ⟨fun a member => ?_, ?_⟩
      · rw [other a member, List.idxOf_cons_self]
        exact Nat.succ_pos _
      · refine (ih.filter _).imp_of_mem fun {a b} inA inB before => ?_
        rw [other a inA, other b inB]
        exact Nat.succ_lt_succ before

namespace Field

def Ranked (field : Field) : Prop := field.rank?.isSome = true

def rankOf (field : Field) : Nat := field.rank?.getD 0

def Preferred (priority : List String) (field : Field) : Prop := field.path.attr ∈ priority

def preference (priority : List String) (field : Field) : Nat := priority.idxOf field.path.attr

end Field

namespace EntityType
open EntitySearch.Field (Ranked rankOf Preferred preference)
variable {type : EntityType} {priority : List String}

def place (type : EntityType) (field : Field) : Nat := (type.fields.map Field.name).idxOf field.name

theorem pairwise_place (type : EntityType) :
    type.fields.Pairwise fun f g => type.place f < type.place g := by
  refine List.pairwise_iff_getElem.2 fun i j hi hj before => ?_
  have registered : ∀ k (hk : k < type.fields.length), type.place type.fields[k] = k := by
    intro k hk
    have found := type.names_nodup.idxOf_getElem k (by simpa using hk)
    rwa [List.getElem_map] at found
  rwa [registered i hi, registered j hj]

/-- Does a field come before another by a key, and by the order of registration where the key does
not part them? -/
def Precedes (type : EntityType) (key : Field → Nat) (f g : Field) : Prop :=
  key f < key g ∨ key f = key g ∧ type.place f < type.place g

structure Lists (type : EntityType) (chosen : Field → Prop) (key : Field → Nat)
    (fields : List Field) : Prop where
  mem_iff : ∀ field, field ∈ fields ↔ field ∈ type.fields ∧ chosen field
  ordered : fields.Pairwise (type.Precedes key)

namespace Lists
variable {chosen : Field → Prop} {key : Field → Nat} {fields others : List Field}

theorem names_nodup (lists : type.Lists chosen key fields) : (fields.map Field.name).Nodup := by
  refine List.pairwise_map.2 (lists.ordered.imp_of_mem fun {f g} inF inG before same => ?_)
  have isF := ((lists.mem_iff f).1 inF).1
  have isG := ((lists.mem_iff g).1 inG).1
  obtain rfl := List.inj_on_of_nodup_map type.names_nodup isF isG same
  rcases before with less | ⟨-, less⟩ <;> exact absurd less (Nat.lt_irrefl _)

theorem ne_nil_iff (lists : type.Lists chosen key fields) :
    fields ≠ [] ↔ ∃ field ∈ type.fields, chosen field := by
  constructor
  · intro filled
    obtain ⟨field, member⟩ := List.exists_mem_of_ne_nil fields filled
    exact ⟨field, (lists.mem_iff field).1 member⟩
  · rintro ⟨field, chosen⟩
    exact List.ne_nil_of_mem ((lists.mem_iff field).2 chosen)

theorem unique (lists : type.Lists chosen key fields) (also : type.Lists chosen key others) :
    fields = others := by
  have perm : fields.Perm others := by
    refine (List.perm_ext_iff_of_nodup lists.names_nodup.of_map also.names_nodup.of_map).2 ?_
    exact fun field => (lists.mem_iff field).trans (also.mem_iff field).symm
  refine perm.eq_of_pairwise (fun f g _ _ before after => ?_) lists.ordered also.ordered
  rcases before with less | ⟨same, less⟩ <;> rcases after with less' | ⟨same', less'⟩ <;> omega

end Lists

/-! ## Candidates -/

/-- The fields that free text is bound to, before the limit. -/
inductive Candidates (type : EntityType) (priority : List String) : List Field → Prop
  | ranked {fields : List Field} (some : ∃ field ∈ type.fields, Ranked field)
      (lists : type.Lists Ranked rankOf fields) : Candidates type priority fields
  | preferred {fields : List Field} (none : ¬ ∃ field ∈ type.fields, Ranked field)
      (some : ∃ field ∈ type.fields, Preferred priority field)
      (lists : type.Lists (Preferred priority) (preference priority) fields) :
      Candidates type priority fields
  | all (none : ¬ ∃ field ∈ type.fields, Ranked field)
      (noneEither : ¬ ∃ field ∈ type.fields, Preferred priority field) :
      Candidates type priority type.fields

namespace Candidates
variable {fields others : List Field}

theorem unique (candidates : type.Candidates priority fields)
    (also : type.Candidates priority others) : fields = others := by
  cases candidates with
  | ranked some lists =>
      cases also with
      | ranked _ also => exact lists.unique also
      | preferred none _ _ => exact absurd some none
      | all none _ => exact absurd some none
  | preferred none some lists =>
      cases also with
      | ranked some _ => exact absurd some none
      | preferred _ _ also => exact lists.unique also
      | all _ none => exact absurd some none
  | all none noneEither =>
      cases also with
      | ranked some _ => exact absurd some none
      | preferred _ some _ => exact absurd some noneEither
      | all _ _ => rfl

theorem ne_nil (candidates : type.Candidates priority fields) : fields ≠ [] := by
  cases candidates with
  | ranked some lists => exact lists.ne_nil_iff.2 some
  | preferred _ some lists => exact lists.ne_nil_iff.2 some
  | all _ _ => exact type.fields_ne_nil

theorem names_nodup (candidates : type.Candidates priority fields) :
    (fields.map Field.name).Nodup := by
  cases candidates with
  | ranked _ lists => exact lists.names_nodup
  | preferred _ _ lists => exact lists.names_nodup
  | all _ _ => exact type.names_nodup

theorem mem_fields (candidates : type.Candidates priority fields) {field : Field}
    (member : field ∈ fields) : field ∈ type.fields := by
  cases candidates with
  | ranked _ lists => exact ((lists.mem_iff field).1 member).1
  | preferred _ _ lists => exact ((lists.mem_iff field).1 member).1
  | all _ _ => exact member

end Candidates

theorem lists_rankedFields (type : EntityType) : type.Lists Ranked rankOf type.rankedFields where
  mem_iff _ := List.mem_mergeSort.trans List.mem_filter
  ordered := pairwise_mergeSort_key rankOf (type.pairwise_place.filter _)

theorem lists_priorityFields (type : EntityType) (priority : List String) :
    type.Lists (Preferred priority) (preference priority) (type.priorityFields priority) where
  mem_iff field := by simp [priorityFields, Preferred, and_comm]
  ordered := by
    have ends : ∀ attr, ∀ field ∈ type.fields.filter fun field => field.path.attr = attr,
        preference priority field = priority.idxOf attr := by
      intro attr field member
      have isAttr : field.path.attr = attr := by simpa using (List.mem_filter.1 member).2
      rw [preference, isAttr]
    refine List.pairwise_flatMap.2 ⟨fun attr _ => ?_, ?_⟩
    · refine (type.pairwise_place.filter _).imp_of_mem fun {f g} inF inG before => .inr ⟨?_, before⟩
      rw [ends attr f inF, ends attr g inG]
    · refine (pairwise_distinct_idxOf priority).imp fun {a b} before f inF g inG => .inl ?_
      rwa [ends a f inF, ends b g inG]

theorem exists_candidates (type : EntityType) (priority : List String) :
    ∃ candidates, type.Candidates priority candidates ∧
      ∀ limit, type.freeTextFields priority limit = candidates.take (max limit 1) := by
  have ranked := type.lists_rankedFields
  have preferred := type.lists_priorityFields priority
  by_cases someRanked : type.rankedFields ≠ []
  · refine ⟨_, .ranked (ranked.ne_nil_iff.1 someRanked) ranked, fun limit => ?_⟩
    simp only [freeTextFields, if_pos someRanked]
  · have noneRanked := mt ranked.ne_nil_iff.2 someRanked
    by_cases somePreferred : type.priorityFields priority ≠ []
    · refine ⟨_, .preferred noneRanked (preferred.ne_nil_iff.1 somePreferred) preferred, ?_⟩
      intro limit
      simp only [freeTextFields, if_neg someRanked, if_pos somePreferred]
    · refine ⟨_, .all noneRanked (mt preferred.ne_nil_iff.2 somePreferred), fun limit => ?_⟩
      simp only [freeTextFields, if_neg someRanked, if_neg somePreferred]

/-- Free text is bound to at least one field and to no field twice, to no more fields than the limit
or one, and it is the first of the candidates that it is bound to; there is exactly one list of
candidates. -/
theorem freeTextFields_first_candidates (type : EntityType) (priority : List String) (limit : Nat) :
    type.freeTextFields priority limit ≠ [] ∧
      ((type.freeTextFields priority limit).map Field.name).Nodup ∧
      (type.freeTextFields priority limit).length ≤ max limit 1 ∧
      (∀ field ∈ type.freeTextFields priority limit, field ∈ type.fields) ∧
      ∃ candidates, (∀ others, type.Candidates priority others ↔ others = candidates) ∧
        type.freeTextFields priority limit = candidates.take (max limit 1) := by
  obtain ⟨candidates, isList, first⟩ := type.exists_candidates priority
  rw [first limit]
  refine ⟨?_, ?_, List.length_take_le _ _, ?_, candidates, fun others => ⟨?_, ?_⟩, rfl⟩
  · simp [isList.ne_nil]
  · exact isList.names_nodup.sublist ((List.take_sublist _ _).map _)
  · exact fun field member => isList.mem_fields (List.mem_of_mem_take member)
  · exact fun also => also.unique isList
  · rintro rfl
    exact isList

end EntityType
end EntitySearch
