import EntitySearch.Proofs.Data.Fallible
import EntitySearch.Proofs.Query.Composing
import Mathlib.Data.List.Sort

/-!
# What a predicate depends on

A place of a predicate is told by the numbers of the parts that lead there from outside, so a place
is in front of another one, as numbers are compared from the left, just if it is further to the left
in the written form.  The fields of a predicate are the names that stand somewhere, by their first
places; there is one such list only.  A predicate reads a document in these fields and in no others.

The predicate of a scope names fields that are selected for the scope, in the order of selection: a
clause names its field, and joining clauses puts their names one after the other.

Main statements: `firstUses_fields`, `accepts_congr`, `fields_sublist_select`,
`reads_named_fields_only`.
-/
set_option autoImplicit false
namespace EntitySearch
namespace Predicate

/-- The field name that stands at a place.  The one part of a negation has the number 0. -/
def nameAt? : Predicate → List Nat → Option String
  | contains field _, [] => some field
  | arrayContains field _, [] => some field
  | not inner, 0 :: place => nameAt? inner place
  | and clauses, i :: place => clauses[i]?.bind fun clause => nameAt? clause place
  | or clauses, i :: place => clauses[i]?.bind fun clause => nameAt? clause place
  | _, _ => none

/-- A name stands at a place in front of all places of another one. -/
def UsedBefore (nameAt : List Nat → Option String) (a b : String) : Prop :=
  ∃ place, nameAt place = some a ∧ ∀ other, nameAt other = some b → place < other

structure FirstUses (nameAt : List Nat → Option String) (names : List String) : Prop where
  mem_iff : ∀ name, name ∈ names ↔ ∃ place, nameAt place = some name
  ordered : names.Pairwise (UsedBefore nameAt)

section FirstUses
variable {nameAt : List Nat → Option String} {names others : List String} {a b : String}

theorem UsedBefore.asymm (before : UsedBefore nameAt a b) : ¬ UsedBefore nameAt b a := by
  obtain ⟨place, stands, inFront⟩ := before
  rintro ⟨other, alsoStands, alsoInFront⟩
  exact List.lt_asymm (inFront other alsoStands) (alsoInFront place stands)

theorem FirstUses.nodup (uses : FirstUses nameAt names) : names.Nodup := by
  refine uses.ordered.imp fun {a b} before => ?_
  rintro rfl
  exact before.asymm before

theorem FirstUses.unique (uses : FirstUses nameAt names) (also : FirstUses nameAt others) :
    names = others := by
  have irreflexive : Std.Irrefl (UsedBefore nameAt) := ⟨fun a before => before.asymm before⟩
  have antisymmetric : Std.Antisymm (UsedBefore nameAt) :=
    ⟨fun a b before after => absurd after before.asymm⟩
  exact uses.ordered.eq_of_mem_iff also.ordered fun name =>
    (uses.mem_iff name).trans (also.mem_iff name).symm

/-- The field name that stands at a place of some clauses, which begins with the number of the clause. -/
def nameAmong? (clauses : List Predicate) : List Nat → Option String
  | [] => none
  | i :: place => clauses[i]?.bind fun clause => clause.nameAt? place

variable {clause : Predicate} {clauses : List Predicate} {place : List Nat}

theorem nameAmong?_cons_eq_some_iff {name : String} :
    nameAmong? (clause :: clauses) place = some name ↔
      (∃ inside, place = 0 :: inside ∧ clause.nameAt? inside = some name) ∨
        ∃ i inside, place = (i + 1) :: inside ∧ nameAmong? clauses (i :: inside) = some name := by
  cases place with
  | nil => simp [nameAmong?]
  | cons i inside => cases i <;> simp [nameAmong?]

theorem exists_nameAmong?_cons {name : String} :
    (∃ place, nameAmong? (clause :: clauses) place = some name) ↔
      (∃ inside, clause.nameAt? inside = some name) ∨
        ∃ place, nameAmong? clauses place = some name := by
  simp only [nameAmong?_cons_eq_some_iff]
  constructor
  · rintro ⟨-, ⟨inside, -, stands⟩ | ⟨i, inside, -, stands⟩⟩
    · exact .inl ⟨inside, stands⟩
    · exact .inr ⟨i :: inside, stands⟩
  · rintro (⟨inside, stands⟩ | ⟨place, stands⟩)
    · exact ⟨0 :: inside, .inl ⟨inside, rfl, stands⟩⟩
    · cases place with
      | nil => cases stands
      | cons i inside => exact ⟨(i + 1) :: inside, .inr ⟨i, inside, rfl, stands⟩⟩

theorem UsedBefore.head (before : UsedBefore clause.nameAt? a b) :
    UsedBefore (nameAmong? (clause :: clauses)) a b := by
  obtain ⟨place, stands, inFront⟩ := before
  refine ⟨0 :: place, stands, fun other found => ?_⟩
  rcases nameAmong?_cons_eq_some_iff.1 found with ⟨inside, rfl, here⟩ | ⟨i, inside, rfl, -⟩
  · exact List.cons_lt_cons_iff.2 (.inr ⟨rfl, inFront inside here⟩)
  · exact List.cons_lt_cons_iff.2 (.inl i.succ_pos)

theorem usedBefore_of_new (stands : clause.nameAt? place = some a)
    (new : ∀ inside, clause.nameAt? inside ≠ some b) :
    UsedBefore (nameAmong? (clause :: clauses)) a b := by
  refine ⟨0 :: place, stands, fun other found => ?_⟩
  rcases nameAmong?_cons_eq_some_iff.1 found with ⟨inside, -, here⟩ | ⟨i, inside, rfl, -⟩
  · exact absurd here (new inside)
  · exact List.cons_lt_cons_iff.2 (.inl i.succ_pos)

theorem UsedBefore.tail (before : UsedBefore (nameAmong? clauses) a b)
    (new : ∀ inside, clause.nameAt? inside ≠ some b) :
    UsedBefore (nameAmong? (clause :: clauses)) a b := by
  obtain ⟨place, stands, inFront⟩ := before
  cases place with
  | nil => cases stands
  | cons i inside =>
      refine ⟨(i + 1) :: inside, stands, fun other found => ?_⟩
      rcases nameAmong?_cons_eq_some_iff.1 found with ⟨within, -, here⟩ | ⟨j, within, rfl, later⟩
      · exact absurd here (new within)
      · have below := List.cons_lt_cons_iff.1 (inFront (j :: within) later)
        exact List.cons_lt_cons_iff.2
          (below.imp Nat.succ_lt_succ fun both => ⟨congrArg Nat.succ both.1, both.2⟩)

theorem firstUses_cons (here : FirstUses clause.nameAt? names)
    (later : FirstUses (nameAmong? clauses) others) :
    FirstUses (nameAmong? (clause :: clauses))
      (names ++ others.filter fun name => name ∉ names) := by
  have new : ∀ name ∈ others.filter fun name => name ∉ names,
      ∀ inside, clause.nameAt? inside ≠ some name := by
    intro name member inside stands
    have outside : name ∉ names := of_decide_eq_true (List.mem_filter.1 member).2
    exact outside ((here.mem_iff name).2 ⟨inside, stands⟩)
  refine ⟨fun name => ?_, List.pairwise_append.2 ⟨?_, ?_, ?_⟩⟩
  · rw [exists_nameAmong?_cons, ← here.mem_iff, ← later.mem_iff, List.mem_append, List.mem_filter,
      decide_eq_true_eq]
    tauto
  · exact here.ordered.imp UsedBefore.head
  · refine (later.ordered.filter _).imp_of_mem fun {a b} _ isB before => ?_
    exact before.tail (new b isB)
  · intro a isA b isB
    obtain ⟨place, stands⟩ := (here.mem_iff a).1 isA
    exact usedBefore_of_new stands (new b isB)

end FirstUses

theorem firstUses_single {field : String} {nameAt : List Nat → Option String}
    (alone : ∀ place name, nameAt place = some name ↔ place = [] ∧ field = name) :
    FirstUses nameAt [field] := by
  refine ⟨fun name => ?_, List.pairwise_singleton ..⟩
  simp [alone, eq_comm]

theorem nameAt?_contains {field term name : String} {place : List Nat} :
    (contains field term).nameAt? place = some name ↔ place = [] ∧ field = name := by
  cases place <;> simp [nameAt?]

theorem nameAt?_arrayContains {field term name : String} {place : List Nat} :
    (arrayContains field term).nameAt? place = some name ↔ place = [] ∧ field = name := by
  cases place <;> simp [nameAt?]

theorem nameAt?_not (inner : Predicate) : (not inner).nameAt? = nameAmong? [inner] := by
  funext place
  rcases place with - | ⟨- | i, inside⟩ <;> simp [nameAt?, nameAmong?]

theorem nameAt?_and (clauses : List Predicate) : (and clauses).nameAt? = nameAmong? clauses := by
  funext place
  cases place <;> simp [nameAt?, nameAmong?]

theorem nameAt?_or (clauses : List Predicate) : (or clauses).nameAt? = nameAmong? clauses := by
  funext place
  cases place <;> simp [nameAt?, nameAmong?]

theorem firstUses_nil : FirstUses (nameAmong? []) [] := by
  refine ⟨fun name => ?_, List.Pairwise.nil⟩
  constructor
  · intro member
    cases member
  · rintro ⟨- | ⟨i, inside⟩, stands⟩ <;> cases stands

mutual

/-- The fields of a predicate are its names by their first places. -/
theorem firstUses_fields : ∀ p : Predicate, FirstUses p.nameAt? p.fields
  | contains field term => firstUses_single fun _ _ => nameAt?_contains
  | arrayContains field term => firstUses_single fun _ _ => nameAt?_arrayContains
  | not inner => by
      have alone := firstUses_cons (firstUses_fields inner) firstUses_nil
      rwa [List.filter_nil, List.append_nil, ← nameAt?_not] at alone
  | and clauses => nameAt?_and clauses ▸ firstUses_among clauses
  | or clauses => nameAt?_or clauses ▸ firstUses_among clauses

theorem firstUses_among :
    ∀ clauses : List Predicate, FirstUses (nameAmong? clauses) (distinct (mentionsOf clauses))
  | [] => firstUses_nil
  | clause :: rest => by
      have joined := firstUses_cons (firstUses_fields clause) (firstUses_among rest)
      rw [mentionsOf, distinct_append]
      simpa only [fields, mem_distinct] using joined

end

/-! ## Two documents -/

section Congruence
variable {texts others : Texts}

mutual

theorem accepts_congr : ∀ p : Predicate, (∀ name ∈ p.mentions, texts name = others name) →
    p.accepts texts = p.accepts others
  | contains field term, agree => by
      rw [accepts, accepts, agree field (List.mem_singleton_self field)]
  | arrayContains field term, agree => by
      rw [accepts, accepts, agree field (List.mem_singleton_self field)]
  | not inner, agree => by rw [accepts, accepts, accepts_congr inner agree]
  | and clauses, agree => acceptsAll_congr clauses agree
  | or clauses, agree => acceptsAny_congr clauses agree

theorem acceptsAll_congr : ∀ clauses : List Predicate,
    (∀ name ∈ mentionsOf clauses, texts name = others name) →
      acceptsAll texts clauses = acceptsAll others clauses
  | [], _ => rfl
  | clause :: rest, agree => by
      have here := accepts_congr clause fun name member =>
        agree name (List.mem_append_left _ member)
      have later := acceptsAll_congr rest fun name member =>
        agree name (List.mem_append_right _ member)
      rw [acceptsAll, acceptsAll, here, later]

theorem acceptsAny_congr : ∀ clauses : List Predicate,
    (∀ name ∈ mentionsOf clauses, texts name = others name) →
      acceptsAny texts clauses = acceptsAny others clauses
  | [], _ => rfl
  | clause :: rest, agree => by
      have here := accepts_congr clause fun name member =>
        agree name (List.mem_append_left _ member)
      have later := acceptsAny_congr rest fun name member =>
        agree name (List.mem_append_right _ member)
      rw [acceptsAny, acceptsAny, here, later]

end

end Congruence

theorem mentionsOf_eq (clauses : List Predicate) :
    mentionsOf clauses = clauses.flatMap mentions := by
  induction clauses with
  | nil => rfl
  | cons clause rest ih => rw [mentionsOf, ih, List.flatMap_cons]

theorem mentions_join (all : Bool) (left right : Predicate) :
    (join all left right).mentions = left.mentions ++ right.mentions := by
  cases all <;> cases left <;> simp [join, both, either, mentions, mentionsOf_eq]

theorem mentions_foldl_join (all : Bool) (first : Predicate) (rest : List Predicate) :
    (rest.foldl (join all) first).mentions = first.mentions ++ rest.flatMap mentions := by
  induction rest generalizing first with
  | nil => simp
  | cons next rest ih =>
      rw [List.foldl_cons, ih, mentions_join, List.flatMap_cons, List.append_assoc]

theorem mentions_combine {all : Bool} {clauses : List Predicate} {p : Predicate}
    (combined : combine all clauses = some p) : p.mentions = clauses.flatMap mentions := by
  cases clauses with
  | nil => cases combined
  | cons first rest =>
      obtain rfl := Option.some.inj combined
      rw [mentions_foldl_join, List.flatMap_cons]

end Predicate

theorem distinct_sublist_singleton {names : List String} {a : String}
    (only : ∀ name ∈ names, name = a) : (distinct names).Sublist [a] := by
  have copies : distinct names = List.replicate (distinct names).length a :=
    List.eq_replicate_of_mem fun name member => only name (mem_distinct.1 member)
  have nodup := nodup_distinct names
  rw [copies] at nodup ⊢
  exact (List.replicate_sublist_replicate a).2 (List.nodup_replicate.1 nodup)

open Predicate (mentions)

namespace Field
variable {field : Field} {element all : Bool} {sofar : Option Predicate} {p : Predicate}

theorem mentions_condition? {term : Term} (condition : field.condition? element term = some p) :
    p.mentions = [field.name] := by
  unfold condition? at condition
  dsimp only at condition
  split at condition
  · cases condition
  · obtain rfl := Option.some.inj condition
    cases term.isNegated <;> cases element <;> rfl

/-- Whatever the terms, the clause of a field names that field only. -/
theorem names_clauseFrom {terms : List Term}
    (begun : ∀ left ∈ sofar, ∀ name ∈ left.mentions, name = field.name)
    (clause : field.clauseFrom element all sofar terms = some p) :
    ∀ name ∈ p.mentions, name = field.name := by
  induction terms generalizing all sofar with
  | nil => exact begun p clause
  | cons term rest ih =>
      unfold clauseFrom at clause
      split at clause
      · exact ih begun clause
      · split at clause
        · exact ih begun clause
        · next condition isCondition =>
          refine ih ?_ clause
          rintro _ ⟨⟩
          simp [mentions_condition? isCondition]
        · next condition left isCondition =>
          refine ih ?_ clause
          rintro _ ⟨⟩ name member
          rw [Predicate.mentions_join, mentions_condition? isCondition] at member
          rcases List.mem_append.1 member with earlier | last
          · exact begun left rfl name earlier
          · exact List.mem_singleton.1 last

end Field

namespace Binding
variable {binding : Binding} {catalog : Catalog} {type : EntityType} {scope : Scope}

theorem names_clause? {field : Field} {value : String} {p : Predicate}
    (success : binding.clause? catalog type field value = .ok (some p)) :
    ∀ name ∈ p.mentions, name = field.name := by
  unfold clause? at success
  dsimp only at success
  split at success
  · cases success
  · obtain ⟨kind, -, clause⟩ := map_eq_ok success
    exact Field.names_clauseFrom (by simp) clause

theorem distinct_names_sublist {bound : List (Field × String)} {clauses : List (Option Predicate)}
    (made : (bound.mapM fun (field, value) => binding.clause? catalog type field value) =
      .ok clauses) :
    (distinct ((clauses.filterMap id).flatMap mentions)).Sublist
      (bound.map fun b => b.1.name) := by
  induction bound generalizing clauses with
  | nil =>
      cases made
      exact List.Sublist.slnil
  | cons first rest ih =>
      rw [List.mapM_cons] at made
      obtain ⟨clause?, here, made⟩ := bind_eq_ok made
      obtain ⟨others, later, made⟩ := bind_eq_ok made
      cases made
      have below := ih later
      cases clause? with
      | none => exact below.cons _
      | some clause =>
          change (distinct ((clause :: others.filterMap id).flatMap mentions)).Sublist
            (first.1.name :: rest.map _)
          rw [List.flatMap_cons, distinct_append]
          exact (distinct_sublist_singleton (names_clause? here)).append
            (List.filter_sublist.trans below)

/-- The predicate of a scope names fields that are selected for it, in the order of selection. -/
theorem fields_sublist_select {mode : QueryMode} {p : Predicate}
    (filtered : binding.filter catalog type scope mode = .ok (.matching p)) :
    p.fields.Sublist ((binding.select type scope mode).map fun bound => bound.1.name) := by
  obtain ⟨clauses, made, filtered⟩ := bind_eq_ok filtered
  split at filtered
  · next found combined =>
    cases filtered
    rw [Predicate.fields, Predicate.mentions_combine combined]
    exact distinct_names_sublist made
  · cases filtered

theorem length_select_freeText_le (binding : Binding) (type : EntityType) (scope : Scope) :
    (binding.select type scope .freeText).length ≤ max binding.limit 1 := by
  unfold select
  dsimp only
  split
  · exact Nat.zero_le _
  · split
    · exact Nat.zero_le _
    · rw [List.length_map]
      exact List.length_take_le ..

end Binding

/-- The fields of a predicate are the names that stand somewhere in it, each once, by their first
places.  Documents that agree on these fields are both accepted or both not.  If the predicate is
that of a scope, the fields are selected for the scope; of a free-text query there are no more than
the limit, or one. -/
theorem Predicate.reads_named_fields_only (p : Predicate) :
    p.fields.Nodup ∧ (∀ names, FirstUses p.nameAt? names ↔ names = p.fields) ∧
      (∀ texts others : Texts, (∀ name ∈ p.fields, texts name = others name) →
        p.accepts texts = p.accepts others) ∧
      ∀ (binding : Binding) (catalog : Catalog) (type : EntityType) (scope : Scope)
        (mode : QueryMode), binding.filter catalog type scope mode = .ok (.matching p) →
          p.fields.Sublist ((binding.select type scope mode).map fun bound => bound.1.name) ∧
            (mode = .freeText → p.fields.length ≤ max binding.limit 1) := by
  have uses := firstUses_fields p
  refine ⟨uses.nodup, fun names => ⟨fun also => also.unique uses, ?_⟩, ?_, ?_⟩
  · rintro rfl
    exact uses
  · intro texts others agree
    exact accepts_congr p fun name member => agree name (mem_distinct.2 member)
  · intro binding catalog type scope mode filtered
    have selected := Binding.fields_sublist_select filtered
    refine ⟨selected, ?_⟩
    rintro rfl
    refine selected.length_le.trans ?_
    rw [List.length_map]
    exact Binding.length_select_freeText_le ..

namespace Library

def logicAnywhere : Scope where
  matchAll := false
  fields := SortedMap.ofList [(anyField, "logic -draft")]

def twoFields : Binding := Config.binding { freeTextFieldLimit := 2 } true

/-- Free text that is bound to two fields is not looked for in the third. -/
theorem logicAnywhere_reads_titles :
    ∃ p, twoFields.filter registry.catalog registry.entityTypes[0] logicAnywhere .freeText =
        .ok (.matching p) ∧
      p.fields = ["title", "authors.works.title"] ∧ p.fields.length ≤ 2 ∧
      ∀ texts : Predicate.Texts, ∀ codes,
        p.accepts (fun name => if name = "place.whole.code" then codes else texts name) =
          p.accepts texts := by
  let filter := twoFields.filter registry.catalog registry.entityTypes[0] logicAnywhere .freeText
  have composed : (filter.map fun
      | .matching p => p.fields
      | .nothing => []) = .ok ["title", "authors.works.title"] := by decide +kernel
  obtain ⟨wanted, filtered, named⟩ := map_eq_ok composed
  cases wanted with
  | nothing => cases named
  | matching p =>
      change p.fields = _ at named
      obtain ⟨-, -, agree, selected⟩ := p.reads_named_fields_only
      obtain ⟨-, few⟩ := selected _ _ _ _ _ filtered
      refine ⟨p, filtered, named, few rfl, fun texts codes => agree _ _ fun name member => ?_⟩
      rw [named] at member
      refine if_neg ?_
      rintro rfl
      exact absurd member (by decide)

end Library
end EntitySearch
