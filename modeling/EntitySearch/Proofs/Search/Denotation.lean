import EntitySearch.Proofs.Search.Lockstep
import EntitySearch.Proofs.Search.WellFormed

/-!
# What a scope tree denotes

Read as an expression over lists, a scope denotes its answer and an operator what its combinator
makes of the denotations of its operands: the members of the first list that are in all the others,
or the first occurrences in all lists one after the other.  Resolving computes this list.

Main statements: `Denotes.unique`, `denotes_of_resolve`.
-/
set_option autoImplicit false
namespace EntitySearch

def Combinator.merge : Combinator → List (List Nat) → List Nat
  | _, [] => []
  | .and, first :: rest => first.filter fun id => rest.all fun list => list.contains id
  | .or, lists => distinct lists.flatten

namespace QueryTree

/-- A name in a scope tree denotes a list, given the answers of the scopes. -/
inductive Denotes (tree : QueryTree) (leaf : Scope → List Nat) : String → List Nat → Prop where
  | scope {name : String} {scope : Scope} (found : tree.scopes.get? name = some scope) :
      Denotes tree leaf name (leaf scope)
  | operator {name : String} {operator : Operator} (lists : String → List Nat)
      (stands : tree.operator? name = some operator)
      (operands : ∀ operand ∈ operator.operands, Denotes tree leaf operand (lists operand)) :
      Denotes tree leaf name (operator.combinator.merge (operator.operands.map lists))

variable {tree : QueryTree} {leaf : Scope → List Nat} {name : String}

theorem Denotes.unique {list other : List Nat} (denotes : tree.Denotes leaf name list)
    (also : tree.Denotes leaf name other) : other = list := by
  induction denotes generalizing other with
  | scope found =>
      cases also with
      | scope found' =>
          rw [found] at found'
          cases found'
          rfl
      | operator _ stands _ =>
          rw [operator?_of_scope found] at stands
          cases stands
  | operator lists stands _ ih =>
      cases also with
      | scope found' =>
          rw [operator?_of_scope found'] at stands
          cases stands
      | operator lists' stands' operands' =>
          rw [stands] at stands'
          cases stands'
          congr 1
          exact List.map_congr_left fun operand member => ih operand member (operands' operand member)

theorem merge_combine (combinator : Combinator) (a b : Hits) (rest : List (List Nat)) :
    combinator.merge ((combinator.combine a b).ids :: rest) =
      combinator.merge (a.ids :: b.ids :: rest) := by
  cases combinator with
  | and =>
      change (a.ids.filter b.contains).filter _ = a.ids.filter _
      rw [List.filter_filter]
      exact List.filter_congr fun id _ => by simp [Hits.contains, Bool.and_comm]
  | or =>
      change distinct (distinct (a.ids ++ b.ids) ++ rest.flatten) =
        distinct (a.ids ++ (b.ids ++ rest.flatten))
      rw [distinct_distinct_append, List.append_assoc]

theorem merge_singleton (combinator : Combinator) (hits : Hits) :
    combinator.merge [hits.ids] = hits.ids := by
  cases combinator with
  | and => exact List.filter_eq_self.2 fun _ _ => rfl
  | or =>
      change distinct ([hits.ids].flatten) = hits.ids
      rw [List.flatten_singleton, distinct_eq_self hits.nodup]

section Operands
variable {combinator : Combinator} {one : String → Unit → Except SearchError Hits × Unit}

def idsOf (result : Except SearchError Hits × Unit) : List Nat :=
  match result.1 with
  | .ok hits => hits.ids
  | .error _ => []

theorem combineFrom_eq_ok {operands : List String} {sofar hits : Hits}
    (success : (combineFrom combinator one sofar operands ()).1 = .ok hits) :
    (∀ operand ∈ operands, ∃ part, (one operand ()).1 = .ok part) ∧
      hits.ids = combinator.merge (sofar.ids :: operands.map fun operand => idsOf (one operand ())) := by
  induction operands generalizing sofar with
  | nil =>
      cases success
      exact ⟨fun _ none => (List.not_mem_nil none).elim, (merge_singleton ..).symm⟩
  | cons operand rest ih =>
      unfold combineFrom at success
      cases first : one operand () with
      | mk result after =>
          rw [first] at success
          cases result with
          | error e => cases success
          | ok part =>
              obtain ⟨later, same⟩ := ih success
              refine ⟨List.forall_mem_cons.2 ⟨⟨part, by rw [first]⟩, later⟩, ?_⟩
              rw [same, merge_combine, List.map_cons, first]
              rfl

theorem combineAll_eq_ok {operands : List String} {hits : Hits}
    (success : (combineAll combinator one operands ()).1 = .ok hits) :
    (∀ operand ∈ operands, ∃ part, (one operand ()).1 = .ok part) ∧
      hits.ids = combinator.merge (operands.map fun operand => idsOf (one operand ())) := by
  cases operands with
  | nil =>
      cases success
      exact ⟨fun _ none => (List.not_mem_nil none).elim, by cases combinator <;> rfl⟩
  | cons operand rest =>
      unfold combineAll at success
      cases first : one operand () with
      | mk result after =>
          simp only [first] at success
          cases result with
          | error e => cases success
          | ok part =>
              obtain ⟨later, same⟩ := combineFrom_eq_ok success
              refine ⟨List.forall_mem_cons.2 ⟨⟨part, by rw [first]⟩, later⟩, ?_⟩
              rw [same, List.map_cons, first]
              rfl

end Operands

def answering (leaf : Scope → Hits) : Answering Unit := fun scope s => (.ok (leaf scope), s)

theorem denotes_of_resolveBelow {leaf : Scope → Hits} {limit : Nat} : ∀ {left : Nat}
    {above : List String} {name : String} {hits : Hits},
    (tree.resolveBelow (answering leaf) limit left above name ()).1 = .ok hits →
      tree.Denotes (fun scope => (leaf scope).ids) name hits.ids
  | left, above, name, hits, success => by
    unfold resolveBelow at success
    cases scopeFound : tree.scopes.get? name with
    | some scope =>
        simp only [scopeFound] at success
        split at success
        · cases success
        · cases success
          exact .scope scopeFound
    | none =>
        simp only [scopeFound] at success
        cases operatorFound : tree.operators.get? name with
        | none =>
            rw [operatorFound] at success
            cases success
        | some operator =>
            simp only [operatorFound] at success
            split at success
            · cases success
            · cases left with
              | zero => cases success
              | succ left =>
                  obtain ⟨parts, merged⟩ := combineAll_eq_ok success
                  rw [merged]
                  -- Each operand denotes what it was resolved to, whichever way it was combined.
                  refine .operator _ (by rw [operator?_of_no_scope scopeFound, operatorFound]) ?_
                  intro operand member
                  obtain ⟨part, resolved⟩ := parts operand member
                  have denotes := denotes_of_resolveBelow resolved
                  rwa [idsOf, resolved]

/-- What is resolved over an index that answers each scope with the same hits is what the tree
denotes. -/
theorem denotes_of_resolve {σ : Type} {answer : Answering σ} {kept : σ → Prop}
    {leaf : Scope → Hits}
    (answers : ∀ scope s, kept s → ∃ after, answer scope s = (.ok (leaf scope), after) ∧ kept after)
    {limit : Nat} {s : σ} (begin : kept s) {hits : Hits}
    (resolved : (tree.resolve answer limit name s).1 = .ok hits) :
    tree.Denotes (fun scope => (leaf scope).ids) name hits.ids := by
  have inStep : InStep Eq (fun s (_ : Unit) => kept s) (tree.resolve answer limit name s)
      (tree.resolve (answering leaf) limit name ()) := by
    refine resolve_inStep rfl ?_ ?_ tree limit name begin
    · rintro combinator a _ a' _ rfl rfl
      rfl
    · rintro scope s ⟨⟩ begin
      obtain ⟨after, answered, goesOn⟩ := answers scope s begin
      rw [answered]
      exact ⟨.success rfl, goesOn⟩
  exact denotes_of_resolveBelow (inStep.result.eq ▸ resolved)

end QueryTree
end EntitySearch
