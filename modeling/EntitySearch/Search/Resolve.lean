import EntitySearch.Query.Tree
import EntitySearch.Search.Hits

/-!
# Resolving scope trees

A name in a scope tree is a scope, whose hits are asked for, or an operator, whose operands are
resolved from left to right and combined.  A scope hides an operator of the same name.  An unknown
name, a scope without fields, an operator met again below itself and too deep a nesting are errors.

The hits of a scope come from an answering function with a state, so the same resolution serves
every index.
-/
set_option autoImplicit false
namespace EntitySearch

def Combinator.combine : Combinator → Hits → Hits → Hits
  | .and, a, b => a.inter b
  | .or, a, b => a.union b

namespace QueryTree

variable {σ : Type}

/-- A function that answers scopes, with a state. -/
abbrev Answering (σ : Type) := Scope → σ → Except SearchError Hits × σ

/-- Combines the hits of further operands with those so far, up to the first failure. -/
def combineFrom (combinator : Combinator) (one : String → σ → Except SearchError Hits × σ)
    (sofar : Hits) : List String → σ → Except SearchError Hits × σ
  | [], s => (.ok sofar, s)
  | operand :: rest, s =>
    match one operand s with
    | (.error e, s) => (.error e, s)
    | (.ok hits, s) => combineFrom combinator one (combinator.combine sofar hits) rest s

def combineAll (combinator : Combinator) (one : String → σ → Except SearchError Hits × σ) :
    List String → σ → Except SearchError Hits × σ
  | [], s => (.ok Hits.none, s)
  | operand :: rest, s =>
    match one operand s with
    | (.error e, s) => (.error e, s)
    | (.ok hits, s) => combineFrom combinator one hits rest s

/-- The hits of a name below the operators `above`, outermost first, when `left` more operators may
nest. -/
def resolveBelow (tree : QueryTree) (answer : Answering σ) (limit : Nat) :
    Nat → List String → String → σ → Except SearchError Hits × σ
  | left, above, name, s =>
    match tree.scopes.get? name with
    | some scope =>
      if scope.isEmpty then (.error (.configuration (.emptyScope name)), s) else answer scope s
    | none =>
      match tree.operators.get? name with
      | none => (.error (.scopeNotFound name), s)
      | some operator =>
        if name ∈ above then (.error (.configuration (.cyclicOperator name above)), s)
        else match left with
          | 0 => (.error (.configuration (.nestedTooDeep name limit)), s)
          | left + 1 =>
            combineAll operator.combinator (resolveBelow tree answer limit left (above ++ [name]))
              operator.operands s

def resolve (tree : QueryTree) (answer : Answering σ) (limit : Nat) (name : String) (s : σ) :
    Except SearchError Hits × σ :=
  tree.resolveBelow answer limit limit [] name s

end QueryTree
end EntitySearch
