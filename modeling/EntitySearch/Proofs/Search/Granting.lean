import EntitySearch.Proofs.Search.Lockstep
import EntitySearch.Proofs.Search.Permitted
import Mathlib.Data.List.Induction

/-!
# What a history of grants allows

Grants are changed by calls, each for one actor and one permission.  What an actor may see under a
permission is told by the calls for the two since the last one that withdrew everything: all of the
entities if one of them granted all, and else those that some of them granted.  The calls for others
do not matter.

As a restriction keeps or drops every hit by itself, it may come before hits are combined or after.

Main statements: `permits_afterCalls`, `resolve_restricting`, `restrict_by_history`.
-/
set_option autoImplicit false
namespace EntitySearch

inductive GrantAction where
  | grantAll
  | grantObjects (ids : List Nat)
  | revoke
deriving DecidableEq

def GrantAction.objects : GrantAction → List Nat
  | grantObjects ids => ids
  | _ => []

structure GrantCall where
  holding : Holding
  action : GrantAction
deriving DecidableEq

namespace Grants

def afterCall (grants : Grants) (call : GrantCall) : Grants :=
  match call.action with
  | .grantAll => grants.grantAll call.holding
  | .grantObjects ids => grants.grantObjects call.holding ids
  | .revoke => grants.revoke call.holding

def afterCalls (grants : Grants) (calls : List GrantCall) : Grants := calls.foldl afterCall grants

/-- The actions for an actor and a permission since the last revocation, the latest first. -/
def sinceRevoked (holding : Holding) (calls : List GrantCall) : List GrantAction :=
  ((calls.filter fun call => call.holding = holding).map GrantCall.action).reverse.takeWhile
    fun action => action ≠ .revoke

/-- Is an entity allowed by some grants?  A grant on every entity allows it, and else one that lists
it must be among them. -/
def allowedBy (actions : List GrantAction) (id : Nat) : Bool :=
  if .grantAll ∈ actions then true else (actions.flatMap GrantAction.objects).contains id

theorem allowedBy_grantAll (actions : List GrantAction) (id : Nat) :
    allowedBy (.grantAll :: actions) id = true := by
  simp [allowedBy]

theorem allowedBy_grantObjects (ids : List Nat) (actions : List GrantAction) (id : Nat) :
    allowedBy (.grantObjects ids :: actions) id = (allowedBy actions id || ids.contains id) := by
  by_cases all : GrantAction.grantAll ∈ actions
  · simp [allowedBy, all]
  · simp [allowedBy, all, GrantAction.objects, Bool.or_comm]

theorem sinceRevoked_snoc (holding : Holding) (calls : List GrantCall) (call : GrantCall) :
    sinceRevoked holding (calls ++ [call]) =
      if call.holding = holding then
        if call.action = .revoke then [] else call.action :: sinceRevoked holding calls
      else sinceRevoked holding calls := by
  by_cases own : call.holding = holding
  · by_cases withdraws : call.action = .revoke
    · simp [sinceRevoked, List.filter_append, own, withdraws]
    · simp [sinceRevoked, List.filter_append, own, withdraws]
  · simp [sinceRevoked, List.filter_append, own]

variable {grants : Grants} {holding : Holding}

theorem permits_afterCall (grants : Grants) (call : GrantCall) (holding : Holding) (id : Nat) :
    (grants.afterCall call).permits holding id =
      if call.holding = holding then
        match call.action with
        | .grantAll => true
        | .grantObjects ids => grants.permits holding id || ids.contains id
        | .revoke => false
      else grants.permits holding id := by
  obtain ⟨own, action⟩ := call
  unfold permits afterCall
  by_cases same : own = holding
  · subst same
    cases action with
    | grantAll => simp [grantAll, SortedMap.get?_insert, Grant.covers]
    | grantObjects ids =>
        -- A grant on every entity takes the listed ones up, so they change nothing then.
        cases held : grants.get? own with
        | none => simp [grantObjects, SortedMap.get?_insert, held, Grant.extend, Grant.covers]
        | some grant =>
            cases grant <;>
              simp [grantObjects, SortedMap.get?_insert, held, Grant.extend, Grant.covers]
    | revoke => simp [revoke, SortedMap.get?_erase]
  · cases action <;>
      simp [grantAll, grantObjects, revoke, SortedMap.get?_insert, SortedMap.get?_erase, same,
        Ne.symm same]

theorem permits_afterCalls (calls : List GrantCall) (holding : Holding) (id : Nat) :
    (empty.afterCalls calls).permits holding id = allowedBy (sinceRevoked holding calls) id := by
  induction calls using List.reverseRecOn with
  | nil => rfl
  | append_singleton calls call ih =>
      have last : empty.afterCalls (calls ++ [call]) = (empty.afterCalls calls).afterCall call :=
        List.foldl_concat ..
      rw [last, permits_afterCall, ih, sinceRevoked_snoc]
      split
      · cases call.action with
        | grantAll => exact (allowedBy_grantAll _ id).symm
        | grantObjects ids => exact (allowedBy_grantObjects ids _ id).symm
        | revoke => rfl
      · rfl

theorem sinceRevoked_filter (holding : Holding) (calls : List GrantCall) :
    sinceRevoked holding (calls.filter fun call => call.holding = holding) =
      sinceRevoked holding calls := by
  simp [sinceRevoked, List.filter_filter]

section Restricting
variable {σ : Type}

/-- Answers of scopes, each restricted to what an actor may see under a permission. -/
def restricting (grants : Grants) (holding : Holding) (answer : QueryTree.Answering σ) :
    QueryTree.Answering σ :=
  fun scope state => ((answer scope state).1.map (grants.restrict holding), (answer scope state).2)

theorem eq_map_of_alike {change : Hits → Hits} {mine yours : Except SearchError Hits}
    (alike : Alike (fun a b => a = change b) mine yours) : mine = yours.map change := by
  cases alike with
  | failure e => rfl
  | success same => exact congrArg Except.ok same

theorem resolve_restricting (grants : Grants) (holding : Holding) (tree : QueryTree)
    (answer : QueryTree.Answering σ) (limit : Nat) (name : String) (state : σ) :
    tree.resolve (grants.restricting holding answer) limit name state =
      ((tree.resolve answer limit name state).1.map (grants.restrict holding),
        (tree.resolve answer limit name state).2) := by
  have inStep : QueryTree.InStep (fun mine yours => mine = grants.restrict holding yours) Eq
      (tree.resolve (grants.restricting holding answer) limit name state)
      (tree.resolve answer limit name state) := by
    refine QueryTree.resolve_inStep ?_ ?_ ?_ tree limit name rfl
    · exact Hits.eq_of_ids rfl
    · rintro combinator _ a _ b rfl rfl
      exact (Hits.filter_combine combinator a b).symm
    · rintro scope state _ rfl
      refine ⟨?_, rfl⟩
      unfold restricting
      cases (answer scope state).1 with
      | error e => exact .failure e
      | ok hits => exact .success rfl
  exact Prod.ext (eq_map_of_alike inStep.result) inStep.state

end Restricting

/-- After any calls, a restriction keeps the hits that the calls for the actor and the permission
since their last revocation allow, in their order; the calls for others change nothing of it.  It
makes no difference whether hits are restricted before they are combined or after, for two lists and
for whole scope trees. -/
theorem restrict_by_history (calls : List GrantCall) (holding : Holding) :
    let grants := empty.afterCalls calls
    (∀ hits, (grants.restrict holding hits).ids =
      hits.ids.filter (allowedBy (sinceRevoked holding calls))) ∧
    (∀ hits, (empty.afterCalls (calls.filter fun call => call.holding = holding)).restrict
      holding hits = grants.restrict holding hits) ∧
    (∀ a b, grants.restrict holding (a.inter b) =
        (grants.restrict holding a).inter (grants.restrict holding b) ∧
      grants.restrict holding (a.union b) =
        (grants.restrict holding a).union (grants.restrict holding b)) ∧
    ∀ (σ : Type) (tree : QueryTree) (answer : QueryTree.Answering σ) limit name state,
      tree.resolve (grants.restricting holding answer) limit name state =
        ((tree.resolve answer limit name state).1.map (grants.restrict holding),
          (tree.resolve answer limit name state).2) := by
  intro grants
  have permitted : grants.permits holding = allowedBy (sinceRevoked holding calls) :=
    funext fun id => permits_afterCalls calls holding id
  refine ⟨fun hits => ?_, fun hits => ?_, fun a b => ⟨?_, ?_⟩, ?_⟩
  · change hits.ids.filter (grants.permits holding) = _
    rw [permitted]
  · have alike : (empty.afterCalls (calls.filter fun call => call.holding = holding)).permits
        holding = grants.permits holding := by
      funext id
      rw [permits_afterCalls, sinceRevoked_filter, permitted]
    rw [restrict, restrict, alike]
  · exact Hits.filter_inter a b
  · exact Hits.filter_union a b
  · intro σ tree answer limit name state
    exact resolve_restricting grants holding tree answer limit name state

end Grants
end EntitySearch
