import EntitySearch.Proofs.Query.LastWins

/-!
# Which names scopes can have

A scope is named inside a key when a field is put into it, and as a value when its results are asked
for.  `Request.Asks` is a request that does both, among entries that leave the field and the result
alone.  It works for every name without an underscore but `op`: what a key with that name in it
defines is an operator.  In a value a name loses the white space at its ends, so the results that
are asked for are those of the scope if its name has none.

Main statement: `asked_scope_decodes`.
-/
set_option autoImplicit false
namespace EntitySearch

theorem lastTold_of_alone {α β : Type} {tells : α → β → Prop} {l : List α} {b : β}
    (told : ∃ a ∈ l, tells a b) (alone : ∀ a ∈ l, ∀ c, tells a c → c = b) : LastTold tells l b := by
  induction l using List.reverseRecOn with
  | nil => simp at told
  | append_singleton l a ih =>
      rw [lastTold_snoc]
      by_cases here : ∃ c, tells a c
      · obtain ⟨c, tellsHere⟩ := here
        obtain rfl := alone a (by simp) c tellsHere
        exact .inl tellsHere
      · have silent : ∀ c, ¬ tells a c := fun c tellsHere => here ⟨c, tellsHere⟩
        refine .inr ⟨silent, ih ?_ fun x member => alone x (List.mem_append_left _ member)⟩
        obtain ⟨x, member, tellsIt⟩ := told
        rcases List.mem_append.1 member with before | last
        · exact ⟨x, before, tellsIt⟩
        · exact absurd (List.mem_singleton.1 last ▸ tellsIt) (silent b)

namespace Entry

def reservedScope : String := "op"

/-- Of the keys of scopes, those of the reserved name begin as the keys of operators do. -/
theorem operatorMarker_scopedKey_iff {scope name : String} (clear : '_' ∉ scope.toList) :
    operatorMarker <+: (scopedKey scope name).toList ↔ scope = reservedScope := by
  have spelled : scope = reservedScope ↔ scope.toList = ['o', 'p'] := by
    rw [← String.toList_inj]
    rfl
  rw [toList_scopedKey, spelled]
  generalize scope.toList = letters at clear
  -- The marker's two underscores come after the name, which holds none itself.
  rcases letters with _ | ⟨a, _ | ⟨b, _ | ⟨c, rest⟩⟩⟩
  · simp [operatorMarker]
  · simp [operatorMarker]
  · simp [operatorMarker, eq_comm]
  · have later : c ≠ '_' := by
      rintro rfl
      simp at clear
    simp [operatorMarker, later.symm]

theorem targets_scopedKey {scope name : String} (named : scope ≠ "") (clear : '_' ∉ scope.toList)
    (free : scope ≠ reservedScope) (isField : name ≠ "") :
    Targets (scopedKey scope name) scope name :=
  .marked ⟨named, clear⟩ isField fun isOperator =>
    free ((operatorMarker_scopedKey_iff clear).1 isOperator)

theorem not_targets_reservedScope (key name : String) : ¬ Targets key reservedScope name := by
  generalize isReserved : reservedScope = scope
  intro targets
  cases targets with
  | bare plain => exact absurd isReserved (by decide)
  | marked isScope isField noOperator =>
      exact noOperator ((operatorMarker_scopedKey_iff isScope.2).2 isReserved.symm)

theorem not_targets_resultKey (scope name : String) : ¬ Targets resultKey scope name := by
  intro targets
  have same : Entry.result _ = ofField scope name "" :=
    Except.ok.inj ((read_eq_ok_iff.2 (.result rfl rfl)).symm.trans (read_of_targets targets ""))
  unfold ofField at same
  split at same <;> cases same

end Entry

namespace Request

/-- A request has a value for a field of a scope and asks for the results of the scope.  No further
entry is for that field or for the result, and none is a malformed operator. -/
structure Asks (request : Request) (scope name value : String) (further : Request) : Prop where
  entries : request.Perm
    ((Entry.scopedKey scope name, value) :: (Entry.resultKey, scope) :: further)
  noResult : ∀ entry ∈ further, entry.1 ≠ Entry.resultKey
  noFault : ∀ entry ∈ further, ¬ Entry.Malformed entry.1 entry.2
  apart : ∀ entry ∈ further, ¬ Entry.Targets entry.1 scope name

namespace Asks
variable {request further : Request} {scope name value : String}
  (asks : request.Asks scope name value further)
include asks

theorem mem_iff {entry : String × String} : entry ∈ request ↔
    entry = (Entry.scopedKey scope name, value) ∨ entry = (Entry.resultKey, scope) ∨
      entry ∈ further := by
  rw [asks.entries.mem_iff, List.mem_cons, List.mem_cons]

section Target
variable (targets : Entry.Targets (Entry.scopedKey scope name) scope name)
include targets

theorem not_fails : ¬ request.Fails := by
  rintro ⟨entry, member, noResult, malformed⟩
  rcases asks.mem_iff.1 member with rfl | rfl | later
  · obtain ⟨e, failed⟩ := Entry.read_error_iff.2 malformed
    cases failed.symm.trans (Entry.read_of_targets targets value)
  · exact noResult rfl
  · exact asks.noFault entry later malformed

theorem tellsField_last (noFlag : name ≠ Entry.matchAllKey) :
    LastTold (TellsField scope name) request value := by
  refine lastTold_of_alone ⟨_, asks.mem_iff.2 (.inl rfl), targets, noFlag, rfl⟩ ?_
  rintro entry member other ⟨aims, -, rfl⟩
  rcases asks.mem_iff.1 member with rfl | rfl | later
  · rfl
  · exact absurd aims (Entry.not_targets_resultKey scope name)
  · exact absurd aims (asks.apart entry later)

theorem tellsResult_last : LastTold TellsResult request (trimmedValue scope) := by
  refine lastTold_of_alone ⟨_, asks.mem_iff.2 (.inr (.inl rfl)), rfl, rfl⟩ ?_
  rintro entry member other ⟨isResult, rfl⟩
  rcases asks.mem_iff.1 member with rfl | rfl | later
  · exact absurd (isResult ▸ targets) (Entry.not_targets_resultKey scope name)
  · rfl
  · exact absurd isResult (asks.noResult entry later)

end Target

end Asks

theorem no_reservedScope {request : Request} {matchAllDefault : Bool} {tree : QueryTree}
    (decoded : QueryTree.decode request matchAllDefault = .ok tree) :
    tree.scopes.get? Entry.reservedScope = none := by
  have reads := (decode_eq_ok_iff.1 decoded).2
  rw [← Option.not_isSome_iff_eq_none]
  intro present
  obtain ⟨entry, -, field, targets⟩ := (reads.scopes _).1 present
  exact Entry.not_targets_reservedScope entry.1 field targets

/-- A request that asks for a scope by any name without an underscore but the reserved one is
decoded, with the value in the field of the scope, and if there is no white space at the ends of the
name, the results asked for are those of the scope.  A request that asks for the reserved name gets
no scope of that name. -/
theorem asked_scope_decodes {request further : Request} {scope name value : String}
    (asks : request.Asks scope name value further) (named : scope ≠ "")
    (clear : '_' ∉ scope.toList) (isField : name ≠ "") (noFlag : name ≠ Entry.matchAllKey)
    (matchAllDefault : Bool) :
    (scope ≠ Entry.reservedScope →
      ∃ tree found, QueryTree.decode request matchAllDefault = .ok tree ∧
        tree.scopes.get? scope = some found ∧ found.fields.get? name = some value ∧
        (trimmedValue scope = scope → tree.resultScope = scope)) ∧
    (scope = Entry.reservedScope →
      ∀ tree, QueryTree.decode request matchAllDefault = .ok tree →
        tree.scopes.get? scope = none) := by
  refine ⟨fun free => ?_, ?_⟩
  · have targets := Entry.targets_scopedKey named clear free isField
    rcases decode_cases request matchAllDefault with ⟨fails, -⟩ | ⟨-, tree, decoded, reads⟩
    · exact absurd fails (asks.not_fails targets)
    · have present : tree.scopes.contains scope = true :=
        (reads.scopes scope).2 ⟨_, asks.mem_iff.2 (.inl rfl), name, targets⟩
      obtain ⟨found, stored⟩ := Option.isSome_iff_exists.1 present
      refine ⟨tree, found, decoded, stored, ?_, fun trimmed => ?_⟩
      · exact (reads.fields scope found stored name value).2
          (asks.tellsField_last targets noFlag)
      · refine (reads.result.unique ?_ (.inl (asks.tellsResult_last targets))).trans trimmed
        rintro entry _ _ ⟨-, rfl⟩ ⟨-, rfl⟩
        rfl
  · rintro rfl tree decoded
    exact no_reservedScope decoded

/-- The field begins with an underscore and holds the marker, and the name of the scope is that of
an operator as well. -/
def nestedMarkers : Request :=
  [("__op__A_0", "or=A"), ("__A___op__B", "dune"), ("title", "emma"), ("__result", "A"),
    ("__A__genre", "poetry")]

theorem asked_scope_decodes_nestedMarkers :
    nestedMarkers.Asks "A" "_op__B" "dune"
        [("__op__A_0", "or=A"), ("title", "emma"), ("__A__genre", "poetry")] ∧
      ∃ tree found, QueryTree.decode nestedMarkers true = .ok tree ∧
        tree.scopes.get? "A" = some found ∧ found.fields.get? "_op__B" = some "dune" ∧
        tree.resultScope = "A" := by
  have asks : nestedMarkers.Asks "A" "_op__B" "dune"
      [("__op__A_0", "or=A"), ("title", "emma"), ("__A__genre", "poetry")] := by
    refine ⟨by decide, by decide, ?_, ?_⟩
    · intro entry member malformed
      obtain ⟨e, failed⟩ := Entry.read_error_iff.2 malformed
      simp only [List.mem_cons, List.not_mem_nil, or_false] at member
      rcases member with rfl | rfl | rfl <;> cases failed
    · have each : ∀ entry ∈ [("__op__A_0", "or=A"), ("title", "emma"), ("__A__genre", "poetry")],
          ¬ Aims entry (.field "A" "_op__B") := by decide +kernel
      exact each
  refine ⟨asks, ?_⟩
  obtain ⟨tree, found, decoded, stored, value, result⟩ :=
    (asked_scope_decodes asks (by decide) (by decide) (by decide) (by decide) true).1 (by decide)
  exact ⟨tree, found, decoded, stored, value, result (by decide +kernel)⟩

/-- A request for the reserved name fails, and one for a name that begins with a blank asks for the
results of another name. -/
theorem asked_scope_missed :
    let reserved : Request := [("__op__title", "dune"), ("__result", "op")]
    let blank : Request := [("__ A__title", "dune"), ("__result", " A")]
    '_' ∉ "op".toList ∧ reserved.Asks "op" "title" "dune" [] ∧
      (∃ e, QueryTree.decode reserved false = .error e) ∧
      '_' ∉ " A".toList ∧ blank.Asks " A" "title" "dune" [] ∧
      ∃ tree, QueryTree.decode blank false = .ok tree ∧ tree.resultScope ≠ " A" := by
  intro reserved blank
  have asksReserved : reserved.Asks "op" "title" "dune" [] :=
    ⟨by decide, by simp, by simp, by simp⟩
  have asksBlank : blank.Asks " A" "title" "dune" [] := ⟨by decide, by simp, by simp, by simp⟩
  exact ⟨by decide, asksReserved, ⟨_, rfl⟩, by decide, asksBlank, _, rfl, by decide⟩

end Request
end EntitySearch
