import EntitySearch.Search.Resolve

/-!
# What resolving a scope tree meets

Resolving goes through the operands of operators from left to right and stops at the first failure.
`QueryTree.survey` reads off the tree which scopes it meets this way, and the fault of the tree that
it meets behind them, if any.  Apart from the hits, resolving asks for these scopes one after the
other and then fails with the fault.

Main statements: `outcome_resolve`, `resolve_of_failure`, `resolve_of_fault`,
`isConfiguration_of_fault`.
-/
set_option autoImplicit false
namespace EntitySearch

/-- The scopes that are met, in order, and the fault that is met behind them. -/
structure Survey where
  asked : List Scope
  fault? : Option SearchError

namespace Survey

def nothing : Survey := ⟨[], none⟩

def andThen (first second : Survey) : Survey :=
  match first.fault? with
  | some _ => first
  | none => ⟨first.asked ++ second.asked, second.fault?⟩

def ofEach (met : String → Survey) : List String → Survey
  | [] => nothing
  | name :: rest => (met name).andThen (ofEach met rest)

theorem fault?_andThen (first second : Survey) :
    (first.andThen second).fault? = first.fault?.or second.fault? := by
  unfold andThen
  cases known : first.fault? with
  | none => rfl
  | some e => simp [known]

theorem fault?_ofEach_eq_none_iff {met : String → Survey} {names : List String} :
    (ofEach met names).fault? = none ↔ ∀ name ∈ names, (met name).fault? = none := by
  induction names with
  | nil => simp [ofEach, nothing]
  | cons name rest ih =>
      rw [ofEach, fault?_andThen, Option.or_eq_none_iff, ih, List.forall_mem_cons]

theorem fault_of_ofEach {met : String → Survey} {names : List String} {e : SearchError}
    (fault : (ofEach met names).fault? = some e) : ∃ name ∈ names, (met name).fault? = some e := by
  induction names with
  | nil => cases fault
  | cons name rest ih =>
      rw [ofEach, fault?_andThen, Option.or_eq_some_iff] at fault
      rcases fault with here | ⟨-, later⟩
      · exact ⟨name, List.mem_cons_self .., here⟩
      · obtain ⟨other, member, found⟩ := ih later
        exact ⟨other, List.mem_cons_of_mem _ member, found⟩

end Survey

namespace QueryTree

/-- What is met from a name on below the operators `above`, when `left` more operators may nest. -/
def surveyBelow (tree : QueryTree) (limit : Nat) : Nat → List String → String → Survey
  | left, above, name =>
    match tree.scopes.get? name with
    | some scope =>
      if scope.isEmpty then ⟨[], some (.configuration (.emptyScope name))⟩ else ⟨[scope], none⟩
    | none =>
      match tree.operators.get? name with
      | none => ⟨[], some (.scopeNotFound name)⟩
      | some operator =>
        if name ∈ above then ⟨[], some (.configuration (.cyclicOperator name above))⟩
        else match left with
          | 0 => ⟨[], some (.configuration (.nestedTooDeep name limit))⟩
          | left + 1 => Survey.ofEach (surveyBelow tree limit left (above ++ [name])) operator.operands

def survey (tree : QueryTree) (limit : Nat) (name : String) : Survey :=
  tree.surveyBelow limit limit [] name

variable {tree : QueryTree} {limit : Nat}

theorem isConfiguration_of_surveyBelow : ∀ {left : Nat} {above : List String} {name : String}
    {e : SearchError}, (tree.surveyBelow limit left above name).fault? = some e →
      e.isConfiguration = true
  | left, above, name, e, fault => by
    unfold surveyBelow at fault
    split at fault
    · split at fault <;> cases fault
      rfl
    · split at fault
      · cases fault
        rfl
      · split at fault
        · cases fault
          rfl
        · cases left with
          | zero =>
              cases fault
              rfl
          | succ left =>
              obtain ⟨operand, -, found⟩ := Survey.fault_of_ofEach fault
              exact isConfiguration_of_surveyBelow found

theorem isConfiguration_of_fault {name : String} {e : SearchError}
    (fault : (tree.survey limit name).fault? = some e) : e.isConfiguration = true :=
  isConfiguration_of_surveyBelow fault

variable {σ : Type}

def outcome (result : Except SearchError Hits × σ) : Except SearchError Unit × σ :=
  (result.1.map fun _ => (), result.2)

def followedBy (first : Except SearchError Unit × σ) (next : σ → Except SearchError Unit × σ) :
    Except SearchError Unit × σ :=
  match first with
  | (.error e, s) => (.error e, s)
  | (.ok _, s) => next s

def askAll (answer : Answering σ) : List Scope → σ → Except SearchError Unit × σ
  | [], s => (.ok (), s)
  | scope :: rest, s => followedBy (outcome (answer scope s)) (askAll answer rest)

theorem followedBy_assoc (first : Except SearchError Unit × σ)
    (second third : σ → Except SearchError Unit × σ) :
    followedBy (followedBy first second) third =
      followedBy first fun s => followedBy (second s) third := by
  obtain ⟨result, after⟩ := first
  cases result <;> rfl

theorem askAll_append (answer : Answering σ) (first second : List Scope) (s : σ) :
    askAll answer (first ++ second) s =
      followedBy (askAll answer first s) (askAll answer second) := by
  induction first generalizing s with
  | nil => rfl
  | cons scope rest ih =>
      rw [List.cons_append, askAll, askAll, followedBy_assoc]
      congr 1
      exact funext ih

end QueryTree

open QueryTree (Answering askAll outcome followedBy)

namespace Survey
variable {σ : Type}

def run (survey : Survey) (answer : Answering σ) (s : σ) : Except SearchError Unit × σ :=
  followedBy (askAll answer survey.asked s) fun s =>
    match survey.fault? with
    | some e => (.error e, s)
    | none => (.ok (), s)

theorem run_asking (scope : Scope) (answer : Answering σ) (s : σ) :
    run ⟨[scope], none⟩ answer s = outcome (answer scope s) := by
  unfold run askAll
  cases outcome (answer scope s) with
  | mk result after => cases result <;> rfl

theorem run_andThen (first second : Survey) (answer : Answering σ) (s : σ) :
    (first.andThen second).run answer s =
      followedBy (first.run answer s) (second.run answer) := by
  obtain ⟨asked, fault?⟩ := first
  cases fault? with
  | some e =>
      unfold run
      rw [QueryTree.followedBy_assoc]
      rfl
  | none =>
      change followedBy (askAll answer (asked ++ second.asked) s) _ = followedBy (run _ _ _) _
      rw [run, QueryTree.askAll_append, QueryTree.followedBy_assoc, QueryTree.followedBy_assoc]
      rfl

end Survey

namespace QueryTree
variable {σ : Type} {tree : QueryTree} {limit : Nat}

/-! ## Resolving is asking -/

section Operands
variable {answer : Answering σ} {one : String → σ → Except SearchError Hits × σ}
  {met : String → Survey} (each : ∀ operand s, outcome (one operand s) = (met operand).run answer s)
include each

theorem outcome_combineFrom (combinator : Combinator) (sofar : Hits) (operands : List String)
    (s : σ) :
    outcome (combineFrom combinator one sofar operands s) =
      (Survey.ofEach met operands).run answer s := by
  induction operands generalizing sofar s with
  | nil => rfl
  | cons operand rest ih =>
      rw [Survey.ofEach, Survey.run_andThen, ← each, combineFrom]
      cases asked : one operand s with
      | mk result after =>
          cases result with
          | error e => rfl
          | ok hits => exact ih ..

theorem outcome_combineAll (combinator : Combinator) (operands : List String) (s : σ) :
    outcome (combineAll combinator one operands s) =
      (Survey.ofEach met operands).run answer s := by
  cases operands with
  | nil => rfl
  | cons operand rest =>
      rw [Survey.ofEach, Survey.run_andThen, ← each, combineAll]
      cases asked : one operand s with
      | mk result after =>
          cases result with
          | error e => rfl
          | ok hits => exact outcome_combineFrom each ..

end Operands

theorem outcome_resolveBelow (answer : Answering σ) : ∀ (left : Nat) (above : List String)
    (name : String) (s : σ),
    outcome (tree.resolveBelow answer limit left above name s) =
      (tree.surveyBelow limit left above name).run answer s
  | left, above, name, s => by
    unfold resolveBelow surveyBelow
    cases tree.scopes.get? name with
    | some scope =>
        dsimp only
        split
        · rfl
        · exact (Survey.run_asking ..).symm
    | none =>
        cases tree.operators.get? name with
        | none => rfl
        | some operator =>
            dsimp only
            split
            · rfl
            · cases left with
              | zero => rfl
              | succ left =>
                  exact outcome_combineAll (outcome_resolveBelow answer left (above ++ [name])) ..

/-- Apart from the hits, resolving asks for the scopes of the survey and fails with its fault. -/
theorem outcome_resolve (tree : QueryTree) (limit : Nat) (answer : Answering σ) (name : String)
    (s : σ) :
    outcome (tree.resolve answer limit name s) = (tree.survey limit name).run answer s :=
  outcome_resolveBelow answer limit [] name s

section Results
variable {answer : Answering σ} {name : String} {s : σ}

theorem error_of_outcome {result : Except SearchError Hits × σ} {e : SearchError}
    (failed : (outcome result).1 = .error e) : result.1 = .error e := by
  obtain ⟨result, after⟩ := result
  cases result with
  | error e' =>
      cases failed
      rfl
  | ok hits => cases failed

theorem resolve_of_failure {e : SearchError}
    (failed : (askAll answer (tree.survey limit name).asked s).1 = .error e) :
    (tree.resolve answer limit name s).1 = .error e := by
  refine error_of_outcome ?_
  rw [outcome_resolve, Survey.run]
  generalize askAll answer (tree.survey limit name).asked s = asked at failed ⊢
  obtain ⟨result, after⟩ := asked
  cases failed
  rfl

theorem resolve_of_fault {fault : SearchError}
    (faulty : (tree.survey limit name).fault? = some fault)
    (passed : (askAll answer (tree.survey limit name).asked s).1 = .ok ()) :
    (tree.resolve answer limit name s).1 = .error fault := by
  refine error_of_outcome ?_
  rw [outcome_resolve, Survey.run]
  generalize askAll answer (tree.survey limit name).asked s = asked at passed ⊢
  obtain ⟨result, after⟩ := asked
  cases passed
  rw [followedBy, faulty]

theorem resolve_of_passed (faultless : (tree.survey limit name).fault? = none)
    (passed : (askAll answer (tree.survey limit name).asked s).1 = .ok ()) :
    ∃ hits, (tree.resolve answer limit name s).1 = .ok hits := by
  have outcomes := outcome_resolve tree limit answer name s
  rw [Survey.run] at outcomes
  generalize askAll answer (tree.survey limit name).asked s = asked at passed outcomes
  obtain ⟨result, after⟩ := asked
  cases passed
  rw [followedBy, faultless] at outcomes
  cases resolved : (tree.resolve answer limit name s).1 with
  | error e =>
      have failed := congrArg Prod.fst outcomes
      simp [outcome, resolved, Except.map] at failed
  | ok hits => exact ⟨hits, rfl⟩

end Results

end QueryTree
end EntitySearch
