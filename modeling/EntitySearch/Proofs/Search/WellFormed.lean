import EntitySearch.Proofs.Search.Survey
import Mathlib.Data.List.Nodup
import Mathlib.Logic.Relation

/-!
# Well-formed scope trees

A tree is well formed from a name on if all that can be reached from it has a meaning, and the
operators on every way down are different ones and not too many.  An index that answers every scope
makes resolving succeed just then.

Main statements: `fault?_survey_eq_none_iff`, `wellFormed_iff_of_resembles`,
`resolve_succeeds_iff_wellFormed`.
-/
set_option autoImplicit false
namespace EntitySearch
namespace QueryTree

/-- The operator a name stands for: a scope hides an operator of the same name. -/
def operator? (tree : QueryTree) (name : String) : Option Operator :=
  if tree.scopes.contains name then none else tree.operators.get? name

def Meaningful (tree : QueryTree) (name : String) : Prop :=
  (∃ scope, tree.scopes.get? name = some scope ∧ scope.isEmpty = false) ∨
    ∃ operator, tree.operator? name = some operator

def HasOperand (tree : QueryTree) (name operand : String) : Prop :=
  ∃ operator, tree.operator? name = some operator ∧ operand ∈ operator.operands

def Reaches (tree : QueryTree) : String → String → Prop := Relation.ReflTransGen tree.HasOperand

inductive Chain (tree : QueryTree) : String → List String → Prop where
  | last {name : String} {operator : Operator} (stands : tree.operator? name = some operator) :
      Chain tree name [name]
  | cons {name operand : String} {rest : List String} (below : tree.HasOperand name operand)
      (chain : Chain tree operand rest) : Chain tree name (name :: rest)

structure WellFormed (tree : QueryTree) (limit : Nat) (name : String) : Prop where
  meaningful : ∀ other, tree.Reaches name other → tree.Meaningful other
  acyclic : ∀ chain, tree.Chain name chain → chain.Nodup
  shallow : ∀ chain, tree.Chain name chain → chain.length ≤ limit

/-- The rest of a tree is well formed below the operators `above`, when `left` more may nest. -/
structure FitsBelow (tree : QueryTree) (left : Nat) (above : List String) (name : String) :
    Prop where
  meaningful : ∀ other, tree.Reaches name other → tree.Meaningful other
  acyclic : ∀ chain, tree.Chain name chain → (above ++ chain).Nodup
  shallow : ∀ chain, tree.Chain name chain → chain.length ≤ left

variable {tree : QueryTree} {limit left : Nat} {above : List String} {name : String}

theorem operator?_of_scope {scope : Scope} (found : tree.scopes.get? name = some scope) :
    tree.operator? name = none := by
  simp [operator?, SortedMap.contains, found]

theorem operator?_of_no_scope (missing : tree.scopes.get? name = none) :
    tree.operator? name = tree.operators.get? name := by
  simp [operator?, SortedMap.contains, missing]

section Ways
variable {operator : Operator}

theorem eq_of_reaches (none : tree.operator? name = none) {other : String}
    (reaches : tree.Reaches name other) : other = name := by
  rcases Relation.ReflTransGen.cases_head reaches with same | ⟨operand, ⟨_, stands, _⟩, _⟩
  · exact same.symm
  · rw [none] at stands
    cases stands

theorem not_chain (none : tree.operator? name = none) (chain : List String) :
    ¬ tree.Chain name chain := by
  intro isChain
  cases isChain with
  | last stands => rw [none] at stands; cases stands
  | cons below _ =>
      obtain ⟨_, stands, _⟩ := below
      rw [none] at stands
      cases stands

theorem reaches_iff (stands : tree.operator? name = some operator) {other : String} :
    tree.Reaches name other ↔
      other = name ∨ ∃ operand ∈ operator.operands, tree.Reaches operand other := by
  unfold Reaches
  rw [Relation.ReflTransGen.cases_head_iff]
  simp only [HasOperand, stands, Option.some.injEq, exists_eq_left', eq_comm]

theorem chain_iff (stands : tree.operator? name = some operator) {chain : List String} :
    tree.Chain name chain ↔ chain = [name] ∨
      ∃ operand ∈ operator.operands, ∃ rest, tree.Chain operand rest ∧ chain = name :: rest := by
  constructor
  · intro isChain
    cases isChain with
    | last _ => exact Or.inl rfl
    | @cons _ operand rest below later =>
        obtain ⟨found, stands', member⟩ := below
        rw [stands] at stands'
        cases stands'
        exact Or.inr ⟨operand, member, rest, later, rfl⟩
  · rintro (rfl | ⟨operand, member, rest, later, rfl⟩)
    · exact .last stands
    · exact .cons ⟨operator, stands, member⟩ later

theorem nodup_snoc_iff : (above ++ [name]).Nodup ↔ name ∉ above ∧ above.Nodup := by
  rw [← List.concat_eq_append, List.nodup_concat]

theorem fitsBelow_operator (stands : tree.operator? name = some operator) (nodup : above.Nodup) :
    tree.FitsBelow (left + 1) above name ↔
      name ∉ above ∧ ∀ operand ∈ operator.operands, tree.FitsBelow left (above ++ [name]) operand := by
  constructor
  · intro fits
    refine ⟨?_, fun operand member => ⟨?_, ?_, ?_⟩⟩
    · have apart := fits.acyclic [name] (.last stands)
      exact (nodup_snoc_iff.1 apart).1
    · intro other reaches
      exact fits.meaningful other ((reaches_iff stands).2 (Or.inr ⟨operand, member, reaches⟩))
    · intro chain isChain
      have longer := fits.acyclic (name :: chain) (.cons ⟨operator, stands, member⟩ isChain)
      rwa [List.append_assoc]
    · intro chain isChain
      have longer := fits.shallow (name :: chain) (.cons ⟨operator, stands, member⟩ isChain)
      exact Nat.le_of_succ_le_succ longer
  · rintro ⟨fresh, each⟩
    refine ⟨?_, ?_, ?_⟩
    · intro other reaches
      rcases (reaches_iff stands).1 reaches with rfl | ⟨operand, member, later⟩
      · exact Or.inr ⟨operator, stands⟩
      · exact (each operand member).meaningful other later
    · intro chain isChain
      rcases (chain_iff stands).1 isChain with rfl | ⟨operand, member, rest, later, rfl⟩
      · exact nodup_snoc_iff.2 ⟨fresh, nodup⟩
      · have apart := (each operand member).acyclic rest later
        rwa [List.append_assoc] at apart
    · intro chain isChain
      rcases (chain_iff stands).1 isChain with rfl | ⟨operand, member, rest, later, rfl⟩
      · exact Nat.le_add_left 1 left
      · exact Nat.succ_le_succ ((each operand member).shallow rest later)

theorem not_fitsBelow_zero (stands : tree.operator? name = some operator) :
    ¬ tree.FitsBelow 0 above name := by
  intro fits
  have tooLong := fits.shallow [name] (.last stands)
  simp at tooLong

end Ways

theorem fitsBelow_scope {scope : Scope} (found : tree.scopes.get? name = some scope) :
    tree.FitsBelow left above name ↔ scope.isEmpty = false := by
  have noOperator := operator?_of_scope found
  constructor
  · intro fits
    rcases fits.meaningful name .refl with ⟨other, found', filled⟩ | ⟨_, stands⟩
    · rw [found] at found'
      cases found'
      exact filled
    · rw [noOperator] at stands
      cases stands
  · intro filled
    refine ⟨?_, fun chain isChain => ?_, fun chain isChain => ?_⟩
    · intro other reaches
      obtain rfl := eq_of_reaches noOperator reaches
      exact Or.inl ⟨scope, found, filled⟩
    · exact absurd isChain (not_chain noOperator chain)
    · exact absurd isChain (not_chain noOperator chain)

theorem not_fitsBelow_unknown (noScope : tree.scopes.get? name = none)
    (noOperator : tree.operators.get? name = none) : ¬ tree.FitsBelow left above name := by
  intro fits
  rcases fits.meaningful name .refl with ⟨_, found, _⟩ | ⟨_, stands⟩
  · rw [noScope] at found
    cases found
  · rw [operator?_of_no_scope noScope, noOperator] at stands
    cases stands

theorem fault?_surveyBelow_eq_none_iff : ∀ {left : Nat} {above : List String} {name : String},
    above.Nodup → ((tree.surveyBelow limit left above name).fault? = none ↔
      tree.FitsBelow left above name)
  | left, above, name, nodup => by
    -- As `above` repeats nothing, a way down repeats something just where it meets `above` again.
    unfold surveyBelow
    cases scopeFound : tree.scopes.get? name with
    | some scope =>
        rw [fitsBelow_scope scopeFound]
        dsimp only
        cases scope.isEmpty <;> simp
    | none =>
        cases operatorFound : tree.operators.get? name with
        | none => simpa using not_fitsBelow_unknown scopeFound operatorFound
        | some operator =>
            have stands : tree.operator? name = some operator := by
              rw [operator?_of_no_scope scopeFound, operatorFound]
            by_cases met : name ∈ above
            · have unfit : ¬ tree.FitsBelow left above name := fun fits =>
                (nodup_snoc_iff.1 (fits.acyclic [name] (.last stands))).1 met
              simpa [met] using unfit
            · cases left with
              | zero => simpa [met] using not_fitsBelow_zero stands
              | succ left =>
                  have nodupHere := nodup_snoc_iff.2 ⟨met, nodup⟩
                  rw [fitsBelow_operator stands nodup]
                  simp only [met, if_false, not_false_eq_true, true_and,
                    Survey.fault?_ofEach_eq_none_iff]
                  exact forall₂_congr fun operand _ => fault?_surveyBelow_eq_none_iff nodupHere

theorem wellFormed_iff_fitsBelow : tree.WellFormed limit name ↔ tree.FitsBelow limit [] name :=
  ⟨fun fine => ⟨fine.meaningful, fine.acyclic, fine.shallow⟩,
    fun fine => ⟨fine.meaningful, fine.acyclic, fine.shallow⟩⟩

theorem fault?_survey_eq_none_iff :
    (tree.survey limit name).fault? = none ↔ tree.WellFormed limit name := by
  rw [wellFormed_iff_fitsBelow]
  exact fault?_surveyBelow_eq_none_iff List.nodup_nil

/-! ## What does not matter -/

/-- Two trees agree on what can be reached from a name, up to the order of operands and the ways
they are combined. -/
structure Resembles (tree other : QueryTree) (name : String) : Prop where
  scopes : ∀ reached, tree.Reaches name reached →
    other.scopes.get? reached = tree.scopes.get? reached
  operators : ∀ reached, tree.Reaches name reached →
    Option.Rel (fun mine yours => mine.operands.Perm yours.operands) (tree.operator? reached)
      (other.operator? reached)

section Resembles
variable {other : QueryTree} (resembles : tree.Resembles other name)
include resembles

theorem Resembles.meaningful_iff {reached : String} (reaches : tree.Reaches name reached) :
    other.Meaningful reached ↔ tree.Meaningful reached := by
  have operators := resembles.operators reached reaches
  unfold Meaningful
  rw [resembles.scopes reached reaches]
  generalize tree.operator? reached = mine at *
  generalize other.operator? reached = yours at *
  cases operators <;> simp

theorem Resembles.hasOperand_iff {reached operand : String} (reaches : tree.Reaches name reached) :
    other.HasOperand reached operand ↔ tree.HasOperand reached operand := by
  have operators := resembles.operators reached reaches
  unfold HasOperand
  generalize tree.operator? reached = mine at *
  generalize other.operator? reached = yours at *
  cases operators with
  | none => simp
  | some same => simp [same.mem_iff]

theorem Resembles.reaches_of_reaches {reached : String} (reaches : other.Reaches name reached) :
    tree.Reaches name reached := by
  induction reaches with
  | refl => exact .refl
  | tail _ below ih => exact .tail ih ((resembles.hasOperand_iff ih).1 below)

theorem Resembles.chain_of_chain {start : String} {chain : List String}
    (reaches : tree.Reaches name start) (isChain : other.Chain start chain) :
    tree.Chain start chain := by
  induction isChain with
  | @last start operator stands =>
      have operators := resembles.operators start reaches
      rw [stands] at operators
      cases found : tree.operator? start with
      | none =>
          rw [found] at operators
          cases operators
      | some mine => exact .last found
  | cons below _ ih =>
      have below := (resembles.hasOperand_iff reaches).1 below
      exact .cons below (ih (.tail reaches below))

theorem Resembles.symm : other.Resembles tree name := by
  refine ⟨fun reached reaches => ?_, fun reached reaches => ?_⟩
  · exact (resembles.scopes reached (resembles.reaches_of_reaches reaches)).symm
  · have operators := resembles.operators reached (resembles.reaches_of_reaches reaches)
    generalize tree.operator? reached = mine at *
    generalize other.operator? reached = yours at *
    cases operators with
    | none => exact .none
    | some same => exact .some same.symm

theorem Resembles.wellFormed (fine : tree.WellFormed limit name) : other.WellFormed limit name := by
  refine ⟨fun reached reaches => ?_, fun chain isChain => ?_, fun chain isChain => ?_⟩
  · have reaches := resembles.reaches_of_reaches reaches
    exact (resembles.meaningful_iff reaches).2 (fine.meaningful reached reaches)
  · exact fine.acyclic chain (resembles.chain_of_chain .refl isChain)
  · exact fine.shallow chain (resembles.chain_of_chain .refl isChain)

theorem wellFormed_iff_of_resembles : other.WellFormed limit name ↔ tree.WellFormed limit name :=
  ⟨resembles.symm.wellFormed, resembles.wellFormed⟩

end Resembles

/-! ## Resolving well-formed trees -/

section Resolving
variable {σ : Type} {answer : Answering σ}

section Answered
variable {kept : σ → Prop}
  (answers : ∀ scope s, kept s → ∃ hits after, answer scope s = (.ok hits, after) ∧ kept after)
include answers

theorem askAll_ok (scopes : List Scope) {s : σ} (begin : kept s) :
    ∃ after, askAll answer scopes s = (.ok (), after) := by
  induction scopes generalizing s with
  | nil => exact ⟨s, rfl⟩
  | cons scope rest ih =>
      obtain ⟨hits, after, answered, goesOn⟩ := answers scope s begin
      obtain ⟨last, asked⟩ := ih goesOn
      exact ⟨last, by rw [askAll, answered]; exact asked⟩

theorem resolve_error_iff (tree : QueryTree) (limit : Nat) (name : String) {s : σ} (begin : kept s)
    (e : SearchError) :
    (tree.resolve answer limit name s).1 = .error e ↔ (tree.survey limit name).fault? = some e := by
  obtain ⟨after, asked⟩ := askAll_ok answers (tree.survey limit name).asked begin
  have passed := congrArg Prod.fst asked
  cases fault : (tree.survey limit name).fault? with
  | none =>
      obtain ⟨hits, resolved⟩ := resolve_of_passed fault passed
      simp [resolved]
  | some e' => simp [resolve_of_fault fault passed]

theorem resolve_ok_iff (tree : QueryTree) (limit : Nat) (name : String) {s : σ} (begin : kept s) :
    (∃ hits, (tree.resolve answer limit name s).1 = .ok hits) ↔ tree.WellFormed limit name := by
  rw [← fault?_survey_eq_none_iff]
  have errors := resolve_error_iff answers tree limit name begin
  cases result : (tree.resolve answer limit name s).1 with
  | error e =>
      rw [(errors e).1 result]
      simp
  | ok hits =>
      cases fault : (tree.survey limit name).fault? with
      | none => simp
      | some e =>
          rw [(errors e).2 fault] at result
          cases result

end Answered

/-- Where every scope is answered, resolving succeeds in well-formed trees, fails in others because
of their configuration, and does as well in a tree that resembles. -/
theorem resolve_succeeds_iff_wellFormed
    (answers : ∀ scope s, ∃ hits after, answer scope s = (.ok hits, after)) (tree : QueryTree)
    (limit : Nat) (s : σ) :
    ((∃ hits, (tree.resolve answer limit tree.resultScope s).1 = .ok hits) ↔
        tree.WellFormed limit tree.resultScope) ∧
      (¬ tree.WellFormed limit tree.resultScope →
        ∃ e, (tree.resolve answer limit tree.resultScope s).1 = .error e ∧
          e.isConfiguration = true) ∧
      ∀ other, other.resultScope = tree.resultScope → tree.Resembles other tree.resultScope →
        ((∃ hits, (other.resolve answer limit other.resultScope s).1 = .ok hits) ↔
          ∃ hits, (tree.resolve answer limit tree.resultScope s).1 = .ok hits) := by
  have always : ∀ scope s, True → ∃ hits after, answer scope s = (.ok hits, after) ∧ True := by
    intro scope s _
    obtain ⟨hits, after, answered⟩ := answers scope s
    exact ⟨hits, after, answered, trivial⟩
  refine ⟨resolve_ok_iff always _ _ _ trivial, ?_, ?_⟩
  · intro malformed
    rw [← fault?_survey_eq_none_iff] at malformed
    obtain ⟨e, fault⟩ := Option.ne_none_iff_exists'.1 malformed
    exact ⟨e, (resolve_error_iff always _ _ _ trivial e).2 fault, isConfiguration_of_fault fault⟩
  · intro other sameResult resembles
    rw [resolve_ok_iff always _ _ _ trivial, resolve_ok_iff always _ _ _ trivial, sameResult,
      wellFormed_iff_of_resembles resembles]

/-- Of the three operators on the longest way down, one is met twice, on different ways. -/
def diamond : QueryTree :=
  (decode [("__A__title", "logic"), ("__B__title", "sets"), ("__op__A_B", "or=X"),
    ("__op__X_B", "and=Y"), ("__op__Y_X", "and=R"), ("__op__Z_Q", "or=Z"), ("__result", "R")]
    false).toOption.getD {}

theorem diamond_wellFormed :
    diamond.WellFormed 3 diamond.resultScope ∧ ¬ diamond.WellFormed 2 diamond.resultScope := by
  have answers : ∀ (scope : Scope) (s : Unit), ∃ hits after,
      (fun (_ : Scope) (s : Unit) => ((.ok Hits.none, s) : Except SearchError Hits × Unit)) scope s =
        (.ok hits, after) := fun _ s => ⟨Hits.none, s, rfl⟩
  constructor
  · rw [← (resolve_succeeds_iff_wellFormed answers diamond 3 ()).1]
    exact ⟨Hits.none, by decide +kernel⟩
  · rw [← (resolve_succeeds_iff_wellFormed answers diamond 2 ()).1]
    rintro ⟨hits, succeeded⟩
    have failed : (diamond.resolve (fun _ s => (.ok Hits.none, s)) 2 diamond.resultScope ()).1 =
        .error (.configuration (.nestedTooDeep "X" 2)) := by decide +kernel
    rw [failed] at succeeded
    cases succeeded

end Resolving

end QueryTree
end EntitySearch
