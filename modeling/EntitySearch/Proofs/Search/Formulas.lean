import EntitySearch.Proofs.Data.Fallible
import EntitySearch.Proofs.Query.Grammar
import EntitySearch.Proofs.Search.Denotation
import Mathlib.Tactic.Choose

/-!
# Scope trees as boolean formulas

Unfolding the operators from a name on gives a boolean formula whose leaves are scopes.  An
identifier is among the hits of the name just if the formula holds where a scope is read as "the
identifier is among the hits of the scope".  This needs that every operator has an operand, as all
operators of a decoded tree have: no identifier satisfies an operator without operands, but an empty
conjunction holds.

Hits are cut off at the very end, so a smaller limit keeps the first hits of a larger one.

Main statements: `mem_iff_of_denotes`, `resolve_of_reaches`, `resolved_iff_formula_holds`.
-/
set_option autoImplicit false
namespace EntitySearch

inductive Formula where
  | leaf (scope : Scope)
  | node (combinator : Combinator) (parts : List Formula)

namespace Formula

mutual
def holds (truth : Scope → Bool) : Formula → Bool
  | leaf scope => truth scope
  | node .and parts => allHold truth parts
  | node .or parts => oneHolds truth parts

def allHold (truth : Scope → Bool) : List Formula → Bool
  | [] => true
  | part :: rest => part.holds truth && allHold truth rest

def oneHolds (truth : Scope → Bool) : List Formula → Bool
  | [] => false
  | part :: rest => part.holds truth || oneHolds truth rest
end

variable {truth : Scope → Bool}

theorem allHold_eq_true {parts : List Formula} :
    allHold truth parts = true ↔ ∀ part ∈ parts, part.holds truth = true := by
  induction parts with
  | nil => simp [allHold]
  | cons part rest ih => simp [allHold, ih]

theorem oneHolds_eq_true {parts : List Formula} :
    oneHolds truth parts = true ↔ ∃ part ∈ parts, part.holds truth = true := by
  induction parts with
  | nil => simp [oneHolds]
  | cons part rest ih => simp [oneHolds, ih]

end Formula

namespace Entry

theorem operands_of_read {key value name : String} {operator : Operator}
    (read : Entry.read key value = .ok (.operator name operator)) :
    2 ≤ operator.operands.length := by
  cases read_eq_ok_iff.1 read with
  | operator defines => exact defines.enough

end Entry

namespace QueryTree

def Manned (tree : QueryTree) : Prop :=
  ∀ name operator, tree.operators.get? name = some operator → operator.operands ≠ []

theorem manned_add {tree : QueryTree} (manned : tree.Manned) (matchAll : Bool) {entry : Entry}
    (enough : ∀ name operator, entry = .operator name operator → operator.operands ≠ []) :
    (add matchAll tree entry).Manned := by
  cases entry with
  | result name => exact manned
  | operator added definition =>
      intro name operator stored
      change (tree.operators.insert added definition).get? name = some operator at stored
      rw [SortedMap.get?_insert] at stored
      split at stored
      · cases stored
        exact enough added definition rfl
      · exact manned name operator stored
  | matchAll scope value flag => exact manned
  | field scope name value => exact manned
  | malformed key => exact manned

theorem manned_foldl_add {tree : QueryTree} (manned : tree.Manned) (matchAll : Bool)
    {entries : List Entry}
    (enough : ∀ name operator, Entry.operator name operator ∈ entries →
      operator.operands ≠ []) :
    (entries.foldl (add matchAll) tree).Manned := by
  induction entries generalizing tree with
  | nil => exact manned
  | cons entry rest ih =>
      have first : (add matchAll tree entry).Manned := by
        refine manned_add manned matchAll ?_
        rintro name operator rfl
        exact enough name operator (List.mem_cons_self ..)
      refine ih first ?_
      intro name operator later
      exact enough name operator (List.mem_cons_of_mem _ later)

theorem manned_of_decode {request : Request} {matchAll : Bool} {tree : QueryTree}
    (decoded : decode request matchAll = .ok tree) : tree.Manned := by
  obtain ⟨entries, read, rfl⟩ := map_eq_ok decoded
  refine manned_foldl_add ?_ matchAll ?_
  · intro name operator stored
    cases stored
  · intro name operator member empty
    obtain ⟨⟨key, value⟩, -, isRead⟩ := (mem_of_mapM_eq_ok read).1 member
    have two := Entry.operands_of_read isRead
    rw [empty] at two
    simp at two

/-! ## Unfolding -/

/-- The formula that a name of a tree unfolds to. -/
inductive Unfolds (tree : QueryTree) : String → Formula → Prop where
  | scope {name : String} {scope : Scope} (found : tree.scopes.get? name = some scope) :
      Unfolds tree name (.leaf scope)
  | operator {name : String} {operator : Operator} (parts : String → Formula)
      (stands : tree.operator? name = some operator)
      (operands : ∀ operand ∈ operator.operands, Unfolds tree operand (parts operand)) :
      Unfolds tree name (.node operator.combinator (operator.operands.map parts))

variable {tree : QueryTree} {leaf : Scope → Hits} {name : String}

theorem Unfolds.unique {formula other : Formula} (unfolds : tree.Unfolds name formula)
    (also : tree.Unfolds name other) : other = formula := by
  induction unfolds generalizing other with
  | scope found =>
      cases also with
      | scope found' =>
          rw [found] at found'
          cases found'
          rfl
      | operator _ stands _ =>
          rw [operator?_of_scope found] at stands
          cases stands
  | operator parts stands _ ih =>
      cases also with
      | scope found' =>
          rw [operator?_of_scope found'] at stands
          cases stands
      | operator parts' stands' operands' =>
          rw [stands] at stands'
          cases stands'
          congr 1
          exact List.map_congr_left fun operand member => ih operand member (operands' operand member)

theorem operands_of_manned (manned : tree.Manned) {operator : Operator}
    (stands : tree.operator? name = some operator) : operator.operands ≠ [] := by
  unfold operator? at stands
  split at stands
  · cases stands
  · exact manned name operator stands

theorem merge_or (lists : List (List Nat)) : Combinator.or.merge lists = distinct lists.flatten := by
  cases lists with
  | nil => rfl
  | cons first rest => rfl

theorem mem_merge_iff (combinator : Combinator) {operands : List String} (some : operands ≠ [])
    (lists : String → List Nat) (id : Nat) :
    id ∈ combinator.merge (operands.map lists) ↔
      match combinator with
      | .and => ∀ operand ∈ operands, id ∈ lists operand
      | .or => ∃ operand ∈ operands, id ∈ lists operand := by
  cases combinator with
  | and =>
      cases operands with
      | nil => exact absurd rfl some
      | cons first rest =>
          change id ∈ (lists first).filter _ ↔ _
          simp [List.mem_filter]
  | or =>
      rw [merge_or]
      simp

/-- A name unfolds to a formula that holds for the members of what the name denotes. -/
theorem mem_iff_of_denotes (manned : tree.Manned) {list : List Nat}
    (denotes : tree.Denotes (fun scope => (leaf scope).ids) name list) :
    ∃ formula, tree.Unfolds name formula ∧
      ∀ id, id ∈ list ↔ formula.holds (fun scope => (leaf scope).contains id) = true := by
  induction denotes with
  | @scope name scope found =>
      refine ⟨.leaf scope, .scope found, ?_⟩
      intro id
      simp [Formula.holds, Hits.contains]
  | @operator name operator lists stands _ ih =>
      -- Operands may be repeated, so the formulas are chosen for names, not for places.
      have each : ∀ operand, ∃ formula, operand ∈ operator.operands →
          tree.Unfolds operand formula ∧ ∀ id, id ∈ lists operand ↔
            formula.holds (fun scope => (leaf scope).contains id) = true := by
        intro operand
        by_cases member : operand ∈ operator.operands
        · obtain ⟨formula, found⟩ := ih operand member
          exact ⟨formula, fun _ => found⟩
        · exact ⟨.node .or [], fun isMember => absurd isMember member⟩
      choose parts found using each
      refine ⟨.node operator.combinator (operator.operands.map parts), ?_, ?_⟩
      · exact .operator parts stands fun operand member => (found operand member).1
      · intro id
        have same : ∀ operand ∈ operator.operands, id ∈ lists operand ↔
            (parts operand).holds (fun scope => (leaf scope).contains id) = true :=
          fun operand member => (found operand member).2 id
        rw [mem_merge_iff operator.combinator (operands_of_manned manned stands)]
        cases operator.combinator with
        | and =>
            rw [Formula.holds, Formula.allHold_eq_true, List.forall_mem_map]
            exact forall₂_congr same
        | or =>
            rw [Formula.holds, Formula.oneHolds_eq_true]
            simp only [List.mem_map, exists_exists_and_eq_and]
            exact exists_congr fun operand => and_congr_right (same operand)

theorem chain_of_reaches {reached : String} (reaches : tree.Reaches name reached)
    {chain : List String} (isChain : tree.Chain reached chain) :
    ∃ above, tree.Chain name (above ++ chain) := by
  induction reaches using Relation.ReflTransGen.head_induction_on with
  | refl => exact ⟨[], isChain⟩
  | @head start operand below _ ih =>
      obtain ⟨above, longer⟩ := ih
      exact ⟨start :: above, .cons below longer⟩

theorem WellFormed.of_reaches {limit : Nat} (fine : tree.WellFormed limit name) {reached : String}
    (reaches : tree.Reaches name reached) : tree.WellFormed limit reached := by
  refine ⟨?_, ?_, ?_⟩
  · intro other further
    exact fine.meaningful other (Relation.ReflTransGen.trans reaches further)
  · intro chain isChain
    obtain ⟨above, longer⟩ := chain_of_reaches reaches isChain
    exact (List.nodup_append.1 (fine.acyclic _ longer)).2.1
  · intro chain isChain
    obtain ⟨above, longer⟩ := chain_of_reaches reaches isChain
    have short := fine.shallow _ longer
    rw [List.length_append] at short
    omega

theorem resolve_answering_ok_iff {limit : Nat} :
    (∃ hits, (tree.resolve (answering leaf) limit name ()).1 = .ok hits) ↔
      tree.WellFormed limit name := by
  have answers : ∀ scope (s : Unit), True →
      ∃ hits after, answering leaf scope s = (.ok hits, after) ∧ True := by
    intro scope s _
    exact ⟨leaf scope, s, rfl, trivial⟩
  exact resolve_ok_iff answers tree limit name trivial

/-- Whatever is met below a name that resolves resolves itself. -/
theorem resolve_of_reaches {limit : Nat} {hits : Hits}
    (resolved : (tree.resolve (answering leaf) limit name ()).1 = .ok hits) {reached : String}
    (reaches : tree.Reaches name reached) :
    ∃ part, (tree.resolve (answering leaf) limit reached ()).1 = .ok part := by
  have fine : tree.WellFormed limit name := resolve_answering_ok_iff.1 ⟨hits, resolved⟩
  exact resolve_answering_ok_iff.2 (fine.of_reaches reaches)

theorem resolve_operator {limit : Nat} {whole : Hits}
    (resolved : (tree.resolve (answering leaf) limit name ()).1 = .ok whole) {operator : Operator}
    (stands : tree.operator? name = some operator) :
    ∃ parts : String → Hits,
      (∀ operand ∈ operator.operands,
        (tree.resolve (answering leaf) limit operand ()).1 = .ok (parts operand)) ∧
      whole.ids =
        operator.combinator.merge (operator.operands.map fun operand => (parts operand).ids) := by
  have each : ∀ operand, ∃ part, operand ∈ operator.operands →
      (tree.resolve (answering leaf) limit operand ()).1 = .ok part := by
    intro operand
    by_cases member : operand ∈ operator.operands
    · obtain ⟨part, found⟩ := resolve_of_reaches resolved (.single ⟨operator, stands, member⟩)
      exact ⟨part, fun _ => found⟩
    · exact ⟨Hits.none, fun isMember => absurd isMember member⟩
  choose parts found using each
  refine ⟨parts, found, ?_⟩
  have operands : ∀ operand ∈ operator.operands,
      tree.Denotes (fun scope => (leaf scope).ids) operand (parts operand).ids :=
    fun operand member => denotes_of_resolveBelow (found operand member)
  have built := Denotes.operator (fun operand => (parts operand).ids) stands operands
  exact built.unique (denotes_of_resolveBelow resolved)

end QueryTree

/-! ## Limits -/

namespace Engine
variable {σ : Type}

def answerBy (engine : Engine) (answer : EntityType → String → QueryTree.Answering σ)
    (search : Search) (s : σ) : Except SearchError Hits :=
  match engine.registry.get search.typeName with
  | .error e => .error e
  | .ok type =>
    if search.request.isEmpty then .ok Hits.none
    else match QueryTree.decode search.request search.matchAll with
      | .error e => .error e
      | .ok tree =>
        engine.concluded type search.actor
          (tree.resolve (answer type search.actor) engine.config.maxScopeDepth tree.resultScope s).1

theorem answer_search_eq_answerBy (engine : Engine) (search : Search) (now : Nat)
    (index : SearchIndex) :
    (engine.search search now index).answer =
      engine.answerBy (fun type actor => engine.evaluator.answer type actor now) search index := by
  unfold answerBy
  cases registered : engine.registry.get search.typeName with
  | error e =>
      unfold Engine.search
      rw [registered]
  | ok type => exact answer_search_of_get registered

def limited (engine : Engine) (maxResults : Nat) : Engine :=
  { engine with config := { engine.config with maxResults } }

theorem concluded_limited (engine : Engine) {m n : Nat} (less : m ≤ n) (type : EntityType)
    (actor : String) (resolved : Except SearchError Hits) :
    (engine.limited m).concluded type actor resolved =
      ((engine.limited n).concluded type actor resolved).map (Hits.take m) := by
  cases resolved with
  | ok hits =>
      refine congrArg Except.ok (Hits.eq_of_ids ?_)
      change List.take m _ = List.take m (List.take n _)
      rw [List.take_take, Nat.min_eq_left less]
      rfl
  | error e =>
      unfold concluded
      dsimp only
      change (if e.isBackendUnavailable && !engine.config.strict then _ else _) =
        (if e.isBackendUnavailable && !engine.config.strict then _ else _ : Except _ _).map _
      split
      · refine congrArg Except.ok (Hits.eq_of_ids ?_)
        simp [Hits.none, Hits.take]
      · rfl

/-- A smaller limit keeps the first hits of a larger one. -/
theorem answerBy_limited (engine : Engine) {m n : Nat} (less : m ≤ n)
    (answer : EntityType → String → QueryTree.Answering σ) (search : Search) (s : σ) :
    (engine.limited m).answerBy answer search s =
      ((engine.limited n).answerBy answer search s).map (Hits.take m) := by
  unfold answerBy
  change (match engine.registry.get search.typeName with | .error e => _ | .ok type => _) =
    (match engine.registry.get search.typeName with | .error e => _ | .ok type => _ :
      Except SearchError Hits).map _
  cases engine.registry.get search.typeName with
  | error e => rfl
  | ok type =>
      dsimp only
      split
      · refine congrArg Except.ok (Hits.eq_of_ids ?_)
        simp [Hits.none, Hits.take]
      · cases QueryTree.decode search.request search.matchAll with
        | error e => rfl
        | ok tree => exact concluded_limited engine less type search.actor _

end Engine

namespace QueryTree

/-- Whatever answers the scopes of a decoded tree, a name that resolves has the identifiers for
which its formula holds, each once and in the order that its operators give; and a search with a
smaller limit answers the first hits of a search with a larger one. -/
theorem resolved_iff_formula_holds {request : Request} {matchAll : Bool} {tree : QueryTree}
    (decoded : decode request matchAll = .ok tree) (leaf : Scope → Hits) (limit : Nat)
    (name : String) {hits : Hits}
    (resolved : (tree.resolve (answering leaf) limit name ()).1 = .ok hits) :
    hits.ids.Nodup ∧
    (∃ formula, tree.Unfolds name formula ∧ (∀ other, tree.Unfolds name other → other = formula) ∧
      ∀ id, id ∈ hits.ids ↔ formula.holds (fun scope => (leaf scope).contains id) = true) ∧
    (∀ reached operator, tree.Reaches name reached → tree.operator? reached = some operator →
      ∃ (whole : Hits) (parts : String → Hits),
        (tree.resolve (answering leaf) limit reached ()).1 = .ok whole ∧
        (∀ operand ∈ operator.operands,
          (tree.resolve (answering leaf) limit operand ()).1 = .ok (parts operand)) ∧
        (operator.combinator = .and → ∃ first rest, operator.operands = first :: rest ∧
          whole.ids = (parts first).ids.filter fun id =>
            rest.all fun operand => (parts operand).contains id) ∧
        (operator.combinator = .or →
          whole.ids = distinct (operator.operands.flatMap fun operand => (parts operand).ids))) ∧
    ∀ (engine : Engine) (search : Search) (m n : Nat), m ≤ n →
      (∀ (σ : Type) (answer : EntityType → String → Answering σ) (s : σ),
        (engine.limited m).answerBy answer search s =
          ((engine.limited n).answerBy answer search s).map (Hits.take m)) ∧
      ∀ now index, ((engine.limited m).search search now index).answer =
        ((engine.limited n).search search now index).answer.map (Hits.take m) := by
  have manned := manned_of_decode decoded
  refine ⟨hits.nodup, ?_, ?_, ?_⟩
  · obtain ⟨formula, unfolds, iff⟩ := mem_iff_of_denotes manned (denotes_of_resolveBelow resolved)
    exact ⟨formula, unfolds, fun other => unfolds.unique, iff⟩
  · intro reached operator reaches stands
    obtain ⟨whole, found⟩ := resolve_of_reaches resolved reaches
    obtain ⟨parts, each, merged⟩ := resolve_operator found stands
    have someOperand := operands_of_manned manned stands
    refine ⟨whole, parts, found, each, ?_, ?_⟩
    · intro isAnd
      cases operands : operator.operands with
      | nil => exact absurd operands someOperand
      | cons first rest =>
          refine ⟨first, rest, rfl, ?_⟩
          rw [merged, isAnd, operands]
          refine List.filter_congr ?_
          intro id _
          simp [Hits.contains, Function.comp_def]
    · intro isOr
      rw [merged, isOr, merge_or, List.flatMap_def]
  · intro engine search m n less
    refine ⟨fun σ answer s => Engine.answerBy_limited engine less answer search s, ?_⟩
    intro now index
    rw [Engine.answer_search_eq_answerBy, Engine.answer_search_eq_answerBy]
    exact Engine.answerBy_limited engine less _ search index

def titled (scope : Scope) : Hits :=
  if scope.fields.get? "title" = some "logic" then ⟨[3, 1], by decide⟩ else ⟨[2, 3], by decide⟩

theorem diamond_reads_formula :
    ∃ hits, (diamond.resolve (answering titled) 3 "R" ()).1 = .ok hits ∧ hits.ids = [3, 2] ∧
      ∃ formula, diamond.Unfolds "R" formula ∧
        ∀ id, id ∈ hits.ids ↔ formula.holds (fun scope => (titled scope).contains id) = true := by
  have decoded : decode [("__A__title", "logic"), ("__B__title", "sets"), ("__op__A_B", "or=X"),
      ("__op__X_B", "and=Y"), ("__op__Y_X", "and=R"), ("__op__Z_Q", "or=Z"), ("__result", "R")]
      false = .ok diamond := by decide +kernel
  have resolved : (diamond.resolve (answering titled) 3 "R" ()).1 = .ok ⟨[3, 2], by decide⟩ := by
    decide +kernel
  obtain ⟨-, ⟨formula, unfolds, -, iff⟩, -, -⟩ :=
    resolved_iff_formula_holds decoded titled 3 "R" resolved
  exact ⟨_, resolved, rfl, formula, unfolds, iff⟩

end QueryTree
end EntitySearch
