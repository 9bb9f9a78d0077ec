import EntitySearch.Proofs.Data.Fallible
import EntitySearch.Codec.Query

/-!
# The grammar of request entries

A key without the marker is a field of the default scope.  A marked key names a scope and a field of
it, unless it begins as the keys of operators do.  Keys can hold the marker more than once: the scope
ends at the first one, and as a scope holds no underscore, a key is for one field at most.

`Targets` and `Defines` are these rules, and `Means` says what an entry means by them.

Main statements: `read_eq_ok_iff`, `read_error_iff`.
-/
set_option autoImplicit false
namespace EntitySearch
namespace Entry

def scopedKey (scope name : String) : String := "__" ++ scope ++ "__" ++ name

inductive Targets : String → String → String → Prop
  | bare {key : String} (plain : ¬ marker <+: key.toList) : Targets key defaultScope key
  | marked {scope name : String} (isScope : scope ≠ "" ∧ '_' ∉ scope.toList) (isField : name ≠ "")
      (noOperator : ¬ operatorMarker <+: (scopedKey scope name).toList) :
      Targets (scopedKey scope name) scope name

structure Defines (key value name : String) (operator : Operator) : Prop where
  key_eq : key = "__op__" ++ String.intercalate "_" operator.operands
  enough : 2 ≤ operator.operands.length
  operands : ∀ operand ∈ operator.operands, operand ≠ "" ∧ '_' ∉ operand.toList
  value_eq : ∃ word rest, value = word ++ "=" ++ rest ∧ '=' ∉ word.toList ∧
    plainWord word = operator.combinator.word ∧ trimmedValue rest = name
  named : name ≠ ""

def Malformed (key value : String) : Prop :=
  operatorMarker <+: key.toList ∧ ∀ name operator, ¬ Defines key value name operator

/-- What a key with its value means. -/
inductive Means (key value : String) : Entry → Prop
  | result {name : String} (isResult : key = resultKey) (trimmed : trimmedValue value = name) :
      Means key value (.result name)
  | operator {name : String} {operator : Operator} (defines : Defines key value name operator) :
      Means key value (.operator name operator)
  | flag {scope : String} {flag : Option Bool} (targets : Targets key scope matchAllKey)
      (isFlag : flag? value = flag) : Means key value (.matchAll scope value flag)
  | field {scope name : String} (targets : Targets key scope name) (isField : name ≠ matchAllKey) :
      Means key value (.field scope name value)
  | leftOut (noResult : key ≠ resultKey) (noOperator : ¬ operatorMarker <+: key.toList)
      (noTarget : ∀ scope name, ¬ Targets key scope name) : Means key value (.malformed key)

theorem toList_scopedKey (scope name : String) :
    (scopedKey scope name).toList = '_' :: '_' :: (scope.toList ++ '_' :: ('_' :: name.toList)) := by
  simp [scopedKey, String.toList_append]

theorem marked_of_operatorMarker {cs : List Char} (isOperator : operatorMarker <+: cs) :
    marker <+: cs :=
  List.IsPrefix.trans ⟨['o', 'p', '_', '_'], rfl⟩ isOperator

theorem not_operatorMarker_resultKey : ¬ operatorMarker <+: resultKey.toList := by decide

theorem cut?_marker_resultKey : Text.cut? marker (resultKey.toList.drop marker.length) = none := by
  decide

theorem cut?_scopedKey {scope : String} (clear : '_' ∉ scope.toList) (name : String) :
    Text.cut? marker ((scopedKey scope name).toList.drop marker.length) =
      some (scope.toList, name.toList) := by
  rw [toList_scopedKey]
  exact Text.cut?_of_not_mem clear ['_'] name.toList

theorem isScopeId_iff {scope : String} :
    isScopeId scope.toList = true ↔ scope ≠ "" ∧ '_' ∉ scope.toList := by
  simp [isScopeId]

theorem read_of_targets {key scope name : String} (targets : Targets key scope name)
    (value : String) : read key value = .ok (ofField scope name value) := by
  cases targets with
  | bare plain =>
      have noResult : key ≠ resultKey := by
        rintro rfl
        exact plain (by decide)
      have noOperator : ¬ operatorMarker <+: key.toList :=
        fun isOperator => plain (marked_of_operatorMarker isOperator)
      simp [read, noResult, noOperator, plain]
  | marked isScope isField noOperator =>
      have cut := cut?_scopedKey isScope.2 name
      -- The result's key begins with the marker as well, but the marker does not come again.
      have noResult : scopedKey scope name ≠ resultKey := by
        intro same
        rw [same, cut?_marker_resultKey] at cut
        cases cut
      have isMarked : marker <+: (scopedKey scope name).toList := by
        rw [toList_scopedKey]
        exact ⟨_, rfl⟩
      have fits : (isScopeId scope.toList && !name.toList.isEmpty) = true := by
        rw [isScopeId_iff.2 isScope]
        simpa using isField
      simp only [read, if_neg noResult, List.isPrefixOf_iff_prefix, if_neg noOperator, if_pos isMarked,
        cut, fits, if_true, String.ofList_toList]

theorem targets_or_leftOut {key : String} (noResult : key ≠ resultKey)
    (noOperator : ¬ operatorMarker <+: key.toList) (value : String) :
    (∃ scope name, Targets key scope name) ∨ read key value = .ok (.malformed key) := by
  by_cases isMarked : marker <+: key.toList
  · obtain ⟨rest, whole⟩ := id isMarked
    have dropped : key.toList.drop marker.length = rest := by
      rw [← whole, List.drop_left]
    cases cut : Text.cut? marker rest with
    | none =>
        refine Or.inr ?_
        simp only [read, if_neg noResult, List.isPrefixOf_iff_prefix, if_neg noOperator,
          if_pos isMarked, dropped, cut]
    | some parts =>
        obtain ⟨scope, name⟩ := parts
        by_cases fits : (isScopeId scope && !name.isEmpty) = true
        · have key_eq : key = scopedKey (String.ofList scope) (String.ofList name) := by
            rw [← String.toList_inj, toList_scopedKey, ← whole, Text.append_of_cut? cut]
            simp [marker]
          rw [Bool.and_eq_true] at fits
          have isScope := isScopeId_iff.1 ((String.toList_ofList (l := scope)).symm ▸ fits.1)
          refine Or.inl ⟨String.ofList scope, String.ofList name, ?_⟩
          rw [key_eq] at noOperator ⊢
          refine .marked isScope ?_ noOperator
          intro empty
          rw [← String.toList_inj, String.toList_ofList] at empty
          simp [empty] at fits
        · refine Or.inr ?_
          simp only [read, if_neg noResult, List.isPrefixOf_iff_prefix, if_neg noOperator,
            if_pos isMarked, dropped, cut, if_neg fits]
  · exact Or.inl ⟨defaultScope, key, .bare isMarked⟩

theorem ofField_ne_malformed (scope name value key : String) :
    ofField scope name value ≠ .malformed key := by
  unfold ofField
  split <;> exact Entry.noConfusion

/-- A key that is neither the result's nor an operator's is for a field, or it is left out. -/
theorem targets_or_malformed {key : String} (noResult : key ≠ resultKey)
    (noOperator : ¬ operatorMarker <+: key.toList) (value : String) :
    (∃ scope name, Targets key scope name) ∨
      (read key value = .ok (.malformed key) ∧ ∀ scope name, ¬ Targets key scope name) := by
  refine (targets_or_leftOut noResult noOperator value).imp_right fun leftOut => ⟨leftOut, ?_⟩
  intro scope name targets
  have same := Except.ok.inj ((read_of_targets targets value).symm.trans leftOut)
  exact ofField_ne_malformed scope name value key same

theorem combinator_eq_ok_iff {word : String} {how : Combinator} :
    combinator word = .ok how ↔ plainWord word = how.word := by
  unfold combinator
  dsimp only
  cases how with
  | and =>
      split
      · next isAnd => simp [isAnd, Combinator.word]
      · next notAnd => split <;> simp [notAnd, Combinator.word]
  | or =>
      split
      · next isAnd => simp [isAnd, Combinator.word]
      · next notAnd => split <;> simp_all [Combinator.word]

/-- What is read of an operator's key without its marker, and its value: the pieces of the key, of
which there are two at least and none is empty, and both sides of the first equals sign. -/
theorem readOperator_eq_ok {definition : List Char} {value : String} {entry : Entry}
    (made : readOperator definition value = .ok entry) :
    ∃ word rest how, Text.cut? ['='] value.toList = some (word, rest) ∧
      combinator (String.ofList word) = .ok how ∧ Text.trim rest ≠ [] ∧
      2 ≤ (Text.splitOn '_' definition).length ∧ [] ∉ Text.splitOn '_' definition ∧
      entry = .operator (String.ofList (Text.trim rest))
        ⟨(Text.splitOn '_' definition).map String.ofList, how⟩ := by
  unfold readOperator at made
  obtain ⟨enough, made⟩ := guard_eq_ok made
  rw [Bool.or_eq_true, decide_eq_true_eq, not_or] at enough
  cases cut : Text.cut? ['='] value.toList with
  | none =>
      rw [cut] at made
      cases made
  | some parts =>
      obtain ⟨word, rest⟩ := parts
      rw [cut] at made
      obtain ⟨filled, made⟩ := guard_eq_ok made
      obtain ⟨how, combined, made⟩ := bind_eq_ok made
      cases made
      refine ⟨word, rest, how, rfl, combined, ?_, Nat.le_of_not_lt enough.1, ?_, rfl⟩
      · exact fun empty => filled (List.isEmpty_iff.2 empty)
      · exact fun member => enough.2 (List.any_eq_true.2 ⟨[], member, rfl⟩)

theorem ofList_ne_empty {cs : List Char} (filled : cs ≠ []) : String.ofList cs ≠ "" := by
  intro empty
  rw [← String.toList_inj, String.toList_ofList] at empty
  exact filled empty

theorem read_of_operatorMarker {key : String} (isOperator : operatorMarker <+: key.toList)
    (value : String) :
    read key value = readOperator (key.toList.drop operatorMarker.length) value := by
  have noResult : key ≠ resultKey := by
    rintro rfl
    exact not_operatorMarker_resultKey isOperator
  simp only [read, if_neg noResult, List.isPrefixOf_iff_prefix, if_pos isOperator]

theorem toList_operatorKey (operands : List String) :
    ("__op__" ++ String.intercalate "_" operands).toList =
      operatorMarker ++ ['_'].intercalate (operands.map String.toList) := by
  simp [String.toList_append, operatorMarker]

theorem defines_of_read {key value : String} {entry : Entry}
    (isOperator : operatorMarker <+: key.toList) (success : read key value = .ok entry) :
    ∃ name operator, entry = .operator name operator ∧ Defines key value name operator := by
  rw [read_of_operatorMarker isOperator] at success
  obtain ⟨definition, whole⟩ := isOperator
  rw [← whole, List.drop_left] at success
  obtain ⟨word, rest, how, cut, combined, filled, enough, full, rfl⟩ := readOperator_eq_ok success
  refine ⟨_, _, rfl, ?_, by simpa using enough, ?_, ?_, ofList_ne_empty filled⟩
  · rw [← String.toList_inj, toList_operatorKey, ← whole, List.map_map]
    simp [Text.splitOn_eq, Function.comp_def, List.intercalate_splitOn]
  · intro operand member
    obtain ⟨piece, isPiece, rfl⟩ := List.mem_map.1 member
    refine ⟨ofList_ne_empty ?_, String.toList_ofList ▸ Text.not_mem_of_mem_splitOn isPiece⟩
    rintro rfl
    exact full isPiece
  · refine ⟨String.ofList word, String.ofList rest, ?_, ?_, combinator_eq_ok_iff.1 combined,
      by simp [trimmedValue]⟩
    · rw [← String.toList_inj, Text.append_of_cut? cut]
      simp [String.toList_append]
    · rw [String.toList_ofList]
      exact Text.not_mem_of_cut? cut

theorem read_of_defines {key value name : String} {operator : Operator}
    (defines : Defines key value name operator) :
    read key value = .ok (.operator name operator) := by
  obtain ⟨rfl, enough, operands, ⟨word, rest, rfl, clear, how, rfl⟩, named⟩ := defines
  have isOperator := toList_operatorKey operator.operands
  rw [read_of_operatorMarker ⟨_, isOperator.symm⟩, isOperator, List.drop_left]
  have pieces : Text.splitOn '_' (['_'].intercalate (operator.operands.map String.toList)) =
      operator.operands.map String.toList := by
    rw [Text.splitOn_eq]
    refine List.splitOn_intercalate _ ?_ ?_
    · intro piece member
      obtain ⟨operand, isOperand, rfl⟩ := List.mem_map.1 member
      exact (operands operand isOperand).2
    · intro none
      rw [List.map_eq_nil_iff.1 none] at enough
      cases enough
  have few : ((operator.operands.map String.toList).length < 2 ||
      (operator.operands.map String.toList).any List.isEmpty) = false := by
    simp only [List.length_map, Bool.or_eq_false_iff, decide_eq_false_iff_not, List.any_map,
      List.any_eq_false]
    refine ⟨by omega, fun operand member empty => (operands operand member).1 ?_⟩
    simpa using empty
  have cut : Text.cut? ['='] (word ++ "=" ++ rest).toList = some (word.toList, rest.toList) := by
    have found := Text.cut?_of_not_mem clear [] rest.toList
    simpa [String.toList_append] using found
  have filled : (Text.trim rest.toList).isEmpty = false := by
    rw [← Bool.not_eq_true, List.isEmpty_iff]
    intro empty
    exact named (by simp [trimmedValue, empty])
  have combined := combinator_eq_ok_iff.2 how
  unfold readOperator
  simp only [pieces, few, cut, filled, String.ofList_toList, combined, bind, Except.bind, pure,
    Except.pure, Bool.false_eq_true, if_false]
  simp [trimmedValue, Function.comp_def]

/-! ## Reading -/

theorem read_eq_ok_iff {key value : String} {entry : Entry} :
    read key value = .ok entry ↔ Means key value entry := by
  constructor
  · intro success
    by_cases isResult : key = resultKey
    · cases (if_pos isResult).symm.trans success
      exact .result isResult rfl
    · by_cases isOperator : operatorMarker <+: key.toList
      · obtain ⟨name, operator, rfl, defines⟩ := defines_of_read isOperator success
        exact .operator defines
      · rcases targets_or_malformed isResult isOperator value with ⟨scope, name, targets⟩ | leftOut
        · cases (read_of_targets targets value).symm.trans success
          unfold ofField
          split
          · next isFlag =>
            subst isFlag
            exact .flag targets rfl
          · next isField => exact .field targets isField
        · cases leftOut.1.symm.trans success
          exact .leftOut isResult isOperator leftOut.2
  · intro means
    cases means with
    | result isResult trimmed => exact (if_pos isResult).trans (by rw [trimmed])
    | operator defines => exact read_of_defines defines
    | flag targets isFlag =>
        rw [read_of_targets targets, ofField, if_pos rfl, isFlag]
    | field targets isField =>
        rw [read_of_targets targets, ofField, if_neg isField]
    | leftOut noResult noOperator noTarget =>
        rcases targets_or_malformed noResult noOperator value with ⟨scope, name, targets⟩ | leftOut
        · exact absurd targets (noTarget scope name)
        · exact leftOut.1

/-- Reading fails just for the keys of operators that define none. -/
theorem read_error_iff {key value : String} :
    (∃ e, read key value = .error e) ↔ Malformed key value := by
  constructor
  · rintro ⟨e, failed⟩
    -- Whatever is no operator's key is read, so the key must be one.
    have unread : ∀ entry, ¬ Means key value entry := by
      intro entry means
      cases (read_eq_ok_iff.2 means).symm.trans failed
    refine ⟨?_, fun name operator defines => unread _ (.operator defines)⟩
    refine Classical.byContradiction fun noOperator => ?_
    by_cases isResult : key = resultKey
    · exact unread _ (.result isResult rfl)
    · rcases targets_or_malformed isResult noOperator value with ⟨scope, name, targets⟩ | leftOut
      · cases (read_of_targets targets value).symm.trans failed
      · cases leftOut.1.symm.trans failed
  · rintro ⟨isOperator, noDefinition⟩
    cases made : read key value with
    | error e => exact ⟨e, rfl⟩
    | ok entry =>
        obtain ⟨name, operator, -, defines⟩ := defines_of_read isOperator made
        exact absurd defines (noDefinition name operator)

end Entry
end EntitySearch
