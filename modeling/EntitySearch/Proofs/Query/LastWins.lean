import EntitySearch.Proofs.Query.Grammar
import Mathlib.Data.List.Induction

/-!
# The last entry for a target wins

Decoding puts the entries of a request into the tree one by one.  What comes out is a matter of
what is told last: `LastTold` is that a member of a list tells a thing and none after it says
anything of the kind, and `Reads` describes the tree of a request in these terms.  Only the entries
for one target have an order that matters.

Main statement: `decode_last_wins`.
-/
set_option autoImplicit false
namespace EntitySearch

attribute [ext] Scope QueryTree

/-- Of all that the members of a list tell, `b` is told last. -/
def LastTold {α β : Type} (tells : α → β → Prop) (l : List α) (b : β) : Prop :=
  ∃ before a after, l = before ++ a :: after ∧ tells a b ∧ ∀ later ∈ after, ∀ c, ¬ tells later c

def LastToldOr {α β : Type} (tells : α → β → Prop) (fallback : β) (l : List α) (b : β) : Prop :=
  LastTold tells l b ∨ (b = fallback ∧ ∀ a ∈ l, ∀ c, ¬ tells a c)

section Last
variable {α β : Type} {tells : α → β → Prop}

theorem not_lastTold_nil (b : β) : ¬ LastTold tells [] b := by
  rintro ⟨before, a, after, split, -⟩
  simp at split

theorem lastTold_snoc {l : List α} {a : α} {b : β} :
    LastTold tells (l ++ [a]) b ↔ tells a b ∨ ((∀ c, ¬ tells a c) ∧ LastTold tells l b) := by
  constructor
  · rintro ⟨before, x, after, split, told, silent⟩
    cases after using List.reverseRecOn with
    | nil =>
        obtain ⟨-, same⟩ := List.append_inj' split rfl
        cases same
        exact .inl told
    | append_singleton after y =>
        rw [← List.cons_append, ← List.append_assoc] at split
        obtain ⟨rfl, same⟩ := List.append_inj' split rfl
        cases same
        refine .inr ⟨silent a (by simp), before, x, after, rfl, told, fun later member => ?_⟩
        exact silent later (List.mem_append_left _ member)
  · rintro (told | ⟨silent, before, x, after, rfl, told, others⟩)
    · exact ⟨l, a, [], rfl, told, by simp⟩
    · refine ⟨before, x, after ++ [a], by simp, told, ?_⟩
      simpa [or_imp, forall_and] using ⟨others, silent⟩

theorem lastToldOr_snoc {l : List α} {a : α} {b fallback : β} :
    LastToldOr tells fallback (l ++ [a]) b ↔
      tells a b ∨ ((∀ c, ¬ tells a c) ∧ LastToldOr tells fallback l b) := by
  simp only [LastToldOr, lastTold_snoc, List.mem_append, List.mem_singleton, or_imp, forall_and,
    forall_eq]
  tauto

theorem lastTold_filter {p : α → Bool} (heard : ∀ a b, tells a b → p a = true) (l : List α) (b : β) :
    LastTold tells (l.filter p) b ↔ LastTold tells l b := by
  induction l using List.reverseRecOn with
  | nil => rfl
  | append_singleton l a ih =>
      rw [List.filter_append]
      cases kept : p a with
      | true => rw [List.filter_cons_of_pos kept, List.filter_nil, lastTold_snoc, lastTold_snoc, ih]
      | false =>
          have silent : ∀ c, ¬ tells a c := fun c told => by simp [heard a c told] at kept
          simp [kept, lastTold_snoc, ih, silent]

theorem lastToldOr_filter {p : α → Bool} (heard : ∀ a b, tells a b → p a = true) (fallback : β)
    (l : List α) (b : β) :
    LastToldOr tells fallback (l.filter p) b ↔ LastToldOr tells fallback l b := by
  refine or_congr (lastTold_filter heard l b) (and_congr_right fun _ => ?_)
  constructor
  · intro silent a member c told
    exact silent a (List.mem_filter.2 ⟨member, heard a c told⟩) c told
  · intro silent a member
    exact silent a (List.mem_filter.1 member).1

theorem LastTold.unique (single : ∀ a b c, tells a b → tells a c → b = c) {l : List α} {b c : β}
    (told : LastTold tells l b) (also : LastTold tells l c) : b = c := by
  induction l using List.reverseRecOn with
  | nil => exact absurd told (not_lastTold_nil b)
  | append_singleton l a ih =>
      -- The last member tells both or neither.
      rcases lastTold_snoc.1 told with here | ⟨silent, before⟩
      · rcases lastTold_snoc.1 also with here' | ⟨silent, -⟩
        · exact single a b c here here'
        · exact absurd here (silent b)
      · rcases lastTold_snoc.1 also with here' | ⟨-, before'⟩
        · exact absurd here' (silent c)
        · exact ih before before'

theorem LastToldOr.unique (single : ∀ a b c, tells a b → tells a c → b = c) {fallback : β}
    {l : List α} {b c : β} (told : LastToldOr tells fallback l b)
    (also : LastToldOr tells fallback l c) : b = c := by
  have silenced : ∀ d, LastTold tells l d → ¬ ∀ a ∈ l, ∀ c, ¬ tells a c := by
    rintro d ⟨before, a, after, rfl, here, -⟩ silent
    exact silent a (by simp) d here
  rcases told with told | ⟨rfl, silent⟩
  · rcases also with also | ⟨-, silent⟩
    · exact told.unique single also
    · exact absurd silent (silenced b told)
  · rcases also with also | ⟨rfl, -⟩
    · exact absurd silent (silenced c also)
    · rfl

end Last

/-! ## What entries tell -/

namespace Request

def TellsFlag (scope : String) (entry : String × String) (flag : Bool) : Prop :=
  Entry.Targets entry.1 scope Entry.matchAllKey ∧ Entry.flag? entry.2 = some flag

def TellsField (scope name : String) (entry : String × String) (value : String) : Prop :=
  Entry.Targets entry.1 scope name ∧ name ≠ Entry.matchAllKey ∧ entry.2 = value

def TellsOperator (name : String) (entry : String × String) (operator : Operator) : Prop :=
  Entry.Defines entry.1 entry.2 name operator

def TellsResult (entry : String × String) (name : String) : Prop :=
  entry.1 = Entry.resultKey ∧ trimmedValue entry.2 = name

/-- The tree holds what a request tells last, and nothing else. -/
structure Reads (request : Request) (matchAllDefault : Bool) (tree : QueryTree) : Prop where
  scopes : ∀ scope, tree.scopes.contains scope = true ↔
    ∃ entry ∈ request, ∃ name, Entry.Targets entry.1 scope name
  flags : ∀ scope found, tree.scopes.get? scope = some found →
    LastToldOr (TellsFlag scope) matchAllDefault request found.matchAll
  fields : ∀ scope found, tree.scopes.get? scope = some found → ∀ name value,
    found.fields.get? name = some value ↔ LastTold (TellsField scope name) request value
  operators : ∀ name operator,
    tree.operators.get? name = some operator ↔ LastTold (TellsOperator name) request operator
  result : LastToldOr TellsResult "0" request tree.resultScope

/-! An entry tells one thing at most, and that is what is read of it. -/

section Tells
variable {told : String × String} {entry : Entry}

theorem targets_iff (read : Entry.read told.1 told.2 = .ok entry) {scope : String} :
    (∃ name, Entry.Targets told.1 scope name) ↔
      (∃ value flag, entry = .matchAll scope value flag) ∨
        ∃ name value, entry = .field scope name value := by
  constructor
  · rintro ⟨name, targets⟩
    cases read.symm.trans (Entry.read_of_targets targets told.2)
    unfold Entry.ofField
    split
    · exact .inl ⟨_, _, rfl⟩
    · exact .inr ⟨_, _, rfl⟩
  · rintro (⟨value, flag, rfl⟩ | ⟨name, value, rfl⟩)
    · cases Entry.read_eq_ok_iff.1 read with
      | flag targets isFlag => exact ⟨_, targets⟩
    · cases Entry.read_eq_ok_iff.1 read with
      | field targets isField => exact ⟨_, targets⟩

theorem tellsFlag_iff (read : Entry.read told.1 told.2 = .ok entry) {scope : String}
    {flag : Bool} : TellsFlag scope told flag ↔ ∃ value, entry = .matchAll scope value (some flag) := by
  constructor
  · rintro ⟨targets, isFlag⟩
    cases read.symm.trans (Entry.read_eq_ok_iff.2 (.flag targets isFlag))
    exact ⟨_, rfl⟩
  · rintro ⟨value, rfl⟩
    cases Entry.read_eq_ok_iff.1 read with
    | flag targets isFlag => exact ⟨targets, isFlag⟩

theorem tellsField_iff (read : Entry.read told.1 told.2 = .ok entry) {scope name value : String} :
    TellsField scope name told value ↔ entry = .field scope name value := by
  constructor
  · rintro ⟨targets, isField, rfl⟩
    cases read.symm.trans (Entry.read_eq_ok_iff.2 (.field targets isField))
    rfl
  · rintro rfl
    generalize whole : told.2 = given at read
    cases Entry.read_eq_ok_iff.1 read with
    | field targets isField => exact ⟨targets, isField, whole⟩

theorem tellsOperator_iff (read : Entry.read told.1 told.2 = .ok entry) {name : String}
    {operator : Operator} : TellsOperator name told operator ↔ entry = .operator name operator := by
  constructor
  · intro defines
    cases read.symm.trans (Entry.read_eq_ok_iff.2 (.operator defines))
    rfl
  · rintro rfl
    cases Entry.read_eq_ok_iff.1 read with
    | operator defines => exact defines

theorem tellsResult_iff (read : Entry.read told.1 told.2 = .ok entry) {name : String} :
    TellsResult told name ↔ entry = .result name := by
  constructor
  · rintro ⟨isResult, trimmed⟩
    cases read.symm.trans (Entry.read_eq_ok_iff.2 (.result isResult trimmed))
    rfl
  · rintro rfl
    cases Entry.read_eq_ok_iff.1 read with
    | result isResult trimmed => exact ⟨isResult, trimmed⟩

end Tells

end Request

namespace QueryTree
variable {tree : QueryTree} {matchAllDefault : Bool} {entry : Entry}

theorem contains_add {scope : String} :
    (add matchAllDefault tree entry).scopes.contains scope = true ↔
      tree.scopes.contains scope = true ∨ (∃ value flag, entry = .matchAll scope value flag) ∨
        ∃ name value, entry = .field scope name value := by
  cases entry with
  | result name => simp [add]
  | operator name definition => simp [add]
  | matchAll id value flag =>
      by_cases same : scope = id
      · simp [add, SortedMap.contains, SortedMap.get?_insert, same]
      · simp [add, SortedMap.contains, SortedMap.get?_insert, same, Ne.symm same]
  | field id name value =>
      by_cases same : scope = id
      · simp [add, SortedMap.contains, SortedMap.get?_insert, same]
      · simp [add, SortedMap.contains, SortedMap.get?_insert, same, Ne.symm same]
  | malformed key => simp [add]

theorem scopeOr_of_get? {scope : String} {found : Scope}
    (stored : tree.scopes.get? scope = some found) (matchAllDefault : Bool) :
    tree.scopeOr matchAllDefault scope = found := by
  rw [scopeOr, stored, Option.getD_some]

theorem matchAll_add {scope : String} {flag : Bool} :
    ((add matchAllDefault tree entry).scopeOr matchAllDefault scope).matchAll = flag ↔
      (∃ value, entry = .matchAll scope value (some flag)) ∨
        ((∀ other, ¬ ∃ value, entry = .matchAll scope value (some other)) ∧
          (tree.scopeOr matchAllDefault scope).matchAll = flag) := by
  cases entry with
  | result name => simp [add, scopeOr]
  | operator name definition => simp [add, scopeOr]
  | matchAll id value read =>
      by_cases same : scope = id
      · cases read <;> simp [add, scopeOr, SortedMap.get?_insert, same]
      · simp [add, scopeOr, SortedMap.get?_insert, same, Ne.symm same]
  | field id name value =>
      by_cases same : scope = id
      · simp [add, scopeOr, Scope.setField, SortedMap.get?_insert, same]
      · simp [add, scopeOr, SortedMap.get?_insert, same]
  | malformed key => simp [add]

theorem fields_add {scope name value : String} :
    ((add matchAllDefault tree entry).scopeOr matchAllDefault scope).fields.get? name = some value ↔
      entry = .field scope name value ∨
        ((∀ other, entry ≠ .field scope name other) ∧
          (tree.scopeOr matchAllDefault scope).fields.get? name = some value) := by
  cases entry with
  | result name => simp [add, scopeOr]
  | operator name definition => simp [add, scopeOr]
  | matchAll id value read =>
      by_cases same : scope = id
      · simp [add, scopeOr, SortedMap.get?_insert, same]
      · simp [add, scopeOr, SortedMap.get?_insert, same]
  | field id field given =>
      by_cases same : scope = id
      · subst same
        by_cases sameField : name = field
        · simp [add, scopeOr, Scope.setField, SortedMap.get?_insert, sameField]
        · simp [add, scopeOr, Scope.setField, SortedMap.get?_insert, sameField, Ne.symm sameField]
      · simp [add, scopeOr, SortedMap.get?_insert, same, Ne.symm same]
  | malformed key => simp [add]

theorem operators_add {name : String} {operator : Operator} :
    (add matchAllDefault tree entry).operators.get? name = some operator ↔
      entry = .operator name operator ∨
        ((∀ other, entry ≠ .operator name other) ∧ tree.operators.get? name = some operator) := by
  cases entry with
  | result name => simp [add]
  | operator added definition =>
      by_cases same : name = added
      · simp [add, SortedMap.get?_insert, same]
      · simp [add, SortedMap.get?_insert, same, Ne.symm same]
  | matchAll id value read => simp [add]
  | field id field given => simp [add]
  | malformed key => simp [add]

theorem resultScope_add {name : String} :
    (add matchAllDefault tree entry).resultScope = name ↔
      entry = .result name ∨ ((∀ other, entry ≠ .result other) ∧ tree.resultScope = name) := by
  cases entry <;> simp [add]

end QueryTree

/-! ## Reading a request -/

namespace Request
variable {request : Request} {matchAllDefault : Bool} {tree : QueryTree} {scope : String}

namespace Reads

theorem untold (reads : Reads request matchAllDefault tree) (absent : tree.scopes.get? scope = none) :
    ∀ entry ∈ request, ∀ name, ¬ Entry.Targets entry.1 scope name := by
  intro entry member name targets
  have present := (reads.scopes scope).2 ⟨entry, member, name, targets⟩
  simp [SortedMap.contains, absent] at present

theorem matchAll (reads : Reads request matchAllDefault tree) (scope : String) :
    LastToldOr (TellsFlag scope) matchAllDefault request
      (tree.scopeOr matchAllDefault scope).matchAll := by
  cases stored : tree.scopes.get? scope with
  | none =>
      refine .inr ⟨by simp [QueryTree.scopeOr, stored], fun entry member flag told => ?_⟩
      exact reads.untold stored entry member _ told.1
  | some found =>
      rw [QueryTree.scopeOr_of_get? stored]
      exact reads.flags scope found stored

theorem field (reads : Reads request matchAllDefault tree) (scope name value : String) :
    (tree.scopeOr matchAllDefault scope).fields.get? name = some value ↔
      LastTold (TellsField scope name) request value := by
  cases stored : tree.scopes.get? scope with
  | none =>
      constructor
      · intro holds
        simp [QueryTree.scopeOr, stored] at holds
      · rintro ⟨before, entry, after, rfl, told, -⟩
        exact absurd told.1 (reads.untold stored entry (by simp) name)
  | some found =>
      rw [QueryTree.scopeOr_of_get? stored]
      exact reads.fields scope found stored name value

theorem nil (matchAllDefault : Bool) : Reads [] matchAllDefault {} where
  scopes scope := by simp [SortedMap.contains]
  flags scope found stored := by cases stored
  fields scope found stored := by cases stored
  operators name operator := by simp [not_lastTold_nil]
  result := .inr ⟨rfl, by simp⟩

/-- One more entry changes the tree as it changes what is told last. -/
theorem snoc (reads : Reads request matchAllDefault tree) {entry : String × String} {meant : Entry}
    (read : Entry.read entry.1 entry.2 = .ok meant) :
    Reads (request ++ [entry]) matchAllDefault (tree.add matchAllDefault meant) where
  scopes scope := by
    rw [QueryTree.contains_add, reads.scopes, ← targets_iff read]
    simp [or_and_right, exists_or]
  flags scope found stored := by
    rw [← QueryTree.scopeOr_of_get? stored matchAllDefault, lastToldOr_snoc]
    simp only [tellsFlag_iff read]
    have changed : ((tree.add matchAllDefault meant).scopeOr matchAllDefault scope).matchAll = _ := rfl
    rcases QueryTree.matchAll_add.1 changed with told | ⟨silent, kept⟩
    · exact .inl told
    · exact .inr ⟨silent, kept ▸ reads.matchAll scope⟩
  fields scope found stored name value := by
    rw [← QueryTree.scopeOr_of_get? stored matchAllDefault, lastTold_snoc, QueryTree.fields_add,
      reads.field]
    simp only [tellsField_iff read, ne_eq]
  operators name operator := by
    rw [QueryTree.operators_add, reads.operators, lastTold_snoc]
    simp only [tellsOperator_iff read, ne_eq]
  result := by
    rw [lastToldOr_snoc]
    simp only [tellsResult_iff read]
    have changed : (tree.add matchAllDefault meant).resultScope = _ := rfl
    rcases QueryTree.resultScope_add.1 changed with told | ⟨silent, kept⟩
    · exact .inl told
    · exact .inr ⟨silent, kept ▸ reads.result⟩

end Reads

theorem decode_snoc (request : Request) (entry : String × String) (matchAllDefault : Bool) :
    QueryTree.decode (request ++ [entry]) matchAllDefault =
      (QueryTree.decode request matchAllDefault).bind fun tree =>
        (Entry.read entry.1 entry.2).map (tree.add matchAllDefault) := by
  unfold QueryTree.decode
  rw [List.mapM_append, List.mapM_cons, List.mapM_nil]
  cases request.mapM fun e => Entry.read e.1 e.2 with
  | error e => rfl
  | ok entries =>
      cases Entry.read entry.1 entry.2 with
      | error e => rfl
      | ok meant =>
          refine congrArg Except.ok ?_
          exact List.foldl_append

def Fails (request : Request) : Prop :=
  ∃ entry ∈ request, entry.1 ≠ Entry.resultKey ∧ Entry.Malformed entry.1 entry.2

theorem fails_snoc {entry : String × String} :
    Fails (request ++ [entry]) ↔ Fails request ∨ ∃ e, Entry.read entry.1 entry.2 = .error e := by
  have other : Entry.Malformed entry.1 entry.2 → entry.1 ≠ Entry.resultKey := by
    intro malformed same
    exact Entry.not_operatorMarker_resultKey (same ▸ malformed.1)
  simp only [Fails, List.mem_append, List.mem_singleton, or_and_right, exists_or, exists_eq_left,
    Entry.read_error_iff, and_iff_right_of_imp other]

theorem decode_cases (request : Request) (matchAllDefault : Bool) :
    (Fails request ∧ ∃ e, QueryTree.decode request matchAllDefault = .error e) ∨
      ¬ Fails request ∧ ∃ tree, QueryTree.decode request matchAllDefault = .ok tree ∧
        Reads request matchAllDefault tree := by
  induction request using List.reverseRecOn with
  | nil => exact .inr ⟨by simp [Fails], {}, rfl, .nil matchAllDefault⟩
  | append_singleton request entry ih =>
      -- Entries are added from the first on, so the induction takes off the last one.
      rw [fails_snoc, decode_snoc]
      rcases ih with ⟨fails, e, failed⟩ | ⟨holds, tree, decoded, reads⟩
      · exact .inl ⟨.inl fails, e, by rw [failed]; rfl⟩
      · rw [decoded]
        cases read : Entry.read entry.1 entry.2 with
        | error e => exact .inl ⟨.inr ⟨e, rfl⟩, e, rfl⟩
        | ok meant => exact .inr ⟨by simp [holds], _, rfl, reads.snoc read⟩

/-! ## Targets -/

inductive Target where
  | result
  | operator (name : String)
  | field (scope name : String)
deriving DecidableEq

def Aims (entry : String × String) : Target → Prop
  | .result => entry.1 = Entry.resultKey
  | .operator name => ∃ operator, Entry.Defines entry.1 entry.2 name operator
  | .field scope name => Entry.Targets entry.1 scope name

def target? : Entry → Option Target
  | .result _ => some .result
  | .operator name _ => some (.operator name)
  | .matchAll scope _ _ => some (.field scope Entry.matchAllKey)
  | .field scope name _ => some (.field scope name)
  | .malformed _ => none

theorem aims_iff {entry : String × String} {target : Target} :
    Aims entry target ↔
      (Entry.read entry.1 entry.2).toOption.bind target? = some target := by
  constructor
  · intro aims
    cases target with
    | result =>
        rw [Entry.read_eq_ok_iff.2 (.result aims rfl)]
        rfl
    | operator name =>
        obtain ⟨operator, defines⟩ := aims
        rw [Entry.read_of_defines defines]
        rfl
    | field scope name =>
        rw [Entry.read_of_targets aims, Entry.ofField]
        split
        · next isFlag =>
          subst isFlag
          rfl
        · rfl
  · intro found
    obtain ⟨meant, read, isTarget⟩ := Option.bind_eq_some_iff.1 found
    cases success : Entry.read entry.1 entry.2 with
    | error e =>
        rw [success] at read
        cases read
    | ok other =>
        rw [success] at read
        cases read
        cases Entry.read_eq_ok_iff.1 success with
        | result isResult _ =>
            cases isTarget
            exact isResult
        | operator defines =>
            cases isTarget
            exact ⟨_, defines⟩
        | flag targets _ =>
            cases isTarget
            exact targets
        | field targets _ =>
            cases isTarget
            exact targets
        | leftOut => cases isTarget

theorem aims_iff_of {entry : String × String} {found : Option Target}
    (known : (Entry.read entry.1 entry.2).toOption.bind target? = found) {target : Target} :
    Aims entry target ↔ found = some target := by
  rw [aims_iff, known]

instance (entry : String × String) (target : Target) : Decidable (Aims entry target) :=
  decidable_of_iff _ aims_iff.symm

/-- The entries of two requests for each target are the same, in the same order. -/
def SameByTarget (request other : Request) : Prop :=
  ∀ target, other.filter (Aims · target) = request.filter (Aims · target)

namespace SameByTarget
variable {other : Request}

theorem lastTold {β : Type} {tells : String × String → β → Prop} (matched : SameByTarget request other)
    (target : Target) (aimed : ∀ entry b, tells entry b → Aims entry target) (b : β) :
    LastTold tells request b ↔ LastTold tells other b := by
  have heard : ∀ entry b, tells entry b → decide (Aims entry target) = true :=
    fun entry b told => decide_eq_true (aimed entry b told)
  rw [← lastTold_filter heard request, ← lastTold_filter heard other, matched]

theorem lastToldOr {β : Type} {tells : String × String → β → Prop}
    (matched : SameByTarget request other) (target : Target) (aimed : ∀ entry b, tells entry b → Aims entry target)
    (fallback b : β) : LastToldOr tells fallback request b ↔ LastToldOr tells fallback other b := by
  have heard : ∀ entry b, tells entry b → decide (Aims entry target) = true :=
    fun entry b told => decide_eq_true (aimed entry b told)
  rw [← lastToldOr_filter heard fallback request, ← lastToldOr_filter heard fallback other, matched]

theorem exists_aims (matched : SameByTarget request other) (target : Target) :
    (∃ entry ∈ request, Aims entry target) ↔ ∃ entry ∈ other, Aims entry target := by
  have filtered : ∀ l : Request,
      (∃ entry ∈ l, Aims entry target) ↔ l.filter (Aims · target) ≠ [] := by
    intro l
    simp [List.filter_eq_nil_iff]
  rw [filtered, filtered, matched]

theorem reads (matched : SameByTarget request other) (reads : Reads request matchAllDefault tree) :
    Reads other matchAllDefault tree where
  scopes scope := by
    rw [reads.scopes]
    -- A scope is there if one of its fields is aimed at, whichever.
    have each := fun name => matched.exists_aims (.field scope name)
    constructor
    · rintro ⟨entry, member, name, targets⟩
      obtain ⟨found, isMember, aims⟩ := (each name).1 ⟨entry, member, targets⟩
      exact ⟨found, isMember, name, aims⟩
    · rintro ⟨entry, member, name, targets⟩
      obtain ⟨found, isMember, aims⟩ := (each name).2 ⟨entry, member, targets⟩
      exact ⟨found, isMember, name, aims⟩
  flags scope found stored :=
    (matched.lastToldOr (.field scope Entry.matchAllKey) (fun _ _ told => told.1) _ _).1
      (reads.flags scope found stored)
  fields scope found stored name value :=
    (reads.fields scope found stored name value).trans
      (matched.lastTold (.field scope name) (fun _ _ told => told.1) value)
  operators name operator :=
    (reads.operators name operator).trans
      (matched.lastTold (.operator name) (fun _ _ told => ⟨_, told⟩) operator)
  result := (matched.lastToldOr .result (fun _ _ told => told.1) _ _).1 reads.result

end SameByTarget

namespace Reads
variable {other : QueryTree}

theorem unique (reads : Reads request matchAllDefault tree)
    (also : Reads request matchAllDefault other) : other = tree := by
  have sameScopes : other.scopes = tree.scopes := by
    refine SortedMap.ext_get? fun scope => ?_
    have present := (also.scopes scope).trans (reads.scopes scope).symm
    cases stored : tree.scopes.get? scope with
    | none => simpa [SortedMap.contains, stored] using present
    | some found =>
        obtain ⟨found', stored'⟩ : ∃ found', other.scopes.get? scope = some found' := by
          simpa [SortedMap.contains, stored, Option.isSome_iff_exists] using present
        have sameFlag : found'.matchAll = found.matchAll := by
          refine (also.flags scope found' stored').unique ?_ (reads.flags scope found stored)
          intro entry flag flag' told told'
          exact Option.some.inj (told.2.symm.trans told'.2)
        have sameFields : found'.fields = found.fields := by
          refine SortedMap.ext_get? fun name => Option.ext fun value => ?_
          rw [also.fields scope found' stored', reads.fields scope found stored]
        rw [stored']
        exact congrArg some (Scope.ext sameFlag sameFields)
  have sameOperators : other.operators = tree.operators := by
    refine SortedMap.ext_get? fun name => Option.ext fun operator => ?_
    rw [also.operators, reads.operators]
  have sameResult : other.resultScope = tree.resultScope := by
    refine also.result.unique ?_ reads.result
    intro entry name name' told told'
    exact told.2.symm.trans told'.2
  exact QueryTree.ext sameScopes sameOperators sameResult

end Reads

theorem decode_eq_ok_iff : QueryTree.decode request matchAllDefault = .ok tree ↔
    ¬ Fails request ∧ Reads request matchAllDefault tree := by
  constructor
  · intro decoded
    rcases decode_cases request matchAllDefault with
      ⟨-, e, failed⟩ | ⟨holds, found, success, reads⟩
    · cases decoded.symm.trans failed
    · cases decoded.symm.trans success
      exact ⟨holds, reads⟩
  · rintro ⟨holds, reads⟩
    rcases decode_cases request matchAllDefault with
      ⟨fails, -⟩ | ⟨-, found, success, also⟩
    · exact absurd fails holds
    · rw [success, reads.unique also]

theorem decode_eq_error_iff :
    (∃ e, QueryTree.decode request matchAllDefault = .error e) ↔ Fails request := by
  rcases decode_cases request matchAllDefault with ⟨fails, failure⟩ | ⟨holds, tree, success, -⟩
  · exact iff_of_true failure fails
  · refine iff_of_false ?_ holds
    rintro ⟨e, failed⟩
    cases success.symm.trans failed

theorem SameByTarget.toOption_decode {other : Request} (matched : SameByTarget request other)
    (alike : Fails other ↔ Fails request) (matchAllDefault : Bool) :
    (QueryTree.decode other matchAllDefault).toOption =
      (QueryTree.decode request matchAllDefault).toOption := by
  rcases decode_cases request matchAllDefault with
    ⟨fails, e, failed⟩ | ⟨holds, tree, success, reads⟩
  · obtain ⟨e', failed'⟩ := decode_eq_error_iff.2 (alike.2 fails)
    rw [failed, failed']
    rfl
  · rw [success, decode_eq_ok_iff.2 ⟨fun fails => holds (alike.1 fails), matched.reads reads⟩]

/-- Decoding fails just for the malformed definitions of operators.  Otherwise the tree holds what is
told last.  An order of the entries that keeps the order of those for each target, and an entry that
is for no target, change nothing. -/
theorem last_entry_wins (request : Request) (matchAllDefault : Bool) :
    ((∃ e, QueryTree.decode request matchAllDefault = .error e) ↔ Fails request) ∧
      (∀ tree, QueryTree.decode request matchAllDefault = .ok tree ↔
        ¬ Fails request ∧ Reads request matchAllDefault tree) ∧
      (∀ other : Request, other.Perm request →
        (∀ target, other.filter (Aims · target) = request.filter (Aims · target)) →
        (QueryTree.decode other matchAllDefault).toOption =
          (QueryTree.decode request matchAllDefault).toOption) ∧
      ∀ before entry after, request = before ++ entry :: after →
        ¬ Entry.operatorMarker <+: entry.1.toList → (∀ target, ¬ Aims entry target) →
        (QueryTree.decode (before ++ after) matchAllDefault).toOption =
          (QueryTree.decode request matchAllDefault).toOption := by
  refine ⟨decode_eq_error_iff, fun tree => decode_eq_ok_iff, ?_, ?_⟩
  · intro other permuted matched
    refine SameByTarget.toOption_decode matched ?_ matchAllDefault
    simp only [Fails, permuted.mem_iff]
  · rintro before entry after rfl noOperator noTarget
    have matched : SameByTarget (before ++ entry :: after) (before ++ after) := by
      intro target
      simp [noTarget target]
    refine matched.toOption_decode ?_ matchAllDefault
    have fine : ¬ Entry.Malformed entry.1 entry.2 := fun malformed => noOperator malformed.1
    simp only [Fails, List.mem_append, List.mem_cons, or_and_right, exists_or, exists_eq_left, fine,
      and_false, false_or]

/-- Two spellings of one field around a field of another scope, and a key that is for nothing. -/
def mixedTitles : Request :=
  [("title", "dune"), ("__A__genre", "poetry"), ("__A_", "lost"), ("__0__title", "emma")]

def movedTitles : Request :=
  [("__A_", "lost"), ("title", "dune"), ("__0__title", "emma"), ("__A__genre", "poetry")]

theorem last_entry_wins_mixedTitles :
    movedTitles.Perm mixedTitles ∧
      (∀ target, movedTitles.filter (Aims · target) = mixedTitles.filter (Aims · target)) ∧
      (QueryTree.decode movedTitles true).toOption = (QueryTree.decode mixedTitles true).toOption ∧
      (¬ Entry.operatorMarker <+: "__A_".toList ∧ ∀ target, ¬ Aims ("__A_", "lost") target) ∧
      (QueryTree.decode (mixedTitles.take 2 ++ mixedTitles.drop 3) true).toOption =
        (QueryTree.decode mixedTitles true).toOption := by
  have permuted : movedTitles.Perm mixedTitles := by decide
  have title : ∀ target, Aims ("title", "dune") target ↔ some (.field "0" "title") = some target :=
    fun target => aims_iff_of (by decide +kernel)
  have genre : ∀ target,
      Aims ("__A__genre", "poetry") target ↔ some (.field "A" "genre") = some target :=
    fun target => aims_iff_of (by decide +kernel)
  have again : ∀ target,
      Aims ("__0__title", "emma") target ↔ some (.field "0" "title") = some target :=
    fun target => aims_iff_of (by decide +kernel)
  have lost : ∀ target, ¬ Aims ("__A_", "lost") target := by
    intro target aims
    cases (aims_iff_of (by decide +kernel : _ = none)).1 aims
  have matched : ∀ target,
      movedTitles.filter (Aims · target) = mixedTitles.filter (Aims · target) := by
    intro target
    -- The title is the only target of two entries.
    by_cases isTitle : target = .field "0" "title"
    · subst isTitle
      decide +kernel
    · simp [movedTitles, mixedTitles, title, genre, again, lost, Ne.symm isTitle, List.filter_cons]
  have kept := last_entry_wins mixedTitles true
  refine ⟨permuted, matched, kept.2.2.1 movedTitles permuted matched, ⟨by decide, lost⟩, ?_⟩
  exact kept.2.2.2 _ _ _ rfl (by decide) lost

end Request

end EntitySearch
