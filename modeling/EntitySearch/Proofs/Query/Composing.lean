import EntitySearch.Proofs.Search.Answers
import Mathlib.Data.List.Basic

/-!
# What a filter accepts

The predicate of a scope is put together from the left: a clause of a field asks for all terms until
a keyword is met and for one term from there on, and the clauses of the fields are joined as the
scope's flag says.  Conditions are taken into a conjunction or disjunction on their left, terms that
a field transforms into the empty text fall out, and fields without a clause are passed over.

None of this shows in what the predicate accepts: all or one of the fields that are asked for
something must be satisfied, and a field is satisfied if every term in front of the first keyword is
met, there being one, or some term behind it is.

Main statements: `accepts_combine`, `any_accepts_clauseFrom`, `filter_eq`,
`filter_accepts_iff_satisfied`.
-/
set_option autoImplicit false
namespace EntitySearch

namespace Predicate
variable (texts : Texts)

theorem acceptsAll_eq (clauses : List Predicate) :
    acceptsAll texts clauses = clauses.all (accepts texts) := by
  induction clauses with
  | nil => rfl
  | cons clause rest ih => rw [acceptsAll, ih, List.all_cons]

theorem acceptsAny_eq (clauses : List Predicate) :
    acceptsAny texts clauses = clauses.any (accepts texts) := by
  induction clauses with
  | nil => rfl
  | cons clause rest ih => rw [acceptsAny, ih, List.any_cons]

@[simp] theorem accepts_negate (p : Predicate) : p.negate.accepts texts = !p.accepts texts := by
  cases p <;> simp [negate, accepts]

theorem accepts_both (left right : Predicate) :
    (left.both right).accepts texts = (left.accepts texts && right.accepts texts) := by
  cases left <;> simp [both, accepts, acceptsAll_eq]

theorem accepts_either (left right : Predicate) :
    (left.either right).accepts texts = (left.accepts texts || right.accepts texts) := by
  cases left <;> simp [either, accepts, acceptsAny_eq]

theorem accepts_foldl_join (all : Bool) (first : Predicate) (rest : List Predicate) :
    (rest.foldl (join all) first).accepts texts =
      if all then first.accepts texts && rest.all (accepts texts)
      else first.accepts texts || rest.any (accepts texts) := by
  induction rest generalizing first with
  | nil => simp
  | cons next rest ih =>
      rw [List.foldl_cons, ih]
      cases all with
      | true => simp [join, accepts_both, Bool.and_assoc]
      | false => simp [join, accepts_either, Bool.or_assoc]

theorem combine_eq_none_iff {all : Bool} {clauses : List Predicate} :
    combine all clauses = none ↔ clauses = [] := by
  cases clauses <;> simp [combine]

variable {texts}

theorem accepts_combine {all : Bool} {clauses : List Predicate} {p : Predicate}
    (combined : combine all clauses = some p) :
    p.accepts texts =
      if all then clauses.all (accepts texts) else clauses.any (accepts texts) := by
  cases clauses with
  | nil => cases combined
  | cons first rest =>
      obtain rfl := Option.some.inj combined
      rw [accepts_foldl_join, List.all_cons, List.any_cons]

end Predicate

/-! ## What a field is asked for -/

namespace Field

/-- Is a term searched for in a field?  The keyword is not, nor is a term that the field transforms
into the empty text. -/
def Matchable (field : Field) (term : Term) : Prop :=
  term.isKeyword = false ∧ field.transformTerm term.text ≠ ""

instance (field : Field) : DecidablePred field.Matchable := fun _ => instDecidableAnd

def leading (field : Field) (terms : List Term) : List Term :=
  (terms.takeWhile fun term => !term.isKeyword).filter (field.Matchable ·)

def trailing (field : Field) (terms : List Term) : List Term :=
  (terms.dropWhile fun term => !term.isKeyword).filter (field.Matchable ·)

/-- Some text of the field contains the term, or is the term if the field is asked for elements;
for a negated term, none does.  Letter case does not count. -/
def Meets (field : Field) (element : Bool) (texts : Predicate.Texts) (term : Term) : Prop :=
  (∃ text ∈ texts field.name,
      if element then Text.lower text = Text.lower (field.transformTerm term.text)
      else (Text.lower (field.transformTerm term.text)).toList <:+: (Text.lower text).toList) ↔
    term.isNegated = false

/-- Every term in front of the first keyword is met, there being one, or some term behind it. -/
def Satisfied (field : Field) (element : Bool) (texts : Predicate.Texts) (terms : List Term) :
    Prop :=
  (field.leading terms ≠ [] ∧ ∀ term ∈ field.leading terms, field.Meets element texts term) ∨
    ∃ term ∈ field.trailing terms, field.Meets element texts term

instance (field : Field) (element : Bool) (texts : Predicate.Texts) :
    DecidablePred (field.Meets element texts) := fun term =>
  have (text : String) : Decidable
      ((Text.lower (field.transformTerm term.text)).toList <:+: (Text.lower text).toList) :=
    decidable_of_iff _ Text.occursIn_iff
  instDecidableIff

instance (field : Field) (element : Bool) (texts : Predicate.Texts) :
    DecidablePred (field.Satisfied element texts) := fun _ => instDecidableOr

variable {field : Field} {element all : Bool} {texts : Predicate.Texts} {term : Term}
  {sofar : Option Predicate} {rest : List Term}

theorem condition?_of_not_matchable (idle : ¬ field.Matchable term) :
    field.condition? element term = none := by
  unfold condition?
  unfold Matchable at idle
  cases keyword : term.isKeyword <;> simp_all

theorem not_matchable_of_onlyKeywords {terms : List Term}
    (keywords : Term.onlyKeywords terms = true) : ∀ term ∈ terms, ¬ field.Matchable term := by
  rintro term isTerm ⟨plain, -⟩
  rw [List.all_eq_true.1 keywords term isTerm] at plain
  cases plain

theorem exists_condition (element : Bool) (matchable : field.Matchable term) :
    ∃ p, field.condition? element term = some p ∧
      ∀ texts, p.accepts texts = true ↔ field.Meets element texts term := by
  obtain ⟨plain, filled⟩ := matchable
  unfold condition?
  simp only [plain, filled, Bool.false_or, decide_false, Bool.false_eq_true, if_false]
  refine ⟨_, rfl, fun texts => ?_⟩
  have positive : (if element then Predicate.arrayContains field.name (field.transformTerm term.text)
      else Predicate.contains field.name (field.transformTerm term.text)).accepts texts = true ↔
        ∃ text ∈ texts field.name,
          if element then Text.lower text = Text.lower (field.transformTerm term.text)
          else (Text.lower (field.transformTerm term.text)).toList <:+: (Text.lower text).toList := by
    cases element with
    | true => simp [Predicate.accepts]
    | false => simp [Predicate.accepts, Predicate.textContains, Text.occursIn_iff]
  unfold Meets
  rw [← positive]
  cases term.isNegated <;> simp

theorem clauseFrom_keyword (keyword : term.isKeyword = true) :
    field.clauseFrom element all sofar (term :: rest) =
      field.clauseFrom element false sofar rest := by
  conv => lhs; unfold clauseFrom
  rw [if_pos keyword]

theorem clauseFrom_idle (plain : term.isKeyword = false) (idle : ¬ field.Matchable term) :
    field.clauseFrom element all sofar (term :: rest) =
      field.clauseFrom element all sofar rest := by
  conv => lhs; unfold clauseFrom
  rw [plain, if_neg Bool.false_ne_true, condition?_of_not_matchable idle]

theorem exists_clauseFrom_cons (element : Bool) (matchable : field.Matchable term) :
    ∃ p, (∀ texts, p.accepts texts = true ↔ field.Meets element texts term) ∧
      ∀ all sofar rest, field.clauseFrom element all sofar (term :: rest) =
        field.clauseFrom element all (some (sofar.elim p fun left => left.join all p)) rest := by
  obtain ⟨p, condition, accepts⟩ := exists_condition element matchable
  refine ⟨p, accepts, fun all sofar rest => ?_⟩
  conv => lhs; unfold clauseFrom
  rw [matchable.1, if_neg Bool.false_ne_true, condition]
  cases sofar <;> rfl

theorem isSome_clauseFrom_iff (terms : List Term) : ∀ (all : Bool) (sofar : Option Predicate),
    (field.clauseFrom element all sofar terms).isSome ↔
      sofar.isSome ∨ ∃ term ∈ terms, field.Matchable term := by
  induction terms with
  | nil => simp [clauseFrom]
  | cons term rest ih =>
      intro all sofar
      rw [List.exists_mem_cons_iff]
      by_cases matchable : field.Matchable term
      · obtain ⟨p, -, step⟩ := exists_clauseFrom_cons element matchable
        simp [step, ih, matchable]
      · cases plain : term.isKeyword with
        | true => simp [clauseFrom_keyword plain, ih, matchable]
        | false => simp [clauseFrom_idle plain matchable, ih, matchable]

theorem clauseFrom_eq_none_iff {terms : List Term} :
    field.clauseFrom element true none terms = none ↔
      ∀ term ∈ terms, ¬ field.Matchable term := by
  rw [← Option.not_isSome_iff_eq_none, isSome_clauseFrom_iff]
  simp

theorem any_accepts_clauseFrom_false (terms : List Term) : ∀ sofar : Option Predicate,
    (field.clauseFrom element false sofar terms).any (Predicate.accepts texts) = true ↔
      sofar.any (Predicate.accepts texts) = true ∨
        ∃ term ∈ terms, field.Matchable term ∧ field.Meets element texts term := by
  induction terms with
  | nil => simp [clauseFrom]
  | cons term rest ih =>
      intro sofar
      rw [List.exists_mem_cons_iff]
      by_cases matchable : field.Matchable term
      · obtain ⟨p, accepts, step⟩ := exists_clauseFrom_cons element matchable
        rw [step, ih, ← or_assoc]
        refine or_congr_left ?_
        cases sofar with
        | none => simp [accepts, matchable]
        | some left => simp [Predicate.join, Predicate.accepts_either, accepts, matchable]
      · cases plain : term.isKeyword with
        | true => simp [clauseFrom_keyword plain, ih, matchable]
        | false => simp [clauseFrom_idle plain matchable, ih, matchable]

/-! The terms in front of the first keyword and those behind it, read from the left. -/

section Split
variable (rest)

theorem leading_keyword (keyword : term.isKeyword = true) : field.leading (term :: rest) = [] := by
  simp [leading, keyword]

theorem trailing_keyword (keyword : term.isKeyword = true) :
    field.trailing (term :: rest) = rest.filter (field.Matchable ·) := by
  simp [trailing, keyword, Matchable]

theorem leading_plain (plain : term.isKeyword = false) :
    field.leading (term :: rest) =
      if field.Matchable term then term :: field.leading rest else field.leading rest := by
  simp [leading, plain, List.filter_cons]

theorem trailing_plain (plain : term.isKeyword = false) :
    field.trailing (term :: rest) = field.trailing rest := by
  simp [trailing, plain]

end Split

/-- A clause begun in front of a keyword: the terms there must all be met. -/
theorem any_accepts_clauseFrom_some (terms : List Term) : ∀ left : Predicate,
    (field.clauseFrom element true (some left) terms).any (Predicate.accepts texts) = true ↔
      (left.accepts texts = true ∧ ∀ term ∈ field.leading terms, field.Meets element texts term) ∨
        ∃ term ∈ field.trailing terms, field.Meets element texts term := by
  induction terms with
  | nil => simp [clauseFrom, leading, trailing]
  | cons term rest ih =>
      intro left
      cases plain : term.isKeyword with
      | true =>
          rw [clauseFrom_keyword plain, any_accepts_clauseFrom_false, leading_keyword rest plain,
            trailing_keyword rest plain]
          simp [and_assoc]
      | false =>
          rw [leading_plain rest plain, trailing_plain rest plain]
          by_cases matchable : field.Matchable term
          · obtain ⟨p, accepts, step⟩ := exists_clauseFrom_cons element matchable
            rw [step, Option.elim_some, ih, if_pos matchable]
            simp [Predicate.join, Predicate.accepts_both, accepts, and_assoc]
          · rw [clauseFrom_idle plain matchable, ih, if_neg matchable]

/-- The clause of a sequence of terms accepts what satisfies the field. -/
theorem any_accepts_clauseFrom (terms : List Term) :
    (field.clauseFrom element true none terms).any (Predicate.accepts texts) = true ↔
      field.Satisfied element texts terms := by
  unfold Satisfied
  induction terms with
  | nil => simp [clauseFrom, leading, trailing]
  | cons term rest ih =>
      cases plain : term.isKeyword with
      | true =>
          rw [clauseFrom_keyword plain, any_accepts_clauseFrom_false, leading_keyword rest plain,
            trailing_keyword rest plain]
          simp [and_assoc]
      | false =>
          rw [leading_plain rest plain, trailing_plain rest plain]
          by_cases matchable : field.Matchable term
          · obtain ⟨p, accepts, step⟩ := exists_clauseFrom_cons element matchable
            rw [step, Option.elim_none, any_accepts_clauseFrom_some, if_pos matchable]
            simp [accepts]
          · rw [clauseFrom_idle plain matchable, ih, if_neg matchable]

end Field

/-! ## What a scope asks for -/

def Filter.ofClauses (all : Bool) (clauses : List Predicate) : Filter :=
  match Predicate.combine all clauses with
  | some predicate => .matching predicate
  | none => .nothing

theorem Filter.ofClauses_eq_nothing_iff {all : Bool} {clauses : List Predicate} :
    Filter.ofClauses all clauses = .nothing ↔ clauses = [] := by
  rw [← @Predicate.combine_eq_none_iff all clauses, Filter.ofClauses]
  split <;> simp_all

namespace Binding

def asksElements (binding : Binding) (catalog : Catalog) (type : EntityType) (field : Field) :
    Bool :=
  match field.kind catalog type.name with
  | .ok .list => binding.arrays
  | _ => false

def clause (binding : Binding) (catalog : Catalog) (type : EntityType) (bound : Field × String) :
    Option Predicate :=
  bound.1.clauseFrom (binding.asksElements catalog type bound.1) true none (Term.ofText bound.2)

/-- Does a scope give a field a value?  Free text is for the fields preferred for it, any other
value for the field it is named for, and blank values are for none. -/
def Selects (binding : Binding) (type : EntityType) (scope : Scope) (mode : QueryMode)
    (field : Field) (value : String) : Prop :=
  blankValue value = false ∧ match mode with
    | .freeText =>
      field ∈ type.freeTextFields binding.priority binding.limit ∧
        scope.fields.get? anyField = some value
    | .structured => field ∈ type.fields ∧ scope.fields.get? field.name = some value

/-- Does a scope ask a field for something: is there a term to search for in its value? -/
def Asks (binding : Binding) (type : EntityType) (scope : Scope) (mode : QueryMode)
    (field : Field) (value : String) : Prop :=
  binding.Selects type scope mode field value ∧ ∃ term ∈ Term.ofText value, field.Matchable term

variable {binding : Binding} {catalog : Catalog} {type : EntityType} {scope : Scope}
  {mode : QueryMode} {field : Field} {value : String}

theorem mem_select_iff :
    (field, value) ∈ binding.select type scope mode ↔
      binding.Selects type scope mode field value := by
  unfold select Selects
  cases mode with
  | freeText =>
      rw [Scope.freeText?]
      cases given : scope.fields.get? anyField with
      | none => simp
      | some text =>
          dsimp only
          split
          · next blank =>
            simp only [List.not_mem_nil, Option.some.injEq, false_iff]
            rintro ⟨filled, -, rfl⟩
            rw [blank] at filled
            cases filled
          · next filled =>
            simp only [List.mem_map, Prod.mk.injEq, Option.some.injEq]
            constructor
            · rintro ⟨_, preferred, rfl, rfl⟩
              exact ⟨Bool.eq_false_iff.2 filled, preferred, rfl⟩
            · rintro ⟨-, preferred, rfl⟩
              exact ⟨field, preferred, rfl, rfl⟩
  | structured =>
      rw [List.mem_filterMap]
      constructor
      · rintro ⟨⟨name, text⟩, entry, bound⟩
        dsimp only at bound
        split at bound
        · cases bound
        · next filled =>
          obtain ⟨_, found, same⟩ := Option.map_eq_some_iff.1 bound
          cases same
          obtain ⟨isField, rfl⟩ := EntityType.mem_of_field? found
          exact ⟨Bool.eq_false_iff.2 filled, isField, SortedMap.get?_eq_some_iff.2 entry⟩
      · rintro ⟨filled, isField, given⟩
        refine ⟨(field.name, value), SortedMap.get?_eq_some_iff.1 given, ?_⟩
        simp [filled, EntityType.field?_of_mem isField]

theorem clause?_eq {kind : ValueKind} (known : field.kind catalog type.name = .ok kind) :
    binding.clause? catalog type field value = .ok (binding.clause catalog type (field, value)) := by
  have elements : binding.asksElements catalog type field =
      (kind.isMultiValued && binding.arrays) := by
    rw [asksElements, known]
    cases kind <;> rfl
  unfold clause? clause
  dsimp only
  split
  · next keywords =>
    rw [Field.clauseFrom_eq_none_iff.2 (Field.not_matchable_of_onlyKeywords keywords)]
  · rw [known, elements]
    rfl

def clauses (binding : Binding) (catalog : Catalog) (type : EntityType) (scope : Scope)
    (mode : QueryMode) : List Predicate :=
  (binding.select type scope mode).filterMap (binding.clause catalog type)

theorem filter_eq (binding : Binding)
    (kinds : ∀ field ∈ type.fields, ∃ kind, field.kind catalog type.name = .ok kind)
    (scope : Scope) (mode : QueryMode) :
    binding.filter catalog type scope mode =
      .ok (Filter.ofClauses scope.matchAll (binding.clauses catalog type scope mode)) := by
  unfold filter
  rw [@mapM_eq_ok _ _ _ _ (binding.clause catalog type)]
  · dsimp only [bind, Except.bind]
    rw [List.filterMap_map, Function.id_comp, Filter.ofClauses, clauses]
    cases Predicate.combine scope.matchAll _ <;> rfl
  · rintro ⟨field, value⟩ bound
    obtain ⟨kind, known⟩ := kinds field (mem_of_mem_select bound)
    exact clause?_eq known

theorem exists_clause (asks : binding.Asks type scope mode field value) (catalog : Catalog) :
    ∃ p ∈ binding.clauses catalog type scope mode, ∀ texts, p.accepts texts = true ↔
      field.Satisfied (binding.asksElements catalog type field) texts (Term.ofText value) := by
  obtain ⟨selected, sought⟩ := asks
  have present : (binding.clause catalog type (field, value)).isSome :=
    (Field.isSome_clauseFrom_iff (Term.ofText value) true none).2 (.inr sought)
  obtain ⟨p, isClause⟩ := Option.isSome_iff_exists.1 present
  change Field.clauseFrom _ _ _ _ _ = some p at isClause
  refine ⟨p, List.mem_filterMap.2 ⟨(field, value), mem_select_iff.2 selected, isClause⟩, ?_⟩
  intro texts
  rw [← Field.any_accepts_clauseFrom, isClause, Option.any_some]

theorem asks_of_mem_clauses {p : Predicate} (member : p ∈ binding.clauses catalog type scope mode) :
    ∃ field value, binding.Asks type scope mode field value ∧ ∀ texts, p.accepts texts = true ↔
      field.Satisfied (binding.asksElements catalog type field) texts (Term.ofText value) := by
  obtain ⟨⟨field, value⟩, selected, isClause⟩ := List.mem_filterMap.1 member
  change Field.clauseFrom _ _ _ _ _ = some p at isClause
  have sought : ∃ term ∈ Term.ofText value, field.Matchable term := by
    have present := (Field.isSome_clauseFrom_iff (Term.ofText value) true none).1
      (Option.isSome_iff_exists.2 ⟨p, isClause⟩)
    simpa using present
  refine ⟨field, value, ⟨mem_select_iff.1 selected, sought⟩, fun texts => ?_⟩
  rw [← Field.any_accepts_clauseFrom, isClause, Option.any_some]

theorem clauses_eq_nil_iff :
    binding.clauses catalog type scope mode = [] ↔
      ∀ field value, ¬ binding.Asks type scope mode field value := by
  constructor
  · intro empty field value asks
    obtain ⟨p, member, -⟩ := exists_clause asks catalog
    rw [empty] at member
    cases member
  · intro idle
    refine List.eq_nil_iff_forall_not_mem.2 fun p member => ?_
    obtain ⟨field, value, asks, -⟩ := asks_of_mem_clauses member
    exact idle field value asks

theorem all_accept_clauses_iff {texts : Predicate.Texts} :
    (binding.clauses catalog type scope mode).all (Predicate.accepts texts) = true ↔
      ∀ field value, binding.Asks type scope mode field value →
        field.Satisfied (binding.asksElements catalog type field) texts (Term.ofText value) := by
  rw [List.all_eq_true]
  constructor
  · intro accepted field value asks
    obtain ⟨p, member, accepts⟩ := exists_clause asks catalog
    exact (accepts texts).1 (accepted p member)
  · intro satisfied p member
    obtain ⟨field, value, asks, accepts⟩ := asks_of_mem_clauses member
    exact (accepts texts).2 (satisfied field value asks)

theorem any_accepts_clauses_iff {texts : Predicate.Texts} :
    (binding.clauses catalog type scope mode).any (Predicate.accepts texts) = true ↔
      ∃ field value, binding.Asks type scope mode field value ∧
        field.Satisfied (binding.asksElements catalog type field) texts (Term.ofText value) := by
  rw [List.any_eq_true]
  constructor
  · rintro ⟨p, member, accepted⟩
    obtain ⟨field, value, asks, accepts⟩ := asks_of_mem_clauses member
    exact ⟨field, value, asks, (accepts texts).1 accepted⟩
  · rintro ⟨field, value, asks, satisfied⟩
    obtain ⟨p, member, accepts⟩ := exists_clause asks catalog
    exact ⟨p, member, (accepts texts).2 satisfied⟩

/-- The filter of a scope on a registered type: nothing is wanted just if no field is asked for
anything; else a document is wanted just if its texts satisfy all of the fields that are asked for
something, or one of them, as the flag of the scope says. -/
theorem filter_accepts_iff_satisfied {registry : Registry} {types : List EntityType}
    (made : Registry.ofTypes catalog types = .ok registry) (member : type ∈ registry.entityTypes)
    (binding : Binding) (scope : Scope) (mode : QueryMode) :
    ∃ filter, binding.filter registry.catalog type scope mode = .ok filter ∧
      (filter = .nothing ↔ ∀ field value, ¬ binding.Asks type scope mode field value) ∧
      ∀ predicate, filter = .matching predicate → ∀ texts, (predicate.accepts texts = true ↔
        if scope.matchAll then
          ∀ field value, binding.Asks type scope mode field value → field.Satisfied
            (binding.asksElements registry.catalog type field) texts (Term.ofText value)
        else
          ∃ field value, binding.Asks type scope mode field value ∧ field.Satisfied
            (binding.asksElements registry.catalog type field) texts (Term.ofText value)) := by
  have kinds : ∀ field ∈ type.fields, ∃ kind, field.kind registry.catalog type.name = .ok kind :=
    fun field isField => Registry.kind_of_ofTypes made member isField
  refine ⟨_, filter_eq binding kinds scope mode, ?_, ?_⟩
  · exact Filter.ofClauses_eq_nothing_iff.trans clauses_eq_nil_iff
  · intro predicate matching texts
    have combined : Predicate.combine scope.matchAll
        (binding.clauses registry.catalog type scope mode) = some predicate := by
      unfold Filter.ofClauses at matching
      split at matching
      · next found =>
        cases matching
        exact found
      · cases matching
    rw [Predicate.accepts_combine combined]
    cases scope.matchAll with
    | true => exact all_accept_clauses_iff
    | false => exact any_accepts_clauses_iff

end Binding

namespace Library

/-- Books on the shelf A1 that are on logic and no drafts, or on set theory; of the works of their
authors nothing is asked. -/
def shelvedLogic : Scope where
  matchAll := true
  fields := SortedMap.ofList [("authors.works.title", "OR \"\""), ("place.whole.code", "A1"),
    ("title", "logic -draft OR \"set theory\"")]

def setTheoryDraft : Predicate.Texts
  | "place.whole.code" => ["a1"]
  | "title" => ["A draft of Set Theory"]
  | _ => []

/-- A draft is wanted all the same if it is on set theory. -/
theorem shelvedLogic_accepts_draft :
    ∃ predicate, (Config.binding {} true).filter registry.catalog registry.entityTypes[0]
        shelvedLogic .structured = .ok (.matching predicate) ∧
      predicate.accepts setTheoryDraft = true := by
  obtain ⟨filter, made, nothing, matching⟩ := Binding.filter_accepts_iff_satisfied registered
    (List.getElem_mem (n := 0) _) (Config.binding {} true) shelvedLogic .structured
  have fields : registry.entityTypes[0].fields = [field "title" [] "title",
      field "place.whole.code" ["place", "whole"] "code",
      field "authors.works.title" ["authors", "works"] "title"] := rfl
  cases filter with
  | nothing =>
      refine absurd ?_ (nothing.1 rfl (field "title" [] "title") "logic -draft OR \"set theory\"")
      refine ⟨⟨by decide, ?_, by decide +kernel⟩, by decide +kernel⟩
      rw [fields]
      exact List.mem_cons_self ..
  | matching predicate =>
      refine ⟨predicate, made, (matching predicate rfl setTheoryDraft).2 ?_⟩
      change ∀ field value, _
      rintro named value ⟨⟨-, isField, given⟩, sought⟩
      rw [fields] at isField
      simp only [List.mem_cons, List.not_mem_nil, or_false] at isField
      rcases isField with rfl | rfl | rfl
      · obtain rfl : "logic -draft OR \"set theory\"" = value := Option.some.inj given
        decide +kernel
      · obtain rfl : "A1" = value := Option.some.inj given
        decide +kernel
      · obtain rfl : "OR \"\"" = value := Option.some.inj given
        exact absurd sought (by decide +kernel)

end Library
end EntitySearch
