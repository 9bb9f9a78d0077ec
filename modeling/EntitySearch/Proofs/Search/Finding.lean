import EntitySearch.Proofs.Search.Answers
import EntitySearch.Proofs.Search.Cleaning
import EntitySearch.Proofs.Search.Matching
import EntitySearch.Dataset.Basic

/-!
# Finding what is indexed

A text between quotes is one term, so a scope that asks a field for it puts one condition on the
documents.  Where the field changes terms and values by the same transformation, an entity is found
by the texts of its values; but the transformation makes one text of a whole list, while the term is
asked for as an element.

Main statements: `ofText_quoted`, `finds_iff`.
-/
set_option autoImplicit false
namespace EntitySearch

def betweenQuotes (s : String) : String := "\"" ++ s ++ "\""

theorem toList_betweenQuotes (s : String) :
    (betweenQuotes s).toList = Term.quote :: (s.toList ++ [Term.quote]) := by
  simp [betweenQuotes, Term.quote, String.toList_append]

namespace Term

theorem scanFrom_inside {cs : List Char} (clear : quote ∉ cs) (literal : Option Nat) (place : Nat)
    (rest : List Char) : ∀ (offset : Nat) (draft : Draft),
    scanFrom literal offset draft (some place) (cs ++ rest) =
      scanFrom literal (offset + bytes cs) { draft with letters := cs.reverse ++ draft.letters }
        (some place) rest := by
  induction cs with
  | nil => exact fun offset draft => rfl
  | cons c cs ih =>
      intro offset draft
      obtain ⟨notQuote, later⟩ := List.ne_and_not_mem_of_not_mem_cons clear
      rw [List.cons_append, scanFrom]
      simp only [Ne.symm notQuote, false_and, if_false, Option.isSome_some, if_true, ih later,
        Draft.inside, List.reverse_cons, List.append_assoc, List.singleton_append, bytes,
        Nat.add_assoc]

theorem ofText_quoted {s : String} (filled : s ≠ "") (clear : quote ∉ s.toList) :
    ofText (betweenQuotes s) = [.plain s] := by
  have scanned : scanWith (quote :: (s.toList ++ [quote])) none = .ok [.plain s] := by
    rw [scanWith, scanFrom]
    simp only [reduceCtorEq, ne_eq, not_false_eq_true, and_self, if_true, scanFrom_inside clear]
    simp [scanFrom, Draft.openQuote, Draft.finish, filled]
  have scans : needsScan (quote :: (s.toList ++ [quote])) = true := by simp [needsScan]
  rw [ofText, toList_betweenQuotes, ofChars, if_pos scans, scan, scanned]

end Term

theorem blankValue_betweenQuotes (s : String) : blankValue (betweenQuotes s) = false := by
  rw [blankValue, toList_betweenQuotes]
  rfl

theorem lower_ne_empty {s : String} (filled : s ≠ "") : Text.lower s ≠ "" := by
  obtain ⟨c, rest, whole⟩ := List.exists_cons_of_ne_nil fun empty : s.toList = [] =>
    filled (String.toList_eq_nil_iff.1 empty)
  have grown : ∀ before after, Text.lowerAt before c after ≠ [] := by
    intro before after
    unfold Text.lowerAt
    split
    · simp
    · split <;> simp
  rw [Text.lower, whole]
  intro empty
  exact grown [] rest (List.append_eq_nil_iff.1 (String.ofList_eq_empty_iff.1 empty)).1

theorem Uuid.Codec.canonical_ne_empty (codec : Codec) {s : String} (filled : s ≠ "") :
    codec.canonical s ≠ "" := by
  intro empty
  have chars : codec.canonicalChars s.toList = [] := String.ofList_eq_empty_iff.1 empty
  unfold canonicalChars at chars
  split at chars
  · next u _ =>
    have written := u.length_render
    rw [← codec.writes, chars] at written
    cases written
  · exact filled (String.toList_eq_nil_iff.1 chars)

namespace Dataset.Transform

theorem ofTerms_ne_empty (transform : Transform) {s : String} (filled : s ≠ "") :
    transform.ofTerms s ≠ "" := by
  cases transform with
  | uuid => exact Uuid.Codec.lenient.canonical_ne_empty filled
  | lowercase => exact lower_ne_empty filled

theorem ofValues_text (transform : Transform) (s : String) :
    transform.ofValues (.text s) = transform.ofTerms s := by
  cases transform <;> rfl

end Dataset.Transform

/-- A value of a kind has a text: it is the text, or a list of texts with it among them. -/
inductive Value.HasText : ValueKind → Value → String → Prop
  | text (s : String) : HasText .text (.text s) s
  | list {items : List String} {s : String} (isItem : s ∈ items) :
      HasText .list (.list (items.map .text)) s

structure Field.Transforms (field : Field) (transform? : Option Dataset.Transform) : Prop where
  terms : field.termTransform? = transform?.map Dataset.Transform.ofTerms
  values : field.valueTransform? = transform?.map Dataset.Transform.ofValues

namespace Field.Transforms
variable {field : Field} {transform? : Option Dataset.Transform}

theorem transformTerm (alike : field.Transforms transform?) (s : String) :
    field.transformTerm s = match transform? with
      | some transform => transform.ofTerms s
      | none => s := by
  rw [Field.transformTerm, alike.terms]
  cases transform? <;> rfl

theorem indexTexts (alike : field.Transforms transform?) (value : Value) :
    field.indexTexts value = match transform? with
      | some transform => [transform.ofValues value]
      | none => value.indexTexts := by
  rw [Field.indexTexts, alike.values]
  cases transform? <;> rfl

theorem transformTerm_ne_empty (alike : field.Transforms transform?) {s : String}
    (filled : s ≠ "") : field.transformTerm s ≠ "" := by
  rw [alike.transformTerm]
  cases transform? with
  | none => exact filled
  | some transform => exact transform.ofTerms_ne_empty filled

end Field.Transforms

theorem Value.mem_indexTextsItems {items : List String} {s : String} :
    s ∈ Value.indexTextsItems (items.map .text) ↔ s ∈ items := by
  induction items with
  | nil => simp [Value.indexTextsItems]
  | cons item rest ih => simp [Value.indexTextsItems, Value.indexTexts, Value.render, ih]

def Scope.asking (matchAll : Bool) (name value : String) : Scope where
  matchAll
  fields := SortedMap.empty.insert name value

def Scope.quoting (matchAll : Bool) (name s : String) : Scope where
  matchAll
  fields := SortedMap.empty.insert name (betweenQuotes s)

def Field.asks (field : Field) (kind : ValueKind) (text : String) : Predicate :=
  if kind.isMultiValued then .arrayContains field.name text else .contains field.name text

namespace Scope
variable {field : Field} {type : EntityType} {s : String}

theorem mode_asking (structured : field.name ≠ anyField) (matchAll : Bool) (value : String) :
    (asking matchAll field.name value).mode = .structured := by
  simp [asking, mode, SortedMap.contains, SortedMap.get?_insert, Ne.symm structured]

theorem mode_quoting (structured : field.name ≠ anyField) (matchAll : Bool) (s : String) :
    (quoting matchAll field.name s).mode = .structured :=
  mode_asking structured matchAll (betweenQuotes s)

theorem filter_asking (limits : Config) (catalog : Catalog) (isField : field ∈ type.fields)
    {kind : ValueKind} (known : field.kind catalog type.name = .ok kind) {value text : String}
    (filled : blankValue value = false) (word : Term.ofText value = [.plain text])
    (kept : field.transformTerm text ≠ "") (matchAll : Bool) :
    (limits.binding true).filter catalog type (asking matchAll field.name value) .structured =
      .ok (.matching (field.asks kind (field.transformTerm text))) := by
  have selected : (limits.binding true).select type (asking matchAll field.name value) .structured =
      [(field, value)] := by
    have entries : (asking matchAll field.name value).fields.entries = [(field.name, value)] := rfl
    rw [Binding.select, entries]
    simp [filled, EntityType.field?_of_mem isField]
  have clause : (limits.binding true).clause? catalog type field value =
      .ok (some (field.asks kind (field.transformTerm text))) := by
    rw [Binding.clause?, word, known]
    simp [Term.onlyKeywords, Term.isKeyword, Field.clause?, Field.clauseFrom, Field.condition?,
      Term.text, kept, Term.isNegated, Config.binding, Field.asks, Except.map]
  rw [Binding.filter, selected]
  simp only [List.mapM_cons, List.mapM_nil, clause]
  rfl

theorem filter_quoting (limits : Config) (catalog : Catalog) (isField : field ∈ type.fields)
    {kind : ValueKind} (known : field.kind catalog type.name = .ok kind) (filled : s ≠ "")
    (clear : Term.quote ∉ s.toList) (kept : field.transformTerm s ≠ "") (matchAll : Bool) :
    (limits.binding true).filter catalog type (quoting matchAll field.name s) .structured =
      .ok (.matching (field.asks kind (field.transformTerm s))) :=
  filter_asking limits catalog isField known (blankValue_betweenQuotes s)
    (Term.ofText_quoted filled clear) kept matchAll

end Scope

/-! ## What is found -/

namespace Field

theorem any_textContains {texts : List String} {text : String} (member : text ∈ texts) :
    (texts.any fun held => Predicate.textContains held text) = true := by
  refine List.any_eq_true.2 ⟨text, member, ?_⟩
  exact Text.occursIn_iff.2 (List.infix_refl _)

/-- Of the values of an entity with the text `s` among them, the field's condition for `s` holds
unless the field transforms lists, and then only if some whole value is transformed to the same. -/
theorem accepts_asks_iff {field : Field} {transform? : Option Dataset.Transform}
    (alike : field.Transforms transform?) {kind : ValueKind} {value : Value} {s : String}
    (hasText : value.HasText kind s) {values : List Value} (member : value ∈ values)
    {texts : Predicate.Texts} (held : texts field.name = values.flatMap field.indexTexts) :
    (field.asks kind (field.transformTerm s)).accepts texts = true ↔
      kind = .text ∨ transform? = none ∨ ∃ transform, transform? = some transform ∧
        ∃ other ∈ values,
          Text.lower (transform.ofValues other) = Text.lower (transform.ofTerms s) := by
  cases hasText with
  | text =>
      have indexed : field.indexTexts (.text s) = [field.transformTerm s] := by
        rw [alike.indexTexts, alike.transformTerm]
        cases transform? with
        | none => rfl
        | some transform => exact congrArg (fun text => [text]) (transform.ofValues_text s)
      have present : field.transformTerm s ∈ texts field.name := by
        rw [held, List.mem_flatMap]
        exact ⟨_, member, by simp [indexed]⟩
      exact iff_of_true (any_textContains present) (.inl rfl)
  | list isItem =>
      change ((texts field.name).any fun text =>
        Text.lower text == Text.lower (field.transformTerm s)) = true ↔ _
      rw [held, List.any_eq_true, alike.transformTerm]
      cases transform? with
      | none =>
          refine iff_of_true ⟨s, ?_, beq_self_eq_true _⟩ (.inr (.inl rfl))
          refine List.mem_flatMap.2 ⟨_, member, ?_⟩
          rw [alike.indexTexts]
          exact Value.mem_indexTextsItems.2 isItem
      | some transform =>
          -- A list is transformed as a whole, so the text of an item is not among its texts.
          simp [alike.indexTexts]

end Field

theorem Evaluator.answer_structured {evaluator : Evaluator} {index : SearchIndex} {scope : Scope}
    (online : index.online = true) (structured : scope.mode = .structured) (type : EntityType)
    (actor : String) (now : Nat) :
    evaluator.answer type actor now scope index =
      (evaluator.hits index type (scope.cleaned type) .structured, index) := by
  simp only [answer, SearchIndex.checkOnline, online, if_true, structured, cacheKey?]
  cases index.cache? <;> rfl

namespace Engine
variable {engine : Engine} {store : Store} {catalog : Catalog} {names : List String}
  {types : List EntityType} {type : EntityType} {index : SearchIndex} {base : List Nat}
  {field : Field} {transform? : Option Dataset.Transform} {kind : ValueKind} {id : Nat}
  {document : Document} {value : Value} {s : String}

/-- An entity in the base set, with a fresh document, is found by each text of its values, unless
the field transforms lists: then it is found if some whole value is transformed to the same. -/
theorem finds_iff (viewed : engine.view = store.view) (declared : catalog.Declared names)
    (made : Registry.ofTypes catalog types = .ok engine.registry) (onCatalog : store.catalog = catalog)
    (online : index.online = true) (member : type ∈ engine.registry.entityTypes)
    (based : engine.evaluator.base type = .ok base) (inBase : id ∈ base)
    (isField : field ∈ type.fields) (structured : field.name ≠ anyField)
    (alike : field.Transforms transform?) (known : field.kind catalog type.name = .ok kind)
    (fresh : Document.build catalog store.view type ⟨type.name, id⟩ none = .ok (some document))
    (indexed : index.documents.get? ⟨type.name, id⟩ = some document)
    (stored : value ∈ store.view.liveValues field ⟨type.name, id⟩) (hasText : value.HasText kind s)
    (filled : s ≠ "") (clear : Term.quote ∉ s.toList) (actor : String) (now : Nat)
    (matchAll : Bool) :
    ∃ hits, engine.evaluator.answer type actor now (.quoting matchAll field.name s) index =
        (.ok hits, index) ∧
      (id ∈ hits.ids ↔ kind = .text ∨ transform? = none ∨ ∃ transform, transform? = some transform ∧
        ∃ other ∈ store.view.liveValues field ⟨type.name, id⟩,
          Text.lower (transform.ofValues other) = Text.lower (transform.ofTerms s)) := by
  obtain ⟨orderly, sameCatalog⟩ := Registry.orderly_of_ofTypes made
  have paired : engine.registry.catalog.Paired := sameCatalog ▸ declared.paired
  have onRegistry : store.catalog = engine.registry.catalog := onCatalog.trans sameCatalog.symm
  have built : store.documentOf type ⟨type.name, id⟩ none = some document := by
    rw [← sameCatalog, Store.build_eq_documentOf paired orderly onRegistry member rfl] at fresh
    exact Except.ok.inj fresh
  have held : document.texts field.name =
      (store.view.liveValues field ⟨type.name, id⟩).flatMap field.indexTexts := by
    rw [Store.texts_documentOf paired orderly onRegistry member rfl built, StoreView.liveTexts,
      EntityType.field?_of_mem isField]
  have contained : store.contains ⟨type.name, id⟩ = true := by
    rw [← Store.isSome_documentOf store type _ none, built]
    rfl
  -- Cleaning a scope leaves its filter as it is.
  have mode := Scope.mode_quoting structured matchAll s
  have filtered : engine.evaluator.binding.filter engine.evaluator.catalog type
      ((Scope.quoting matchAll field.name s).cleaned type) .structured =
        .ok (.matching (field.asks kind (field.transformTerm s))) := by
    rw [← mode, Binding.filter_cleaned, mode]
    change (engine.config.binding true).filter engine.registry.catalog type _ _ = _
    rw [sameCatalog]
    exact Scope.filter_quoting engine.config catalog isField known filled clear
      (alike.transformTerm_ne_empty filled) matchAll
  rw [Evaluator.answer_structured online mode, Evaluator.hits, filtered]
  change ∃ hits, (engine.evaluator.fetch type _, index) = _ ∧ _
  rw [Evaluator.fetch_eq based]
  refine ⟨_, rfl, ?_⟩
  have viewContains : engine.evaluator.view.contains ⟨type.name, id⟩ = true := by
    change engine.view.contains _ = true
    rw [viewed]
    exact contained
  rw [← Field.accepts_asks_iff alike hasText stored held, Hits.mem_ofList, List.mem_filter,
    Evaluator.mem_matching, viewContains, List.contains_iff_mem.2 inBase]
  simp [indexed]

end Engine
/-! ## A book with two keywords -/

namespace Library

def keywordCatalog : Catalog :=
  (Catalog.empty.defineModel book [("keywords", .list)]).toOption.getD .empty

theorem keywordCatalog_declared : keywordCatalog.Declared [] :=
  Catalog.Declared.empty.model book [("keywords", .list)] rfl

def keywords (transform? : Option Dataset.Transform) : Field :=
  { field "keywords" [] "keywords" with
    termTransform? := transform?.map Dataset.Transform.ofTerms
    valueTransform? := transform?.map Dataset.Transform.ofValues }

theorem keywords_transforms (transform? : Option Dataset.Transform) :
    (keywords transform?).Transforms transform? := ⟨rfl, rfl⟩

def keywordBook (transform? : Option Dataset.Transform) : EntityType where
  name := book
  fields := [keywords transform?]
  fields_ne_nil := by simp
  names_nodup := by simp

def keywordRegistry (transform? : Option Dataset.Transform) : Registry :=
  (Registry.ofTypes keywordCatalog [keywordBook transform?]).toOption.getD
    { catalog := keywordCatalog }

def redAndBlue : Value := .list (["red", "blue"].map .text)

def keywordStore : Store :=
  match (Store.empty keywordCatalog).insert book [("keywords", redAndBlue)] with
  | .ok outcome => outcome.after
  | .error _ => .empty keywordCatalog

def keywordEngine (transform? : Option Dataset.Transform) : Engine where
  registry := keywordRegistry transform?
  config := {}
  view := keywordStore.view
  permissions := .granted Grants.empty

def keywordDocument (texts : List String) : Document where
  entity := ⟨book, 1⟩
  fields := SortedMap.ofList [("keywords", texts)]

def keywordIndex (texts : List String) : SearchIndex where
  documents := SortedMap.empty.insert ⟨book, 1⟩ (keywordDocument texts)

/-- As they are, both keywords are texts of the document, and the second one finds the book. -/
theorem finds_blue :
    let index := keywordIndex ["red", "blue"]
    Document.build keywordCatalog keywordStore.view (keywordBook none) ⟨book, 1⟩ none =
        .ok (some (keywordDocument ["red", "blue"])) ∧
      redAndBlue ∈ keywordStore.view.liveValues (keywords none) ⟨book, 1⟩ ∧
      ∃ hits, (keywordEngine none).evaluator.answer (keywordBook none) "ada" 0
        (.quoting true "keywords" "blue") index = (.ok hits, index) ∧ 1 ∈ hits.ids := by
  intro index
  have made : Registry.ofTypes keywordCatalog [keywordBook none] =
      .ok (keywordEngine none).registry := rfl
  have member : keywordBook none ∈ (keywordEngine none).registry.entityTypes :=
    List.mem_singleton.2 rfl
  have based : (keywordEngine none).evaluator.base (keywordBook none) = .ok [1] := by decide +kernel
  have known : (keywords none).kind keywordCatalog book = .ok .list := by decide +kernel
  have fresh : Document.build keywordCatalog keywordStore.view (keywordBook none) ⟨book, 1⟩ none =
      .ok (some (keywordDocument ["red", "blue"])) := by decide +kernel
  have indexed : index.documents.get? ⟨book, 1⟩ = some (keywordDocument ["red", "blue"]) := by
    decide +kernel
  have stored : redAndBlue ∈ keywordStore.view.liveValues (keywords none) ⟨book, 1⟩ :=
    List.mem_singleton.2 rfl
  have hasBlue : redAndBlue.HasText .list "blue" := .list (by decide)
  obtain ⟨hits, answered, found⟩ := Engine.finds_iff rfl keywordCatalog_declared made rfl rfl
    member based (List.mem_singleton.2 rfl) (List.mem_singleton.2 rfl) (by decide)
    (keywords_transforms none) known fresh indexed stored hasBlue (by decide) (by decide) "ada" 0
    true
  exact ⟨fresh, stored, hits, answered, found.2 (.inr (.inl rfl))⟩

/-- Canonical identifiers make one text of both keywords, so the second one does not find the
book. -/
theorem misses_blue :
    let index := keywordIndex ["red blue"]
    Document.build keywordCatalog keywordStore.view (keywordBook (some .uuid)) ⟨book, 1⟩ none =
        .ok (some (keywordDocument ["red blue"])) ∧
      redAndBlue ∈ keywordStore.view.liveValues (keywords (some .uuid)) ⟨book, 1⟩ ∧
      redAndBlue.HasText .list "blue" ∧
      (keywordEngine (some .uuid)).evaluator.base (keywordBook (some .uuid)) = .ok [1] ∧
      (keywordEngine (some .uuid)).evaluator.answer (keywordBook (some .uuid)) "ada" 0
        (.quoting true "keywords" "blue") index = (.ok Hits.none, index) := by
  intro index
  have stored : redAndBlue ∈ keywordStore.view.liveValues (keywords (some .uuid)) ⟨book, 1⟩ :=
    List.mem_singleton.2 rfl
  refine ⟨by decide +kernel, stored, .list (by decide), by decide +kernel, ?_⟩
  decide +kernel

end Library

end EntitySearch
