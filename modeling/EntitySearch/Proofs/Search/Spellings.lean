import EntitySearch.Proofs.Query.Words
import EntitySearch.Proofs.Schema.Identifiers
import EntitySearch.Proofs.Search.Finding

/-!
# Finding identifiers by any of their spellings

A spelling of an identifier holds neither white space nor quotes and does not begin with a dash, so
a scope that asks a field for it puts one condition on the documents.  A field that brings terms and
values into their normal form has the same text for all spellings of an identifier, so an entity is
found by any spelling of an identifier that is stored under the field in any other.

Main statements: `ofText_word`, `finds_iff_accepts`, `uuid_normal_form`.
-/
set_option autoImplicit false
namespace EntitySearch

namespace Term

/-- A text that is neither cut, nor negated, nor the keyword is one term. -/
theorem ofText_word {s : String} {c : Char} {rest : List Char} (whole : s.toList = c :: rest)
    (notDash : c ≠ dash) (noQuote : quote ∉ s.toList)
    (solid : ∀ c ∈ s.toList, Text.isSpace c = false) (other : s.toList ≠ orKeyword) :
    ofText s = [.plain s] := by
  have piece : s.toList.splitOnP Text.isSpace = [s.toList] :=
    List.splitOnP_eq_singleton solid
  have notKeyword : (c, Role.letter) :: bare rest ≠ bare orKeyword := by
    intro same
    have spelled := ((eq_bare_iff (solid_bare (c :: rest)) orKeyword).1 same).2
    exact other (whole.trans ((letters_bare (c :: rest)).symm.trans spelled))
  have read : ofRun (bare s.toList) = some (.plain s) := by
    have begun := ofRun_letter (solid_bare rest) notDash
    rw [if_neg notKeyword, letters_bare, ← whole, String.ofList_toList] at begun
    rw [whole]
    exact begun
  rw [ofText, ofChars_eq, runs_of_clear noQuote, piece, List.map_singleton,
    List.filterMap_cons_some read, List.filterMap_nil]

end Term

namespace Uuid

theorem Spells.characters {cs : List Char} {u : Uuid} (spells : Spells cs u) {c : Char}
    (member : c ∈ cs) : c ∈ ['\x7b', '\x7d'] ++ urnWords ∨ (∃ d, digitChar d = c.toLower) ∨
      c.toLower = '-' := by
  have inGroups : ∀ {cs : List Char}, cs.map Char.toLower = u.render → c ∈ cs →
      (∃ d, digitChar d = c.toLower) ∨ c.toLower = '-' := fun groups member =>
    exists_digit_of_mem_render (groups ▸ List.mem_map_of_mem member)
  cases spells with
  | bare digits =>
      have lower : c.toLower ∈ u.plain := digits ▸ List.mem_map_of_mem member
      obtain ⟨d, -, same⟩ := List.mem_map.1 lower
      exact .inr (.inl ⟨d, same⟩)
  | grouped groups => exact .inr (inGroups groups member)
  | braced groups =>
      rcases List.mem_cons.1 member with rfl | member
      · exact .inl (by decide)
      · rcases List.mem_append.1 member with inner | closing
        · exact .inr (inGroups groups inner)
        · cases List.mem_singleton.1 closing
          exact .inl (by decide)
  | named groups =>
      rcases List.mem_append.1 member with word | inner
      · exact .inl (List.mem_append_right _ word)
      · exact .inr (inGroups groups inner)

theorem Spells.quote_not_mem {cs : List Char} {u : Uuid} (spells : Spells cs u) :
    Term.quote ∉ cs := by
  intro member
  have noDigit : ∀ d, digitChar d ≠ Term.quote.toLower := by decide
  rcases spells.characters member with around | ⟨d, digit⟩ | dash
  · exact absurd around (by decide)
  · exact noDigit d digit
  · exact absurd dash (by decide)

theorem exists_cons_plain (u : Uuid) : ∃ d rest, u.plain = digitChar d :: rest := by
  obtain ⟨digits, count⟩ := u
  cases digits with
  | nil => cases count
  | cons d more => exact ⟨d, _, rfl⟩

theorem Spells.head {cs : List Char} {u : Uuid} (spells : Spells cs u) :
    ∃ c rest, cs = c :: rest ∧ c ≠ Term.dash := by
  have noDigit : ∀ d, digitChar d ≠ Term.dash.toLower := by decide
  have begun : ∀ {cs : List Char} {d : Fin 16} {more : List Char},
      cs.map Char.toLower = digitChar d :: more → ∃ c rest, cs = c :: rest ∧ c ≠ Term.dash := by
    intro cs d more lower
    obtain ⟨c, rest, rfl, digit, -⟩ := List.map_eq_cons_iff.1 lower
    exact ⟨c, rest, rfl, fun dash => noDigit d (dash ▸ digit.symm)⟩
  obtain ⟨d, rest, first⟩ := u.exists_cons_plain
  cases spells with
  | bare digits => exact begun (digits.trans first)
  | grouped groups =>
      rw [render, first] at groups
      exact begun groups
  | braced groups => exact ⟨'\x7b', _, rfl, by decide⟩
  | named groups => exact ⟨'u', _, rfl, by decide⟩

theorem Spells.length {cs : List Char} {u : Uuid} (spells : Spells cs u) : 32 ≤ cs.length := by
  cases spells with
  | bare digits => exact (length_of_digits digits).ge
  | grouped groups => exact length_of_groups groups ▸ by decide
  | braced groups => simp [length_of_groups groups]
  | named groups => simp [length_of_groups groups]

theorem Spells.ne_empty {s : String} {u : Uuid} (spells : Spells s.toList u) : s ≠ "" := by
  rintro rfl
  exact absurd spells.length (by decide)

theorem Spells.blankValue {s : String} {u : Uuid} (spells : Spells s.toList u)
    (solid : ∀ c ∈ s.toList, Text.isSpace c = false) : blankValue s = false := by
  obtain ⟨c, rest, whole, -⟩ := spells.head
  rw [EntitySearch.blankValue, Text.isBlank, List.all_eq_false]
  exact ⟨c, whole ▸ List.mem_cons_self, by simp [solid c (whole ▸ List.mem_cons_self)]⟩

theorem Spells.ofText {s : String} {u : Uuid} (spells : Spells s.toList u)
    (solid : ∀ c ∈ s.toList, Text.isSpace c = false) : Term.ofText s = [.plain s] := by
  obtain ⟨c, rest, whole, notDash⟩ := spells.head
  refine Term.ofText_word whole notDash spells.quote_not_mem solid fun keyword => ?_
  have long := spells.length
  rw [keyword] at long
  exact absurd long (by decide)

end Uuid

/-! ## What is found -/

theorem Field.accepts_asks_of_mem {field : Field} {texts : Predicate.Texts} {text : String}
    (member : text ∈ texts field.name) (kind : ValueKind) :
    (field.asks kind text).accepts texts = true := by
  unfold asks
  split
  · exact List.any_eq_true.2 ⟨text, member, beq_self_eq_true _⟩
  · exact any_textContains member

/-- An index that is online holds a fresh document of an entity in the base set of its type. -/
structure Engine.Holds (engine : Engine) (store : Store) (index : SearchIndex) (type : EntityType)
    (id : Nat) : Prop where
  viewed : engine.view = store.view
  declared : ∃ names, engine.registry.catalog.Declared names
  made : ∃ types, Registry.ofTypes engine.registry.catalog types = .ok engine.registry
  onCatalog : store.catalog = engine.registry.catalog
  online : index.online = true
  member : type ∈ engine.registry.entityTypes
  inBase : ∃ base, engine.evaluator.base type = .ok base ∧ id ∈ base
  indexed : ∃ document,
    Document.build engine.registry.catalog store.view type ⟨type.name, id⟩ none =
      .ok (some document) ∧ index.documents.get? ⟨type.name, id⟩ = some document

namespace Engine.Holds
variable {engine : Engine} {store : Store} {index : SearchIndex} {type : EntityType} {id : Nat}

theorem finds_iff_accepts (holds : engine.Holds store index type id) {scope : Scope}
    (mode : scope.mode = .structured) {predicate : Predicate}
    (filtered : engine.evaluator.binding.filter engine.registry.catalog type scope .structured =
      .ok (.matching predicate)) (actor : String) (now : Nat) :
    ∃ hits, engine.evaluator.answer type actor now scope index = (.ok hits, index) ∧
      (id ∈ hits.ids ↔
        predicate.accepts (store.view.liveTexts type ⟨type.name, id⟩) = true) := by
  obtain ⟨names, declared⟩ := holds.declared
  obtain ⟨types, made⟩ := holds.made
  obtain ⟨base, based, inBase⟩ := holds.inBase
  obtain ⟨document, fresh, indexed⟩ := holds.indexed
  have orderly := (Registry.orderly_of_ofTypes made).1
  rw [Store.build_eq_documentOf declared.paired orderly holds.onCatalog holds.member rfl] at fresh
  have built := Except.ok.inj fresh
  have viewContains : engine.evaluator.view.contains ⟨type.name, id⟩ = true := by
    change engine.view.contains _ = true
    rw [holds.viewed]
    change store.contains _ = true
    rw [← Store.isSome_documentOf store type _ none, built]
    rfl
  have cleaned : engine.evaluator.binding.filter engine.evaluator.catalog type
      (scope.cleaned type) .structured = .ok (.matching predicate) := by
    rw [← mode, Binding.filter_cleaned, mode]
    exact filtered
  rw [Evaluator.answer_structured holds.online mode, Evaluator.hits, cleaned]
  change ∃ hits, (engine.evaluator.fetch type _, index) = _ ∧ _
  rw [Evaluator.fetch_eq based]
  refine ⟨_, rfl, ?_⟩
  rw [Hits.mem_ofList, List.mem_filter, Evaluator.mem_matching, viewContains,
    List.contains_iff_mem.2 inBase,
    ← Store.texts_documentOf declared.paired orderly holds.onCatalog holds.member rfl built]
  simp [indexed]

end Engine.Holds

open Uuid (Spells SpellSame)

/-- Whatever library reads and writes identifiers: bringing them into their written form is a normal
form of terms, and the same one of values.  Doing it again changes nothing, and two texts have the
same one just if they are the same text or, trimmed, are read as the same identifier.  Texts that
spell the same identifier are; if the library reads no other forms, no others are.  So an entity
with a spelling stored under a field that does it on both sides is found by any spelling of that
identifier without white space. -/
theorem uuid_normal_form (codec : Uuid.Codec) :
    let terms := TermTransform.canonical codec
    let values := ValueTransform.canonical codec
    (∀ s, terms (terms s) = terms s) ∧ (∀ value, values (.text (values value)) = values value) ∧
    (∀ s, values (.text s) = terms s) ∧
    (∀ x y, terms x = terms y ↔ x = y ∨ codec.ReadsSame x y) ∧
    (∀ x y, SpellSame x y → codec.ReadsSame x y) ∧
    ((∀ cs u, codec.parse? cs = some u → Spells cs u) →
      ∀ x y, terms x = terms y ↔ x = y ∨ SpellSame x y) ∧
    ∀ {engine : Engine} {store : Store} {index : SearchIndex} {type : EntityType} {id : Nat},
      engine.Holds store index type id →
      ∀ {field : Field}, field ∈ type.fields → field.name ≠ anyField →
        field.termTransform? = some terms → field.valueTransform? = some values →
        ∀ {t s : String}, .text t ∈ store.view.liveValues field ⟨type.name, id⟩ →
          SpellSame t s → (∀ c ∈ s.toList, Text.isSpace c = false) →
          ∀ (actor : String) (now : Nat) (matchAll : Bool),
            ∃ hits, engine.evaluator.answer type actor now (.asking matchAll field.name s) index =
              (.ok hits, index) ∧ id ∈ hits.ids := by
  intro terms values
  refine ⟨codec.canonical_idempotent, fun value => codec.canonical_idempotent value.render,
    fun s => rfl, fun x y => codec.canonical_eq_iff, fun x y => codec.readsSame_of_spellSame,
    fun only x y => ?_, ?_⟩
  · rw [← Uuid.Codec.readsSame_iff_spellSame only]
    exact codec.canonical_eq_iff
  · intro engine store index type id holds field isField structured onTerms onValues t s stored same
      solid actor now matchAll
    have equal : codec.canonical s = codec.canonical t :=
      codec.canonical_eq_iff.2 (.inr (codec.readsSame_of_spellSame same.symm))
    obtain ⟨-, u, -, spells, -⟩ := same
    rw [Text.trim_of_solid solid] at spells
    obtain ⟨types, made⟩ := holds.made
    obtain ⟨kind, known⟩ := Registry.kind_of_ofTypes made holds.member isField
    have transformed : field.transformTerm s = codec.canonical s := by
      rw [Field.transformTerm, onTerms]
      rfl
    have held : codec.canonical s ∈ store.view.liveTexts type ⟨type.name, id⟩ field.name := by
      rw [StoreView.liveTexts, EntityType.field?_of_mem isField]
      refine List.mem_flatMap.2 ⟨_, stored, ?_⟩
      rw [Field.indexTexts, onValues, equal]
      exact List.mem_singleton.2 rfl
    have kept : field.transformTerm s ≠ "" := transformed ▸ codec.canonical_ne_empty spells.ne_empty
    have filtered := Scope.filter_asking engine.config engine.registry.catalog isField known
      (spells.blankValue solid) (spells.ofText solid) kept matchAll
    obtain ⟨hits, answered, found⟩ := holds.finds_iff_accepts
      (Scope.mode_asking structured matchAll s) filtered actor now
    refine ⟨hits, answered, found.2 ?_⟩
    rw [transformed]
    exact Field.accepts_asks_of_mem held kind

namespace Library

def serialCatalog : Catalog :=
  (Catalog.empty.defineModel book [("serial", .text)]).toOption.getD .empty

theorem serialCatalog_declared : serialCatalog.Declared [] :=
  Catalog.Declared.empty.model book [("serial", .text)] rfl

def serial : Field :=
  { field "serial" [] "serial" with
    termTransform? := some TermTransform.uuid
    valueTransform? := some ValueTransform.uuid }

def serialBook : EntityType where
  name := book
  fields := [serial]
  fields_ne_nil := by simp
  names_nodup := by simp

def serialRegistry : Registry :=
  (Registry.ofTypes serialCatalog [serialBook]).toOption.getD { catalog := serialCatalog }

def storedSerial : String := " \x7b67E55044-10B1-426F-9247-BB680E5FE0C8\x7d"

def askedSerial : String := "67e5504410b1426f9247bb680e5fe0c8"

def serialStore : Store :=
  match (Store.empty serialCatalog).insert book [("serial", .text storedSerial)] with
  | .ok outcome => outcome.after
  | .error _ => .empty serialCatalog

def serialEngine : Engine where
  registry := serialRegistry
  config := {}
  view := serialStore.view
  permissions := .granted Grants.empty

def serialDocument : Document where
  entity := ⟨book, 1⟩
  fields := SortedMap.ofList [("serial", ["67e55044-10b1-426f-9247-bb680e5fe0c8"])]

def serialIndex : SearchIndex where
  documents := SortedMap.empty.insert ⟨book, 1⟩ serialDocument

theorem serialIndex_holds : serialEngine.Holds serialStore serialIndex serialBook 1 where
  viewed := rfl
  declared := ⟨[], serialCatalog_declared⟩
  made := ⟨[serialBook], rfl⟩
  onCatalog := rfl
  online := rfl
  member := List.mem_singleton.2 rfl
  inBase := ⟨[1], by decide +kernel, List.mem_singleton.2 rfl⟩
  indexed := ⟨serialDocument, by decide +kernel, by decide +kernel⟩

/-- The book is found by the digits of the serial number that it has in braces, and a library that
reads the forms relied on and no others gives both spellings the same normal form. -/
theorem finds_serial :
    storedSerial ≠ askedSerial ∧ SpellSame storedSerial askedSerial ∧
      TermTransform.canonical .strict storedSerial = TermTransform.canonical .strict askedSerial ∧
      .text storedSerial ∈ serialStore.view.liveValues serial ⟨book, 1⟩ ∧
      ∃ hits, serialEngine.evaluator.answer serialBook "ada" 0 (.asking true "serial" askedSerial)
        serialIndex = (.ok hits, serialIndex) ∧ 1 ∈ hits.ids := by
  have stored : .text storedSerial ∈ serialStore.view.liveValues serial ⟨book, 1⟩ :=
    List.mem_singleton.2 rfl
  have same : SpellSame storedSerial askedSerial := by
    let number : Uuid := ⟨[6, 7, 14, 5, 5, 0, 4, 4, 1, 0, 11, 1, 4, 2, 6, 15, 9, 2, 4, 7, 11, 11, 6,
      8, 0, 14, 5, 15, 14, 0, 12, 8], rfl⟩
    have reads : Uuid.parse? (Text.trim storedSerial.toList) = some number ∧
        Uuid.parse? (Text.trim askedSerial.toList) = some number := by decide +kernel
    exact ⟨number, number, Uuid.parse?_eq_some_iff.1 reads.1, Uuid.parse?_eq_some_iff.1 reads.2,
      rfl⟩
  have clear : (askedSerial.toList.all fun c => !Text.isSpace c) = true := by decide +kernel
  have solid : ∀ c ∈ askedSerial.toList, Text.isSpace c = false := fun c member => by
    simpa using List.all_eq_true.1 clear c member
  have only : ∀ cs u, Uuid.Codec.strict.parse? cs = some u → Spells cs u := fun cs u =>
    Uuid.parse?_eq_some_iff.1
  obtain ⟨-, -, -, -, -, normal, -⟩ := uuid_normal_form .strict
  have alike := (normal only _ _).2 (.inr same)
  obtain ⟨-, -, -, -, -, -, finds⟩ := uuid_normal_form .lenient
  have found := finds serialIndex_holds (List.mem_singleton.2 rfl) (by decide) rfl rfl stored same
    solid "ada" 0 true
  exact ⟨by decide, same, alike, stored, found⟩

end Library

end EntitySearch
