import EntitySearch.Proofs.Data.Fallible
import EntitySearch.Schema.Catalog

/-!
# Declared catalogs

A declared catalog is one that successful declarations build from nothing.  In such a catalog every
relation can be walked back: its target has the relation that leads back, and going back twice is
going nowhere.  If the junctions got distinct names, the entry of a junction tells which models its
links join.

Main statements: `Declared.paired`, `Declared.junctionsOwned`.
-/
set_option autoImplicit false
namespace EntitySearch

def Side.other : Side → Side
  | .left => .right
  | .right => .left

namespace RelationKind

def dual (name : String) : RelationKind → RelationKind
  | .foreignKey => .reverseForeignKey name
  | .reverseForeignKey _ => .foreignKey
  | .manyToMany junction side => .manyToMany junction side.other

end RelationKind

namespace Relation

def dual (source : TypeName) (relation : Relation) : Relation where
  name := relation.reverse
  target := source
  kind := relation.kind.dual relation.name
  reverse := relation.name

def KindOk (relation : Relation) : Prop :=
  ∀ field, relation.kind = .reverseForeignKey field → field = relation.reverse

def table (source : TypeName) (relation : Relation) (junction : String) : Side → Junction
  | .left => ⟨junction, source, relation.target, relation.name, relation.reverse⟩
  | .right => ⟨junction, relation.target, source, relation.reverse, relation.name⟩

theorem dual_dual (source : TypeName) {relation : Relation} (kindOk : relation.KindOk) :
    (relation.dual source).dual relation.target = relation := by
  obtain ⟨name, target, kind, reverse⟩ := relation
  cases kind with
  | foreignKey => rfl
  | reverseForeignKey field =>
      have : field = reverse := kindOk field rfl
      subst this
      rfl
  | manyToMany junction side => cases side <;> rfl

theorem kindOk_dual (source : TypeName) {relation : Relation} (kindOk : relation.KindOk) :
    (relation.dual source).KindOk := by
  intro field back
  obtain ⟨name, target, kind, reverse⟩ := relation
  cases kind with
  | foreignKey =>
      cases back
      rfl
  | reverseForeignKey field => cases back
  | manyToMany junction side => cases back

end Relation

namespace Catalog

/-- The catalogs that successful declarations build from nothing, with the names that the junctions
got, the last one first. -/
inductive Declared : Catalog → List String → Prop
  | empty : Declared .empty []
  | model {catalog grown : Catalog} {names : List String} (name : TypeName)
      (attributes : List (String × ValueKind)) (before : Declared catalog names)
      (success : catalog.defineModel name attributes = .ok grown) : Declared grown names
  | foreignKey {catalog grown : Catalog} {names : List String} (source : TypeName) (name : String)
      (target : TypeName) (reverse : String) (before : Declared catalog names)
      (success : catalog.foreignKey source name target reverse = .ok grown) : Declared grown names
  | manyToMany {catalog grown : Catalog} {names : List String} {junction : String}
      (source : TypeName) (name : String) (target : TypeName) (reverse : String)
      (before : Declared catalog names)
      (success : catalog.manyToMany source name target reverse = .ok (junction, grown)) :
      Declared grown (junction :: names)

def Paired (catalog : Catalog) : Prop :=
  ∀ model name relation, catalog.relation? model name = some relation →
    relation.name = name ∧ relation.KindOk ∧
      catalog.relation? relation.target relation.reverse = some (relation.dual model)

/-- The entry of a junction is that of every relation that goes through it. -/
def JunctionsOwned (catalog : Catalog) : Prop :=
  ∀ model name relation junction side, catalog.relation? model name = some relation →
    relation.kind = .manyToMany junction side →
      catalog.junction? junction = some (relation.table model junction side)

/-! ## What declarations do to relations -/

theorem model?_putRelation {catalog : Catalog} {model : TypeName} {definition : Model}
    (known : catalog.model? model = some definition) (relation : Relation) (other : TypeName) :
    (catalog.putRelation model relation).model? other =
      if other = model then
        some { definition with
          relations := definition.relations.insert relation.name relation }
      else catalog.model? other := by
  unfold putRelation
  rw [known]
  exact SortedMap.get?_insert ..

theorem relation?_putRelation {catalog : Catalog} {model : TypeName} {definition : Model}
    (known : catalog.model? model = some definition) (relation : Relation) (other : TypeName)
    (name : String) :
    (catalog.putRelation model relation).relation? other name =
      if other = model ∧ name = relation.name then some relation
      else catalog.relation? other name := by
  unfold relation?
  rw [model?_putRelation known]
  by_cases same : other = model
  · subst same
    simp only [if_true, true_and, known, Option.bind_some, SortedMap.get?_insert]
  · simp only [same, if_false, false_and]

theorem junction?_putRelation (catalog : Catalog) (model : TypeName) (relation : Relation)
    (junction : String) :
    (catalog.putRelation model relation).junction? junction = catalog.junction? junction := by
  unfold putRelation
  split <;> rfl

theorem relation?_defineModel {catalog grown : Catalog} {name : TypeName}
    {attributes : List (String × ValueKind)}
    (success : catalog.defineModel name attributes = .ok grown) (model : TypeName)
    (relation : String) :
    grown.relation? model relation = catalog.relation? model relation := by
  unfold defineModel at success
  split at success
  · cases success
  · next fresh =>
    split at success
    · cases success
    · cases success
      have absent : catalog.model? name = none := by
        simpa [SortedMap.contains, model?] using fresh
      unfold relation?
      by_cases same : model = name
      · subst same
        rw [absent]
        simp only [model?, SortedMap.get?_insert, if_true, Option.bind_some, Option.bind_none]
        rfl
      · simp only [model?, SortedMap.get?_insert, same, if_false]

theorem junction?_defineModel {catalog grown : Catalog} {name : TypeName}
    {attributes : List (String × ValueKind)}
    (success : catalog.defineModel name attributes = .ok grown) (junction : String) :
    grown.junction? junction = catalog.junction? junction := by
  unfold defineModel at success
  split at success
  · cases success
  · split at success
    · cases success
    · cases success
      rfl

structure Vacant (catalog : Catalog) (model : TypeName) (member : String) : Prop where
  proper : isMemberName member = true
  free : ∃ definition, catalog.model? model = some definition ∧ definition.hasMember member = false

theorem vacant_of_checkFree {catalog : Catalog} {model : TypeName} {member : String}
    (passed : catalog.checkFree model member = .ok ()) : catalog.Vacant model member := by
  unfold checkFree at passed
  split at passed
  · cases passed
  · next definition known =>
    split at passed
    · cases passed
    · next proper =>
      split at passed
      · cases passed
      · next free =>
        rw [Bool.not_eq_true, Bool.not_eq_false'] at proper
        exact ⟨proper, definition, known, Bool.not_eq_true _ ▸ free⟩

theorem Vacant.known {catalog : Catalog} {model : TypeName} {member : String}
    (vacant : catalog.Vacant model member) : ∃ definition, catalog.model? model = some definition :=
  vacant.free.imp fun _ both => both.1

theorem Vacant.relation? {catalog : Catalog} {model : TypeName} {member : String}
    (vacant : catalog.Vacant model member) : catalog.relation? model member = none := by
  obtain ⟨-, definition, known, free⟩ := vacant
  simp only [Model.hasMember, SortedMap.contains, Bool.or_eq_false_iff] at free
  have noRelation : definition.relations.get? member = none := by simpa using free.2
  simp [Catalog.relation?, known, noRelation]

theorem checkRelation_eq_ok {catalog : Catalog} {source target : TypeName} {name reverse : String}
    (passed : catalog.checkRelation source name target reverse = .ok ()) :
    catalog.Vacant source name ∧ catalog.Vacant target reverse ∧
      ¬ (source = target ∧ name = reverse) := by
  obtain ⟨_, nameFree, passed⟩ := bind_eq_ok passed
  obtain ⟨_, reverseFree, passed⟩ := bind_eq_ok passed
  refine ⟨vacant_of_checkFree nameFree, vacant_of_checkFree reverseFree, fun own => ?_⟩
  rw [if_pos own] at passed
  cases passed

/-- What a checked relation may rely on: both models exist and both names are free. -/
structure Declarable (catalog : Catalog) (source : TypeName) (relation : Relation) : Prop where
  sourceKnown : ∃ definition, catalog.model? source = some definition
  targetKnown : ∃ definition, catalog.model? relation.target = some definition
  nameFree : catalog.relation? source relation.name = none
  reverseFree : catalog.relation? relation.target relation.reverse = none
  notOwnReverse : ¬ (source = relation.target ∧ relation.name = relation.reverse)

theorem declarable_of_checkRelation {catalog : Catalog} {source : TypeName} {relation : Relation}
    (passed : catalog.checkRelation source relation.name relation.target relation.reverse =
      .ok ()) : catalog.Declarable source relation := by
  obtain ⟨nameVacant, reverseVacant, notOwn⟩ := checkRelation_eq_ok passed
  exact ⟨nameVacant.known, reverseVacant.known, nameVacant.relation?, reverseVacant.relation?,
    notOwn⟩

def putPair (catalog : Catalog) (source : TypeName) (relation : Relation) : Catalog :=
  (catalog.putRelation source relation).putRelation relation.target (relation.dual source)

theorem relation?_putPair {catalog : Catalog} {source : TypeName} {relation : Relation}
    (declarable : catalog.Declarable source relation) (model : TypeName) (name : String) :
    (catalog.putPair source relation).relation? model name =
      if model = relation.target ∧ name = relation.reverse then some (relation.dual source)
      else if model = source ∧ name = relation.name then some relation
      else catalog.relation? model name := by
  obtain ⟨definition, sourceKnown⟩ := declarable.sourceKnown
  have targetKnown : ∃ definition,
      (catalog.putRelation source relation).model? relation.target = some definition := by
    rw [model?_putRelation sourceKnown]
    split
    · exact ⟨_, rfl⟩
    · exact declarable.targetKnown
  obtain ⟨grown, targetKnown⟩ := targetKnown
  unfold putPair
  rw [relation?_putRelation targetKnown, relation?_putRelation sourceKnown]
  rfl

theorem junction?_putPair (catalog : Catalog) (source : TypeName) (relation : Relation)
    (junction : String) :
    (catalog.putPair source relation).junction? junction = catalog.junction? junction := by
  unfold putPair
  rw [junction?_putRelation, junction?_putRelation]

theorem relation_of_putPair {catalog : Catalog} {source : TypeName} {relation : Relation}
    (declarable : catalog.Declarable source relation) {model : TypeName} {name : String}
    {found : Relation}
    (stored : (catalog.putPair source relation).relation? model name = some found) :
    (model = relation.target ∧ name = relation.reverse ∧ found = relation.dual source) ∨
      (model = source ∧ name = relation.name ∧ found = relation) ∨
        catalog.relation? model name = some found := by
  rw [relation?_putPair declarable] at stored
  split at stored
  · next back => exact Or.inl ⟨back.1, back.2, (Option.some.inj stored).symm⟩
  · split at stored
    · next forth => exact Or.inr (Or.inl ⟨forth.1, forth.2, (Option.some.inj stored).symm⟩)
    · exact Or.inr (Or.inr stored)

theorem paired_putPair {catalog : Catalog} {source : TypeName} {relation : Relation}
    (paired : catalog.Paired) (declarable : catalog.Declarable source relation)
    (kindOk : relation.KindOk) : (catalog.putPair source relation).Paired := by
  intro model name found stored
  rcases relation_of_putPair declarable stored with ⟨rfl, rfl, rfl⟩ | ⟨rfl, rfl, rfl⟩ | earlier
  · refine ⟨rfl, Relation.kindOk_dual source kindOk, ?_⟩
    have forth : (catalog.putPair source relation).relation? source relation.name =
        some relation := by
      rw [relation?_putPair declarable, if_neg declarable.notOwnReverse, if_pos ⟨rfl, rfl⟩]
    rw [Relation.dual_dual source kindOk]
    exact forth
  · refine ⟨rfl, kindOk, ?_⟩
    rw [relation?_putPair declarable, if_pos ⟨rfl, rfl⟩]
  · obtain ⟨named, foundOk, back⟩ := paired model name found earlier
    refine ⟨named, foundOk, ?_⟩
    -- The relation that leads back is there already, so it is none of the two new ones.
    rw [relation?_putPair declarable, if_neg, if_neg, back]
    · rintro ⟨sameModel, sameName⟩
      rw [sameModel, sameName, declarable.nameFree] at back
      cases back
    · rintro ⟨sameModel, sameName⟩
      rw [sameModel, sameName, declarable.reverseFree] at back
      cases back

theorem foreignKey_eq_ok {catalog grown : Catalog} {source target : TypeName}
    {name reverse : String}
    (success : catalog.foreignKey source name target reverse = .ok grown) :
    catalog.Declarable source ⟨name, target, .foreignKey, reverse⟩ ∧
      grown = catalog.putPair source ⟨name, target, .foreignKey, reverse⟩ := by
  obtain ⟨_, passed, success⟩ := bind_eq_ok success
  exact ⟨declarable_of_checkRelation passed, (Except.ok.inj success).symm⟩

theorem manyToMany_eq_ok {catalog grown : Catalog} {source target : TypeName}
    {name reverse junction : String}
    (success : catalog.manyToMany source name target reverse = .ok (junction, grown)) :
    let relation : Relation := ⟨name, target, .manyToMany junction .left, reverse⟩
    catalog.Declarable source relation ∧
      grown.models = (catalog.putPair source relation).models ∧
      grown.junctions = (catalog.putPair source relation).junctions.insert junction
        (relation.table source junction .left) := by
  obtain ⟨_, passed, success⟩ := bind_eq_ok success
  cases success
  exact ⟨declarable_of_checkRelation passed, rfl, rfl⟩

/-! ## Declared catalogs -/

theorem relation?_eq_of_models_eq {catalog other : Catalog} (same : catalog.models = other.models)
    (model : TypeName) (name : String) :
    catalog.relation? model name = other.relation? model name := by
  simp only [relation?, model?, same]

namespace Declared

/-- In a declared catalog every relation can be walked back. -/
theorem paired {catalog : Catalog} {names : List String} (declared : catalog.Declared names) :
    catalog.Paired := by
  induction declared with
  | empty =>
      intro model name relation stored
      cases stored
  | model name attributes _ success ih =>
      intro model member relation stored
      rw [relation?_defineModel success] at stored
      rw [relation?_defineModel success]
      exact ih model member relation stored
  | foreignKey source name target reverse _ success ih =>
      obtain ⟨declarable, rfl⟩ := foreignKey_eq_ok success
      refine paired_putPair ih declarable ?_
      intro field reversed
      cases reversed
  | @manyToMany catalog grown names junction source name target reverse _ success ih =>
      obtain ⟨declarable, models, -⟩ := manyToMany_eq_ok success
      intro model member relation stored
      rw [relation?_eq_of_models_eq models] at stored ⊢
      refine paired_putPair ih declarable ?_ model member relation stored
      intro field reversed
      cases reversed

theorem junction_mem_names {catalog : Catalog} {names : List String}
    (declared : catalog.Declared names) {model : TypeName} {name : String} {relation : Relation}
    {junction : String} {side : Side} (stored : catalog.relation? model name = some relation)
    (through : relation.kind = .manyToMany junction side) : junction ∈ names := by
  induction declared generalizing model name relation side with
  | empty => cases stored
  | model _ _ _ success ih =>
      rw [relation?_defineModel success] at stored
      exact ih stored through
  | foreignKey source name target reverse _ success ih =>
      obtain ⟨declarable, rfl⟩ := foreignKey_eq_ok success
      rcases relation_of_putPair declarable stored with ⟨-, -, rfl⟩ | ⟨-, -, rfl⟩ | earlier
      · cases through
      · cases through
      · exact ih earlier through
  | manyToMany source name target reverse _ success ih =>
      obtain ⟨declarable, models, -⟩ := manyToMany_eq_ok success
      rw [relation?_eq_of_models_eq models] at stored
      rcases relation_of_putPair declarable stored with ⟨-, -, rfl⟩ | ⟨-, -, rfl⟩ | earlier
      · cases through
        exact List.mem_cons_self ..
      · cases through
        exact List.mem_cons_self ..
      · exact List.mem_cons_of_mem _ (ih earlier through)

/-- If the junctions got distinct names, each belongs to the relations that go through it. -/
theorem junctionsOwned {catalog : Catalog} {names : List String}
    (declared : catalog.Declared names) (distinctNames : names.Nodup) :
    catalog.JunctionsOwned := by
  induction declared with
  | empty =>
      intro model name relation junction side stored
      cases stored
  | model _ _ _ success ih =>
      intro model name relation junction side stored through
      rw [relation?_defineModel success] at stored
      rw [junction?_defineModel success]
      exact ih distinctNames model name relation junction side stored through
  | foreignKey source name target reverse _ success ih =>
      obtain ⟨declarable, rfl⟩ := foreignKey_eq_ok success
      intro model name relation junction side stored through
      rw [junction?_putPair]
      rcases relation_of_putPair declarable stored with ⟨-, -, rfl⟩ | ⟨-, -, rfl⟩ | earlier
      · cases through
      · cases through
      · exact ih distinctNames model name relation junction side earlier through
  | @manyToMany catalog grown names made source name target reverse before success ih =>
      obtain ⟨fresh, distinctNames⟩ := List.nodup_cons.1 distinctNames
      obtain ⟨declarable, models, junctions⟩ := manyToMany_eq_ok success
      intro model member relation junction side stored through
      rw [relation?_eq_of_models_eq models] at stored
      have entry : grown.junction? junction =
          if junction = made then
            some ((⟨name, target, .manyToMany made .left, reverse⟩ : Relation).table source made
              .left)
          else catalog.junction? junction := by
        unfold junction?
        rw [junctions, SortedMap.get?_insert]
        split
        · rfl
        · exact junction?_putPair catalog source _ junction
      rw [entry]
      rcases relation_of_putPair declarable stored with ⟨rfl, -, rfl⟩ | ⟨rfl, -, rfl⟩ | earlier
      · cases through
        rw [if_pos rfl]
        rfl
      · cases through
        rw [if_pos rfl]
      · -- An earlier relation goes through an earlier junction, so not through the new one.
        have other : junction ≠ made := by
          intro same
          exact fresh (same ▸ before.junction_mem_names earlier through)
        rw [if_neg other]
        exact ih distinctNames model member relation junction side earlier through

end Declared
end Catalog
end EntitySearch
