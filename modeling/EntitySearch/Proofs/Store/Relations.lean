import EntitySearch.Proofs.Catalog.Declared
import EntitySearch.Store.Write
import Mathlib.Data.List.Sort

/-!
# Where relations lead

What a relation leads to is a matter of the foreign keys and the links only.  The answers come in
ascending order, so an answer is determined by its members, and a relation leads from one entity to
another just if the relation that leads back leads from the other to the one.

Main statements: `mem_reached_iff`, `reached_ascending`, `mem_reached_dual`.
-/
set_option autoImplicit false
namespace EntitySearch

theorem Link.ofSide_other (side : Side) (anchor other : Nat) :
    Link.ofSide side.other other anchor = Link.ofSide side anchor other := by
  cases side <;> rfl

theorem Link.id_lt_of_compare_lt {side : Side} {anchor a b : Nat}
    (below : compare (Link.ofSide side anchor a) (Link.ofSide side anchor b) = .lt) : a < b := by
  have self : compare anchor anchor = .eq := Std.ReflCmp.compare_self
  cases side with
  | left =>
      have parts : (compare anchor anchor).then (compare a b) = .lt := below
      rw [self, Ordering.eq_then] at parts
      exact Nat.compare_eq_lt.1 parts
  | right =>
      have parts : (compare a b).then (compare anchor anchor) = .lt := below
      rw [self, Ordering.then_eq] at parts
      exact Nat.compare_eq_lt.1 parts

theorem EntityRef.ext {a b : EntityRef} (sameType : a.typeName = b.typeName)
    (sameId : a.id = b.id) : a = b := by
  cases a
  cases b
  cases sameType
  cases sameId
  rfl

theorem EntityRef.ext_iff {a b : EntityRef} : a = b ↔ a.typeName = b.typeName ∧ a.id = b.id :=
  ⟨fun same => same ▸ ⟨rfl, rfl⟩, fun same => EntityRef.ext same.1 same.2⟩

theorem EntityRef.id_lt_of_compare_lt {a b : EntityRef} (below : compare a b = .lt)
    (sameType : a.typeName = b.typeName) : a.id < b.id := by
  have self : compare b.typeName b.typeName = .eq := Std.ReflCmp.compare_self
  have parts : (compare a.typeName b.typeName).then (compare a.id b.id) = .lt := below
  rw [sameType, self, Ordering.eq_then] at parts
  exact Nat.compare_eq_lt.1 parts

section Typed
variable {β : Type} (m : SortedMap EntityRef β) (typeName : TypeName) (p : EntityRef × β → Bool)

theorem typedIds_ascending :
    ((m.entries.filter fun e => e.1.typeName = typeName && p e).map fun e => e.1.id).Pairwise
      (· < ·) := by
  rw [List.pairwise_map, List.pairwise_filter]
  refine m.ascending.imp fun {a b} below first second => ?_
  simp only [Bool.and_eq_true, decide_eq_true_eq] at first second
  exact EntityRef.id_lt_of_compare_lt below (first.1.trans second.1.symm)

theorem mem_typedIds {id : Nat} :
    id ∈ ((m.entries.filter fun e => e.1.typeName = typeName && p e).map fun e => e.1.id) ↔
      ∃ b, m.get? ⟨typeName, id⟩ = some b ∧ p (⟨typeName, id⟩, b) = true := by
  simp only [List.mem_map, List.mem_filter, Bool.and_eq_true, decide_eq_true_eq, Prod.exists,
    SortedMap.get?_eq_some_iff]
  constructor
  · rintro ⟨⟨_, _⟩, b, ⟨held, rfl, wanted⟩, rfl⟩
    exact ⟨b, held, wanted⟩
  · rintro ⟨b, held, wanted⟩
    exact ⟨⟨typeName, id⟩, b, ⟨held, rfl, wanted⟩, rfl⟩

end Typed

namespace Store

def reached (store : Store) (relation : Relation) (source : EntityRef) : List EntityRef :=
  (store.relatedIds source relation).map (EntityRef.mk relation.target)

def keyOf (store : Store) (entity : EntityRef) (name : String) : Option Nat :=
  (store.records.get? entity).bind fun record => record.foreignKeys.get? name

variable {store : Store}

theorem mem_ids {typeName : TypeName} {id : Nat} :
    id ∈ store.ids typeName ↔ store.contains ⟨typeName, id⟩ = true := by
  simp only [ids, List.mem_map, List.mem_filter, SortedMap.mem_keys_iff, decide_eq_true_eq]
  constructor
  · rintro ⟨⟨_, _⟩, ⟨stored, rfl⟩, rfl⟩
    exact stored
  · exact fun stored => ⟨⟨typeName, id⟩, ⟨stored, rfl⟩, rfl⟩

theorem mem_pointingAt {type : TypeName} {field : String} {id holder : Nat} :
    holder ∈ store.pointingAt type field id ↔ store.keyOf ⟨type, holder⟩ field = some id := by
  have holds : holder ∈ store.pointingAt type field id ↔
      ∃ record, store.records.get? ⟨type, holder⟩ = some record ∧
        (record.foreignKeys.get? field == some id) = true :=
    mem_typedIds store.records type fun e => e.2.foreignKeys.get? field == some id
  simpa [keyOf, Option.bind_eq_some_iff] using holds

theorem mem_linksOf {junction : String} {link : Link} :
    link ∈ store.linksOf junction ↔ (store.linkSet junction).contains link = true := by
  unfold linksOf linkSet
  cases store.links.get? junction with
  | none => simp [SortedMap.contains]
  | some links => exact SortedMap.mem_keys_iff

/-- By the foreign keys and the links, a relation joins one entity with another. -/
def Joins (store : Store) (relation : Relation) (source entity : EntityRef) : Prop :=
  match relation.kind with
  | .foreignKey => store.keyOf source relation.name = some entity.id
  | .reverseForeignKey field => store.keyOf entity field = some source.id
  | .manyToMany junction side => Link.ofSide side source.id entity.id ∈ store.linksOf junction

theorem mem_reached_iff {relation : Relation} {source entity : EntityRef} :
    entity ∈ store.reached relation source ↔
      entity.typeName = relation.target ∧ store.Joins relation source entity := by
  obtain ⟨type, id⟩ := entity
  have ids : id ∈ store.relatedIds source relation ↔
      store.Joins relation source ⟨relation.target, id⟩ := by
    unfold relatedIds Joins
    cases relation.kind with
    | foreignKey => exact Option.mem_toList
    | reverseForeignKey field => exact mem_pointingAt
    | manyToMany junction side =>
        simp only [List.mem_filterMap, Link.from?_eq_some_iff, exists_eq_right]
  simp only [reached, List.mem_map, EntityRef.mk.injEq]
  constructor
  · rintro ⟨found, member, rfl, rfl⟩
    exact ⟨rfl, ids.1 member⟩
  · rintro ⟨rfl, joined⟩
    exact ⟨id, ids.2 joined, rfl, rfl⟩

/-- A relation leads to an entity just if the relation that leads back leads from it. -/
theorem mem_reached_dual {relation : Relation} {source entity : EntityRef}
    (kindOk : relation.KindOk) (typed : entity.typeName = relation.target) :
    source ∈ store.reached (relation.dual source.typeName) entity ↔
      entity ∈ store.reached relation source := by
  have joined : store.Joins (relation.dual source.typeName) entity source ↔
      store.Joins relation source entity := by
    obtain ⟨name, target, kind, reverse⟩ := relation
    cases kind with
    | foreignKey => rfl
    | reverseForeignKey field =>
        obtain rfl : field = reverse := kindOk field rfl
        rfl
    | manyToMany junction side =>
        unfold Joins
        simp only [Relation.dual, RelationKind.dual, Link.ofSide_other]
  rw [mem_reached_iff, mem_reached_iff, joined]
  exact ⟨fun found => ⟨typed, found.2⟩, fun found => ⟨rfl, found.2⟩⟩

theorem ids_ascending (typeName : TypeName) : (store.ids typeName).Pairwise (· < ·) := by
  rw [ids, SortedMap.keys, List.pairwise_map, List.pairwise_filter, List.pairwise_map]
  refine store.records.ascending.imp fun {a b} below first second => ?_
  rw [decide_eq_true_eq] at first second
  exact EntityRef.id_lt_of_compare_lt below (first.trans second.symm)

theorem pointingAt_ascending (type : TypeName) (field : String) (id : Nat) :
    (store.pointingAt type field id).Pairwise (· < ·) :=
  typedIds_ascending store.records type fun e => e.2.foreignKeys.get? field == some id

theorem linksOf_ascending (junction : String) :
    (store.linksOf junction).Pairwise (fun a b => compare a b = .lt) := by
  unfold linksOf
  split
  · next links _ => exact List.pairwise_map.2 links.ascending
  · exact List.Pairwise.nil

theorem relatedIds_ascending (source : EntityRef) (relation : Relation) :
    (store.relatedIds source relation).Pairwise (· < ·) := by
  unfold relatedIds
  cases relation.kind with
  | foreignKey =>
      change (store.keyOf source relation.name).toList.Pairwise (· < ·)
      cases store.keyOf source relation.name <;> simp
  | reverseForeignKey field => exact pointingAt_ascending ..
  | manyToMany junction side =>
      refine List.pairwise_filterMap.2 ((linksOf_ascending junction).imp fun {a b} below => ?_)
      intro first isFirst second isSecond
      rw [Link.from?_eq_some_iff] at isFirst isSecond
      subst isFirst
      subst isSecond
      exact Link.id_lt_of_compare_lt below

theorem reached_ascending (relation : Relation) (source : EntityRef) :
    (store.reached relation source).Pairwise (fun a b => a.id < b.id) :=
  List.pairwise_map.2 (relatedIds_ascending source relation)

theorem eq_of_ascending {found other : List EntityRef}
    (ascending : found.Pairwise (fun a b => a.id < b.id))
    (otherAscending : other.Pairwise (fun a b => a.id < b.id))
    (same : ∀ entity, entity ∈ found ↔ entity ∈ other) : found = other := by
  have irreflexive : Std.Irrefl fun a b : EntityRef => a.id < b.id := ⟨fun a => lt_irrefl a.id⟩
  have antisymmetric : Std.Antisymm fun a b : EntityRef => a.id < b.id :=
    ⟨fun a b first second => absurd first (lt_asymm second)⟩
  exact ascending.eq_of_mem_iff otherAscending same

end Store
end EntitySearch
