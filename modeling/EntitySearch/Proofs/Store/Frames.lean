import EntitySearch.Proofs.Store.Relations
import EntitySearch.Proofs.Store.Writes

/-!
# What writes leave alone

A write concerns one entity or one junction.  Each statement here says which foreign keys and links
a kind of write changes and that everything else stays: `keyOf_setForeignKey`, `keyOf_without`,
`mem_linksOf_without`, `mem_linksOf_link`, `mem_linksOf_unlink`.
-/
set_option autoImplicit false
namespace EntitySearch
namespace Store

/-- Two stores hold the same of every entity but one. -/
structure AgreeBut (entity : EntityRef) (before after : Store) : Prop where
  catalog : after.catalog = before.catalog
  contains : ∀ other, other ≠ entity → after.contains other = before.contains other
  attrs : ∀ other, other ≠ entity → ∀ attr, after.attr? other attr = before.attr? other attr

variable {store : Store}

theorem joins_congr {other : Store}
    (keys : ∀ entity name, other.keyOf entity name = store.keyOf entity name)
    (links : other.links = store.links) (relation : Relation) (source entity : EntityRef) :
    other.Joins relation source entity ↔ store.Joins relation source entity := by
  unfold Joins
  cases relation.kind with
  | foreignKey =>
      change other.keyOf source relation.name = _ ↔ store.keyOf source relation.name = _
      rw [keys]
  | reverseForeignKey field =>
      change other.keyOf entity field = _ ↔ store.keyOf entity field = _
      rw [keys]
  | manyToMany junction side =>
      change _ ∈ other.linksOf junction ↔ _ ∈ store.linksOf junction
      unfold linksOf
      rw [links]

theorem get?_putRecord (entity : EntityRef) (record : Record) (other : EntityRef) :
    (store.putRecord entity record).records.get? other =
      if other = entity then some record else store.records.get? other :=
  SortedMap.get?_insert ..

theorem keyOf_putRecord (entity : EntityRef) (record : Record) (other : EntityRef)
    (name : String) :
    (store.putRecord entity record).keyOf other name =
      if other = entity then record.foreignKeys.get? name else store.keyOf other name := by
  unfold keyOf
  rw [get?_putRecord]
  split <;> rfl

theorem agreeBut_of_records {entity : EntityRef} {record : Record} {after : Store}
    (catalog : after.catalog = store.catalog)
    (records : after.records = (store.putRecord entity record).records) :
    AgreeBut entity store after := by
  have same : ∀ other, other ≠ entity →
      after.records.get? other = store.records.get? other := by
    intro other differs
    rw [records, get?_putRecord, if_neg differs]
  refine ⟨catalog, ?_, ?_⟩
  · intro other differs
    rw [contains, contains, SortedMap.contains, SortedMap.contains, same other differs]
  · intro other differs attr
    rw [attr?, attr?, same other differs]

theorem agreeBut_insert {type : TypeName} {attributes : List (String × Value)}
    {outcome : Outcome EntityRef} (success : store.insert type attributes = .ok outcome) :
    AgreeBut ⟨type, store.nextId⟩ store outcome.after := by
  obtain ⟨stored, -, -, after, -⟩ := insert_eq_ok success
  exact agreeBut_of_records (by rw [after]; rfl) (by rw [after])

theorem links_insert {type : TypeName} {attributes : List (String × Value)}
    {outcome : Outcome EntityRef} (success : store.insert type attributes = .ok outcome) :
    outcome.after.links = store.links := by
  obtain ⟨stored, -, -, after, -⟩ := insert_eq_ok success
  rw [after]
  rfl

theorem keyOf_insert {type : TypeName} {attributes : List (String × Value)}
    {outcome : Outcome EntityRef} (success : store.insert type attributes = .ok outcome)
    (fresh : store.records.get? ⟨type, store.nextId⟩ = none) (other : EntityRef) (name : String) :
    outcome.after.keyOf other name = store.keyOf other name := by
  obtain ⟨stored, -, -, after, -⟩ := insert_eq_ok success
  have keys : outcome.after.keyOf other name =
      (store.putRecord ⟨type, store.nextId⟩ { attributes := stored }).keyOf other name := by
    rw [after]
    rfl
  rw [keys, keyOf_putRecord]
  split
  · next same =>
    rw [same, keyOf, fresh]
    rfl
  · rfl

theorem joins_insert {type : TypeName} {attributes : List (String × Value)}
    {outcome : Outcome EntityRef} (success : store.insert type attributes = .ok outcome)
    (fresh : store.records.get? ⟨type, store.nextId⟩ = none) (relation : Relation)
    (source entity : EntityRef) :
    outcome.after.Joins relation source entity ↔ store.Joins relation source entity :=
  joins_congr (keyOf_insert success fresh) (links_insert success) relation source entity

theorem agreeBut_update {entity : EntityRef} {attributes : List (String × Value)}
    {outcome : Outcome Unit} (success : store.update entity attributes = .ok outcome) :
    AgreeBut entity store outcome.after := by
  obtain ⟨record, -, stored, -, after, -⟩ := update_eq_ok success
  exact agreeBut_of_records (by rw [after]; rfl) (by rw [after])

theorem links_update {entity : EntityRef} {attributes : List (String × Value)}
    {outcome : Outcome Unit} (success : store.update entity attributes = .ok outcome) :
    outcome.after.links = store.links := by
  obtain ⟨record, -, stored, -, after, -⟩ := update_eq_ok success
  rw [after]
  rfl

theorem keyOf_update {entity : EntityRef} {attributes : List (String × Value)}
    {outcome : Outcome Unit} (success : store.update entity attributes = .ok outcome)
    (other : EntityRef) (name : String) :
    outcome.after.keyOf other name = store.keyOf other name := by
  obtain ⟨record, found, stored, -, after, -⟩ := update_eq_ok success
  rw [after, keyOf_putRecord]
  split
  · next same =>
    rw [same, keyOf, found]
    rfl
  · rfl

theorem joins_update {updated : EntityRef} {attributes : List (String × Value)}
    {outcome : Outcome Unit} (success : store.update updated attributes = .ok outcome)
    (relation : Relation) (source entity : EntityRef) :
    outcome.after.Joins relation source entity ↔ store.Joins relation source entity :=
  joins_congr (keyOf_update success) (links_update success) relation source entity

theorem agreeBut_setForeignKey {entity : EntityRef} {name : String} {target : Option Nat}
    {outcome : Outcome Unit} (success : store.setForeignKey entity name target = .ok outcome) :
    AgreeBut entity store outcome.after := by
  obtain ⟨relation, -, -, -, record, -, after, -⟩ := setForeignKey_eq_ok success
  exact agreeBut_of_records (by rw [after]; rfl) (by rw [after])

theorem links_setForeignKey {entity : EntityRef} {name : String} {target : Option Nat}
    {outcome : Outcome Unit} (success : store.setForeignKey entity name target = .ok outcome) :
    outcome.after.links = store.links := by
  obtain ⟨relation, -, -, -, record, -, after, -⟩ := setForeignKey_eq_ok success
  rw [after]
  rfl

theorem keyOf_setForeignKey {entity : EntityRef} {name : String} {target : Option Nat}
    {outcome : Outcome Unit} (success : store.setForeignKey entity name target = .ok outcome)
    (other : EntityRef) (key : String) :
    outcome.after.keyOf other key =
      if other = entity ∧ key = name then target else store.keyOf other key := by
  obtain ⟨relation, -, -, -, record, stored, after, -⟩ := setForeignKey_eq_ok success
  rw [after, keyOf_putRecord]
  by_cases same : other = entity
  · have held : store.keyOf other key = record.foreignKeys.get? key := by
      rw [same, keyOf, stored]
      rfl
    rw [if_pos same, held]
    cases target with
    | none => simp only [withKey, SortedMap.get?_erase, same, true_and]
    | some id => simp only [withKey, SortedMap.get?_insert, same, true_and]
  · rw [if_neg same, if_neg fun both => same both.1]

/-! ## Deletion -/

theorem get?_clearKey (type : TypeName) (field : String) (id : Nat) (holder : EntityRef)
    (record : Record) (name : String) :
    (if holder.typeName = type ∧ record.foreignKeys.get? field = some id then
      { record with foreignKeys := record.foreignKeys.erase field }
    else record : Record).foreignKeys.get? name =
      if (holder.typeName, name) = (type, field) ∧ record.foreignKeys.get? name = some id then none
      else record.foreignKeys.get? name := by
  by_cases cleared : holder.typeName = type ∧ record.foreignKeys.get? field = some id
  · rw [if_pos cleared, SortedMap.get?_erase]
    by_cases same : name = field
    · subst same
      rw [if_pos rfl, if_pos ⟨by rw [cleared.1], cleared.2⟩]
    · rw [if_neg same, if_neg fun both => same (Prod.mk.inj both.1).2]
  · rw [if_neg cleared, if_neg]
    rintro ⟨here, holds⟩
    cases here
    exact cleared ⟨rfl, holds⟩

theorem clearKeys_cons (key : TypeName × String) (rest : List (TypeName × String)) (id : Nat)
    (holder : EntityRef) (record : Record) :
    clearKeys (key :: rest) id holder record = clearKeys rest id holder
      (if holder.typeName = key.1 ∧ record.foreignKeys.get? key.2 = some id then
        { record with foreignKeys := record.foreignKeys.erase key.2 }
      else record) := rfl

theorem get?_clearKeys {keys : List (TypeName × String)} {id : Nat} {holder : EntityRef}
    {record : Record} {name : String} :
    (clearKeys keys id holder record).foreignKeys.get? name =
      if (holder.typeName, name) ∈ keys ∧ record.foreignKeys.get? name = some id then none
      else record.foreignKeys.get? name := by
  induction keys generalizing record with
  | nil => simp [clearKeys]
  | cons key rest ih =>
      rw [clearKeys_cons, ih, get?_clearKey]
      by_cases here : (holder.typeName, name) = key
      · by_cases holds : record.foreignKeys.get? name = some id <;> simp [here, holds]
      · simp [here]

theorem clearKeys_attributes (keys : List (TypeName × String)) (id : Nat) (holder : EntityRef)
    (record : Record) : (clearKeys keys id holder record).attributes = record.attributes := by
  induction keys generalizing record with
  | nil => rfl
  | cons key rest ih =>
      rw [clearKeys_cons, ih]
      split <;> rfl

theorem get?_without (entity other : EntityRef) :
    (store.without entity).records.get? other =
      if other = entity then none
      else (store.records.get? other).map
        (clearKeys (store.keysToward entity.typeName) entity.id other) := by
  change ((store.records.erase entity).map _).get? other = _
  rw [SortedMap.get?_map, SortedMap.get?_erase]
  split <;> rfl

theorem agreeBut_without (entity : EntityRef) : AgreeBut entity store (store.without entity) := by
  refine ⟨rfl, ?_, ?_⟩
  · intro other differs
    rw [contains, contains, SortedMap.contains, SortedMap.contains, get?_without, if_neg differs,
      Option.isSome_map]
  · intro other differs attr
    rw [attr?, attr?, get?_without, if_neg differs]
    cases store.records.get? other with
    | none => rfl
    | some record => simp [clearKeys_attributes]

theorem contains_without_self (entity : EntityRef) :
    (store.without entity).contains entity = false := by
  rw [contains, SortedMap.contains, get?_without, if_pos rfl]
  rfl

theorem mem_keysToward {type model : TypeName} {field : String} :
    (model, field) ∈ store.keysToward type ↔ ∃ name relation,
      store.catalog.relation? type name = some relation ∧
        relation.kind = .reverseForeignKey field ∧ relation.target = model := by
  unfold keysToward Catalog.relation?
  cases store.catalog.model? type with
  | none => simp
  | some definition =>
      simp only [List.mem_filterMap, SortedMap.values, List.mem_map, Prod.exists,
        Option.bind_some, SortedMap.get?_eq_some_iff]
      constructor
      · rintro ⟨relation, ⟨name, found, member, rfl⟩, isKey⟩
        refine ⟨name, found, member, ?_⟩
        split at isKey
        · next kind =>
          cases isKey
          exact ⟨kind, rfl⟩
        · cases isKey
      · rintro ⟨name, relation, member, kind, rfl⟩
        refine ⟨relation, ⟨name, relation, member, rfl⟩, ?_⟩
        rw [kind]

theorem mem_keysToward_iff (paired : store.catalog.Paired) {type model : TypeName}
    {field : String} :
    (model, field) ∈ store.keysToward type ↔ ∃ relation,
      store.catalog.relation? model field = some relation ∧ relation.kind = .foreignKey ∧
        relation.target = type := by
  rw [mem_keysToward]
  constructor
  · rintro ⟨name, relation, stored, kind, rfl⟩
    obtain ⟨-, kindOk, back⟩ := paired _ _ _ stored
    obtain rfl := kindOk field kind
    refine ⟨relation.dual type, back, ?_, rfl⟩
    rw [Relation.dual, kind]
    rfl
  · rintro ⟨relation, stored, kind, rfl⟩
    obtain ⟨rfl, -, back⟩ := paired _ _ _ stored
    refine ⟨relation.reverse, relation.dual model, back, ?_, rfl⟩
    rw [Relation.dual, kind]
    rfl

theorem keyOf_without (entity other : EntityRef) (name : String) :
    (store.without entity).keyOf other name =
      if other = entity ∨ ((other.typeName, name) ∈ store.keysToward entity.typeName ∧
        store.keyOf other name = some entity.id) then none
      else store.keyOf other name := by
  unfold keyOf
  rw [get?_without]
  by_cases same : other = entity
  · rw [if_pos same, if_pos (Or.inl same)]
    rfl
  · rw [if_neg same]
    cases store.records.get? other with
    | none => simp
    | some record =>
        simp only [Option.map_some, Option.bind_some, get?_clearKeys, same, false_or]

theorem mem_linksOf_without (entity : EntityRef) (name : String) (link : Link) :
    link ∈ (store.without entity).linksOf name ↔ link ∈ store.linksOf name ∧
      ∀ junction, store.catalog.junction? name = some junction →
        involves junction entity link = false := by
  have dropped : (store.without entity).links.get? name = (store.links.get? name).map _ :=
    SortedMap.get?_map ..
  rw [mem_linksOf, mem_linksOf, linkSet, linkSet, dropped]
  cases store.links.get? name with
  | none => simp [SortedMap.contains]
  | some links =>
      cases store.catalog.junction? name with
      | none => simp
      | some junction =>
          simp only [Option.map_some, Option.getD_some, SortedMap.contains, SortedMap.get?_filter,
            Option.isSome_filter, Option.some.injEq, forall_eq']
          cases links.get? link <;> simp

/-- Once an entity is deleted, relations join what they joined before, less the entity itself. -/
theorem joins_without (paired : store.catalog.Paired) (owned : store.catalog.JunctionsOwned)
    {deleted source entity : EntityRef} {relation : Relation}
    (stored : store.catalog.relation? source.typeName relation.name = some relation)
    (typed : entity.typeName = relation.target) :
    (store.without deleted).Joins relation source entity ↔
      store.Joins relation source entity ∧ source ≠ deleted ∧ entity ≠ deleted := by
  obtain ⟨-, kindOk, back⟩ := paired _ _ _ stored
  have isSource : source = deleted ↔ source.typeName = deleted.typeName ∧ source.id = deleted.id :=
    EntityRef.ext_iff
  have isEntity : entity = deleted ↔
      relation.target = deleted.typeName ∧ entity.id = deleted.id := by
    rw [EntityRef.ext_iff, typed]
  unfold Joins
  cases kind : relation.kind with
  | foreignKey =>
      have toward : (source.typeName, relation.name) ∈ store.keysToward deleted.typeName ↔
          relation.target = deleted.typeName := by
        rw [mem_keysToward_iff paired, stored]
        simp [kind]
      simp only [keyOf_without, toward, ne_eq]
      grind
  | reverseForeignKey field =>
      -- The key is stored on the other model and leads to the model of the source.
      have toward : (entity.typeName, field) ∈ store.keysToward deleted.typeName ↔
          source.typeName = deleted.typeName := by
        rw [mem_keysToward_iff paired, typed, kindOk field kind, back]
        simp [Relation.dual, RelationKind.dual, kind]
      simp only [keyOf_without, toward, ne_eq]
      grind
  | manyToMany junction side =>
      have entry := owned _ _ _ _ _ stored kind
      simp only [mem_linksOf_without, entry, Option.some.injEq, forall_eq', ne_eq, isSource,
        isEntity]
      cases side <;> simp [Relation.table, involves, Link.ofSide] <;> grind

/-! ## Links -/

theorem linkSet_insert (junction name : String) (links : SortedSet Link) :
    ({ store with links := store.links.insert junction links } : Store).linkSet name =
      if name = junction then links else store.linkSet name := by
  unfold linkSet
  change (((store.links.insert junction links).get? name).getD .empty) = _
  rw [SortedMap.get?_insert]
  split <;> rfl

theorem mem_linksOf_link {anchor : EntityRef} {junction : String} {side : Side}
    {added : List Nat} (name : String) (link : Link) :
    link ∈ ({ store with
        links := store.links.insert junction (added.foldl
          (fun links id => links.add (Link.ofSide side anchor.id id)) (store.linkSet junction)) } :
        Store).linksOf name ↔
      link ∈ store.linksOf name ∨
        (name = junction ∧ ∃ id ∈ added, link = Link.ofSide side anchor.id id) := by
  rw [mem_linksOf, mem_linksOf, linkSet_insert]
  by_cases same : name = junction
  · subst same
    rw [if_pos rfl]
    unfold SortedMap.contains SortedSet.add
    rw [SortedMap.get?_foldl_insert (Link.ofSide side anchor.id) ()]
    simp only [List.mem_map, true_and, eq_comm]
    split
    · next isNew => simp [isNew]
    · next isOld => simp [isOld]
  · simp [same]

theorem mem_linksOf_unlink {anchor : EntityRef} {junction : String} {side : Side}
    {removed : List Nat} (name : String) (link : Link) :
    link ∈ ({ store with
        links := store.links.insert junction (removed.foldl
          (fun links id => links.erase (Link.ofSide side anchor.id id))
          (store.linkSet junction)) } : Store).linksOf name ↔
      link ∈ store.linksOf name ∧
        ¬ (name = junction ∧ ∃ id ∈ removed, link = Link.ofSide side anchor.id id) := by
  rw [mem_linksOf, mem_linksOf, linkSet_insert]
  by_cases same : name = junction
  · subst same
    rw [if_pos rfl]
    unfold SortedMap.contains
    rw [SortedMap.get?_foldl_erase (Link.ofSide side anchor.id)]
    simp only [List.mem_map, true_and, eq_comm]
    split
    · next isRemoved => simp [isRemoved]
    · next stays => simp [stays]
  · simp [same]

end Store
end EntitySearch
