import EntitySearch.Proofs.Registry.Orderly
import EntitySearch.Proofs.Store.Integrity

/-!
# What a store refers to

A store that writes lead to from the empty one holds nothing undeclared and refers to nothing that
is not there.  Its attributes and foreign keys are those of its models, its links belong to
junctions of the catalog, no identifier is in use twice, and one that was deleted stays unused.

A write adds little: `written_of_operation`, `keyOf_of_operation` and `mem_linksOf_of_operation`
say of every attribute, key and link after it that it was there before or that it is declared.

Over any catalog at all, what entities, keys and links refer to was given out before, so nothing
leads from an identifier that is still to be given out (`Bounded.reached_eq_nil`).

Main statement: `intact_of_writes`.
-/
set_option autoImplicit false
namespace EntitySearch

def Write.creates : Write → Bool
  | .insert _ _ => true
  | _ => false

namespace Store

def writtenAt (store : Store) (entity : EntityRef) (attr : String) : Option Value :=
  (store.records.get? entity).bind fun record => record.attributes.get? attr

/-- All that a store holds is declared in a catalog, and all that it points at is stored. -/
structure Intact (catalog : Catalog) (store : Store) : Prop where
  keys : ∀ holder name id, store.keyOf holder name = some id →
    ∃ relation, catalog.relation? holder.typeName name = some relation ∧
      relation.kind = .foreignKey ∧ store.contains ⟨relation.target, id⟩ = true
  links : ∀ name, ∀ link ∈ store.linksOf name,
    ∃ junction, catalog.junction? name = some junction ∧
      store.contains ⟨junction.left, link.left⟩ = true ∧
        store.contains ⟨junction.right, link.right⟩ = true
  attributes : ∀ entity attr value, store.writtenAt entity attr = some value →
    ∃ kind, catalog.attrKind? entity.typeName attr = some kind
  ids : ∀ entity other, store.contains entity = true → store.contains other = true →
    entity.id = other.id → entity = other
  counted : ∀ entity, store.contains entity = true → entity.id < store.nextId

variable {store : Store}

theorem declared_of_checkAttributes {type : TypeName} {attributes : List (String × Value)}
    {checked : SortedMap String Value}
    (success : store.checkAttributes type attributes = .ok checked) {attr : String} {value : Value}
    (found : checked.get? attr = some value) :
    ∃ kind, store.catalog.attrKind? type attr = some kind := by
  unfold checkAttributes at success
  split at success
  · cases success
  · next model known =>
    split at success
    · cases success
    · next all =>
      cases success
      have given : (attr, value) ∈ attributes := by
        rcases SortedMap.mem_or_get?_of_foldl_insert found with given | none
        · exact given
        · cases none
      have isAttribute : model.attributes.contains attr = true := by
        simpa using List.find?_eq_none.1 all _ given
      obtain ⟨kind, stored⟩ := Option.isSome_iff_exists.1 isAttribute
      refine ⟨kind, ?_⟩
      rw [Catalog.attrKind?, known]
      exact stored

theorem writtenAt_putRecord (entity : EntityRef) (record : Record) (other : EntityRef)
    (attr : String) :
    (store.putRecord entity record).writtenAt other attr =
      if other = entity then record.attributes.get? attr else store.writtenAt other attr := by
  unfold writtenAt
  rw [get?_putRecord]
  split <;> rfl

theorem records_link {anchor : EntityRef} {name : String} {targets : List Nat}
    {outcome : Outcome Unit} (success : store.link anchor name targets = .ok outcome) :
    outcome.after.records = store.records := by
  obtain ⟨_, _, _, -, -, -, -, after, -⟩ := link_eq_ok success
  rw [after]

theorem mem_linksOf_of_link {anchor : EntityRef} {name : String} {targets : List Nat}
    {outcome : Outcome Unit} (success : store.link anchor name targets = .ok outcome) :
    ∃ relation junction side, store.catalog.relation? anchor.typeName name = some relation ∧
      relation.kind = .manyToMany junction side ∧
      (∀ id ∈ targets, store.contains ⟨relation.target, id⟩ = true) ∧
      ∀ through link, link ∈ outcome.after.linksOf through ↔ link ∈ store.linksOf through ∨
        (through = junction ∧ ∃ id ∈ targets, link = Link.ofSide side anchor.id id) := by
  obtain ⟨relation, junction, side, stored, kind, -, present, after, -⟩ := link_eq_ok success
  refine ⟨relation, junction, side, stored, kind, present, fun through link => ?_⟩
  rw [after, mem_linksOf_link]
  constructor
  · rintro (before | ⟨rfl, id, added, rfl⟩)
    · exact .inl before
    · exact .inr ⟨rfl, id, mem_targets_of_mem_unlinkedOf added, rfl⟩
  · rintro (before | ⟨rfl, id, member, rfl⟩)
    · exact .inl before
    · cases linked : (store.linkSet through).contains (Link.ofSide side anchor.id id) with
      | true => exact .inl (mem_linksOf.2 linked)
      | false =>
          refine .inr ⟨rfl, id, ?_, rfl⟩
          exact mem_distinct.2 (List.mem_filter.2 ⟨member, by rw [linked]; rfl⟩)

theorem records_unlink {anchor : EntityRef} {name : String} {targets : List Nat}
    {outcome : Outcome Unit} (success : store.unlink anchor name targets = .ok outcome) :
    outcome.after.records = store.records := by
  obtain ⟨_, _, _, -, -, ⟨-, after, -⟩ | ⟨-, after, -⟩⟩ := unlink_eq_ok success
  · rw [after]
  · rw [after]

theorem writtenAt_congr {after : Store} (records : after.records = store.records)
    (entity : EntityRef) (attr : String) :
    after.writtenAt entity attr = store.writtenAt entity attr := by
  rw [writtenAt, writtenAt, records]

theorem written_of_operation {write : Write} {outcome : Outcome Unit}
    (success : write.operation store = .ok outcome) {entity : EntityRef} {attr : String}
    {value : Value} (written : outcome.after.writtenAt entity attr = some value) :
    (∃ old, store.writtenAt entity attr = some old) ∨
      ∃ kind, store.catalog.attrKind? entity.typeName attr = some kind := by
  cases write with
  | insert type attributes =>
      obtain ⟨created, inserted, rfl⟩ := operation_insert_eq_ok success
      obtain ⟨checked, check, -, after, -⟩ := insert_eq_ok inserted
      have same : created.forget.after.writtenAt entity attr =
          (store.putRecord ⟨type, store.nextId⟩ { attributes := checked }).writtenAt entity attr :=
        writtenAt_congr (congrArg Store.records after) entity attr
      rw [same, writtenAt_putRecord] at written
      split at written
      · next same =>
        subst same
        exact Or.inr (declared_of_checkAttributes check written)
      · exact Or.inl ⟨value, written⟩
  | update updated attributes =>
      obtain ⟨record, held, checked, check, after, -⟩ := update_eq_ok success
      rw [after, writtenAt_putRecord] at written
      split at written
      · next same =>
        subst same
        rcases SortedMap.mem_or_get?_of_foldl_insert written with given | kept
        · exact Or.inr (declared_of_checkAttributes check (SortedMap.get?_eq_some_iff.2 given))
        · refine Or.inl ⟨value, ?_⟩
          rw [writtenAt, held]
          exact kept
      · exact Or.inl ⟨value, written⟩
  | setForeignKey holder name target =>
      obtain ⟨_, -, -, -, record, held, after, -⟩ := setForeignKey_eq_ok success
      rw [after, writtenAt_putRecord] at written
      refine Or.inl ⟨value, ?_⟩
      split at written
      · next same =>
        rw [same, writtenAt, held]
        exact written
      · exact written
  | delete deleted =>
      obtain ⟨-, after, -⟩ := delete_eq_ok success
      rw [after, writtenAt, get?_without] at written
      refine Or.inl ⟨value, ?_⟩
      split at written
      · cases written
      · rw [writtenAt]
        cases held : store.records.get? entity with
        | none =>
            rw [held] at written
            cases written
        | some record =>
            rw [held] at written
            simpa [clearKeys_attributes] using written
  | link anchor name targets =>
      rw [writtenAt_congr (records_link success)] at written
      exact Or.inl ⟨value, written⟩
  | unlink anchor name targets =>
      rw [writtenAt_congr (records_unlink success)] at written
      exact Or.inl ⟨value, written⟩

theorem keyOf_congr {after : Store} (records : after.records = store.records)
    (entity : EntityRef) (name : String) : after.keyOf entity name = store.keyOf entity name := by
  rw [keyOf, keyOf, records]

theorem keyOf_of_operation (counted : store.Counted) {write : Write} {outcome : Outcome Unit}
    (success : write.operation store = .ok outcome) {holder : EntityRef} {name : String} {id : Nat}
    (holds : outcome.after.keyOf holder name = some id) :
    store.keyOf holder name = some id ∨
      ∃ relation, store.catalog.relation? holder.typeName name = some relation ∧
        relation.kind = .foreignKey ∧ store.contains ⟨relation.target, id⟩ = true := by
  cases write with
  | insert type attributes =>
      obtain ⟨created, inserted, rfl⟩ := operation_insert_eq_ok success
      have same := keyOf_insert inserted (counted.fresh type) holder name
      exact Or.inl (same ▸ holds)
  | update entity attributes =>
      rw [keyOf_update success] at holds
      exact Or.inl holds
  | setForeignKey entity key target =>
      rw [keyOf_setForeignKey success] at holds
      split at holds
      · next written =>
        obtain ⟨rfl, rfl⟩ := written
        obtain ⟨relation, stored, kind, present, -⟩ := setForeignKey_eq_ok success
        exact Or.inr ⟨relation, stored, kind, present id holds⟩
      · exact Or.inl holds
  | delete deleted =>
      obtain ⟨-, after, -⟩ := delete_eq_ok success
      rw [after, keyOf_without] at holds
      split at holds
      · cases holds
      · exact Or.inl holds
  | link anchor relation targets =>
      rw [keyOf_congr (records_link success)] at holds
      exact Or.inl holds
  | unlink anchor relation targets =>
      rw [keyOf_congr (records_unlink success)] at holds
      exact Or.inl holds

theorem linksOf_congr {after : Store} (links : after.links = store.links) (name : String) :
    after.linksOf name = store.linksOf name := by
  rw [linksOf, linksOf, links]

theorem mem_linksOf_of_operation (owned : store.catalog.JunctionsOwned) {write : Write}
    {outcome : Outcome Unit} (success : write.operation store = .ok outcome) {name : String}
    {link : Link} (member : link ∈ outcome.after.linksOf name) :
    link ∈ store.linksOf name ∨ ∃ junction, store.catalog.junction? name = some junction := by
  cases write with
  | insert type attributes =>
      obtain ⟨created, inserted, rfl⟩ := operation_insert_eq_ok success
      have same : created.forget.after.linksOf name = store.linksOf name :=
        linksOf_congr (links_insert inserted) name
      exact Or.inl (same ▸ member)
  | update entity attributes =>
      rw [linksOf_congr (links_update success)] at member
      exact Or.inl member
  | setForeignKey entity key target =>
      rw [linksOf_congr (links_setForeignKey success)] at member
      exact Or.inl member
  | delete deleted =>
      obtain ⟨-, after, -⟩ := delete_eq_ok success
      rw [after] at member
      exact Or.inl ((mem_linksOf_without deleted name link).1 member).1
  | link anchor accessor targets =>
      obtain ⟨relation, through, side, stored, kind, -, -, after, -⟩ := link_eq_ok success
      rw [after] at member
      rcases (mem_linksOf_link name link).1 member with kept | ⟨rfl, -⟩
      · exact Or.inl kept
      · exact Or.inr ⟨_, owned _ _ _ _ _ stored kind⟩
  | unlink anchor accessor targets =>
      obtain ⟨_, _, _, -, -, ⟨-, after, -⟩ | ⟨-, after, -⟩⟩ := unlink_eq_ok success
      · exact Or.inl (after ▸ member)
      · rw [after] at member
        exact Or.inl ((mem_linksOf_unlink name link).1 member).1

/-! ## Entities -/

theorem contains_update {entity : EntityRef} {attributes : List (String × Value)}
    {outcome : Outcome Unit} (success : store.update entity attributes = .ok outcome)
    (other : EntityRef) : outcome.after.contains other = store.contains other := by
  obtain ⟨record, held, _, -, after, -⟩ := update_eq_ok success
  rw [after]
  exact contains_putRecord_of_stored (contains_eq_true.2 ⟨record, held⟩) _ other

theorem contains_setForeignKey {entity : EntityRef} {name : String} {target : Option Nat}
    {outcome : Outcome Unit} (success : store.setForeignKey entity name target = .ok outcome)
    (other : EntityRef) : outcome.after.contains other = store.contains other := by
  obtain ⟨_, -, -, -, record, held, after, -⟩ := setForeignKey_eq_ok success
  rw [after]
  exact contains_putRecord_of_stored (contains_eq_true.2 ⟨record, held⟩) _ other

theorem contains_congr {after : Store} (records : after.records = store.records)
    (entity : EntityRef) : after.contains entity = store.contains entity := by
  rw [contains, contains, records]

/-! ## Identifiers -/

theorem ids_of_operation {catalog : Catalog} (intact : store.Intact catalog) {write : Write}
    {outcome : Outcome Unit} (success : write.operation store = .ok outcome)
    {entity other : EntityRef} (present : outcome.after.contains entity = true)
    (otherPresent : outcome.after.contains other = true) (sameId : entity.id = other.id) :
    entity = other := by
  cases before : store.contains entity with
  | true =>
      cases otherBefore : store.contains other with
      | true => exact intact.ids entity other before otherBefore sameId
      | false =>
          obtain ⟨type, _, -, rfl⟩ := insert_of_created success otherPresent otherBefore
          have below := intact.counted entity before
          exact absurd sameId below.ne
  | false =>
      obtain ⟨type, attributes, rfl, rfl⟩ := insert_of_created success present before
      cases otherBefore : store.contains other with
      | true =>
          have below := intact.counted other otherBefore
          exact absurd sameId below.ne'
      | false =>
          obtain ⟨_, _, same, rfl⟩ := insert_of_created success otherPresent otherBefore
          cases same
          rfl

theorem nextId_perform_le (store : Store) (write : Write) :
    (store.perform write).nextId ≤ store.nextId + if write.creates then 1 else 0 := by
  unfold perform
  split
  · next outcome success =>
    cases write with
    | insert type attributes =>
        obtain ⟨created, inserted, rfl⟩ := operation_insert_eq_ok success
        obtain ⟨_, -, -, after, -⟩ := insert_eq_ok inserted
        have next : created.forget.after.nextId = store.nextId + 1 := by
          change created.after.nextId = _
          rw [after]
        exact next.le
    | update entity attributes =>
        obtain ⟨_, -, _, -, after, -⟩ := update_eq_ok success
        rw [after]
        exact Nat.le_refl _
    | setForeignKey entity name target =>
        obtain ⟨_, -, -, -, _, -, after, -⟩ := setForeignKey_eq_ok success
        rw [after]
        exact Nat.le_refl _
    | delete entity =>
        obtain ⟨-, after, -⟩ := delete_eq_ok success
        rw [after]
        exact Nat.le_refl _
    | link anchor name targets =>
        obtain ⟨_, _, _, -, -, -, -, after, -⟩ := link_eq_ok success
        rw [after]
        exact Nat.le_refl _
    | unlink anchor name targets =>
        obtain ⟨_, _, _, -, -, ⟨-, after, -⟩ | ⟨-, after, -⟩⟩ := unlink_eq_ok success
        · rw [after]
          exact Nat.le_refl _
        · rw [after]
          exact Nat.le_refl _
  · exact Nat.le_add_right ..

theorem nextId_run_le (store : Store) (writes : List Write) :
    (store.run writes).nextId ≤ store.nextId + writes.countP Write.creates := by
  induction writes generalizing store with
  | nil => exact Nat.le_refl _
  | cons write rest ih =>
      have now := nextId_perform_le store write
      have later : (store.run (write :: rest)).nextId ≤
          (store.perform write).nextId + rest.countP Write.creates := ih (store.perform write)
      rw [List.countP_cons]
      omega

structure Bounded (store : Store) : Prop where
  counted : store.Counted
  keys : ∀ holder name id, store.keyOf holder name = some id → id < store.nextId
  links : ∀ name, ∀ link ∈ store.linksOf name, link.left < store.nextId ∧ link.right < store.nextId

theorem bounded_empty (catalog : Catalog) : (empty catalog).Bounded := by
  refine ⟨counted_empty catalog, ?_, ?_⟩
  · intro holder name id holds
    cases holds
  · intro name link member
    cases member

/-- A link that is new has ends that are stored. -/
theorem mem_linksOf_or_stored {write : Write} {outcome : Outcome Unit}
    (success : write.operation store = .ok outcome) {name : String} {link : Link}
    (member : link ∈ outcome.after.linksOf name) :
    link ∈ store.linksOf name ∨ ∃ left right : EntityRef,
      store.contains left = true ∧ store.contains right = true ∧ link = ⟨left.id, right.id⟩ := by
  cases write with
  | insert type attributes =>
      obtain ⟨created, inserted, rfl⟩ := operation_insert_eq_ok success
      exact Or.inl (linksOf_congr (links_insert inserted) name ▸ member)
  | update entity attributes => exact Or.inl (linksOf_congr (links_update success) name ▸ member)
  | setForeignKey entity key target =>
      exact Or.inl (linksOf_congr (links_setForeignKey success) name ▸ member)
  | delete deleted =>
      obtain ⟨-, after, -⟩ := delete_eq_ok success
      rw [after] at member
      exact Or.inl ((mem_linksOf_without deleted name link).1 member).1
  | link anchor accessor targets =>
      obtain ⟨_, _, _, -, -, anchored, -⟩ := link_eq_ok success
      obtain ⟨relation, through, side, -, -, present, links⟩ := mem_linksOf_of_link success
      rcases (links name link).1 member with before | ⟨-, id, isTarget, rfl⟩
      · exact Or.inl before
      · have targetPresent := present id isTarget
        cases side with
        | left => exact Or.inr ⟨anchor, ⟨relation.target, id⟩, anchored, targetPresent, rfl⟩
        | right => exact Or.inr ⟨⟨relation.target, id⟩, anchor, targetPresent, anchored, rfl⟩
  | unlink anchor accessor targets =>
      obtain ⟨_, _, _, -, -, ⟨-, after, -⟩ | ⟨-, after, -⟩⟩ := unlink_eq_ok success
      · exact Or.inl (after ▸ member)
      · rw [after] at member
        exact Or.inl ((mem_linksOf_unlink name link).1 member).1

theorem Bounded.of_operation (bounded : store.Bounded) {write : Write} {outcome : Outcome Unit}
    (success : write.operation store = .ok outcome) : outcome.after.Bounded := by
  have grows := grows_of_operation success
  have above := grows.nextId
  refine ⟨grows.counted bounded.counted, ?_, ?_⟩
  · intro holder name id holds
    rcases keyOf_of_operation bounded.counted success holds with before | ⟨relation, -, -, present⟩
    · have below := bounded.keys holder name id before
      omega
    · have below : id < store.nextId := bounded.counted ⟨relation.target, id⟩ present
      omega
  · intro name link member
    rcases mem_linksOf_or_stored success member with before | ⟨left, right, isLeft, isRight, rfl⟩
    · have below := bounded.links name link before
      omega
    · have leftBelow := bounded.counted left isLeft
      have rightBelow := bounded.counted right isRight
      exact ⟨Nat.lt_of_lt_of_le leftBelow above, Nat.lt_of_lt_of_le rightBelow above⟩

theorem Bounded.reached_eq_nil (bounded : store.Bounded) (type : TypeName) (relation : Relation) :
    store.reached relation ⟨type, store.nextId⟩ = [] := by
  refine List.eq_nil_iff_forall_not_mem.2 fun found member => ?_
  have joined := (mem_reached_iff.1 member).2
  unfold Joins at joined
  cases kind : relation.kind with
  | foreignKey =>
      rw [kind] at joined
      rw [keyOf, bounded.counted.fresh type] at joined
      cases joined
  | reverseForeignKey field =>
      rw [kind] at joined
      exact absurd (bounded.keys _ _ _ joined) (Nat.lt_irrefl _)
  | manyToMany junction side =>
      rw [kind] at joined
      have below := bounded.links _ _ joined
      cases side with
      | left => exact absurd below.1 (Nat.lt_irrefl _)
      | right => exact absurd below.2 (Nat.lt_irrefl _)

def Modelled (store : Store) : Prop :=
  ∀ entity, store.contains entity = true → (store.catalog.model? entity.typeName).isSome = true

theorem modelled_empty (catalog : Catalog) : (empty catalog).Modelled := by
  intro entity present
  cases present

theorem Modelled.of_operation (modelled : store.Modelled) {write : Write} {outcome : Outcome Unit}
    (success : write.operation store = .ok outcome) : outcome.after.Modelled := by
  intro entity present
  rw [(grows_of_operation success).catalog]
  cases old : store.contains entity with
  | true => exact modelled entity old
  | false =>
      obtain ⟨type, attributes, rfl, rfl⟩ := insert_of_created success present old
      obtain ⟨_, inserted, -⟩ := operation_insert_eq_ok success
      obtain ⟨_, checked, -⟩ := insert_eq_ok inserted
      unfold checkAttributes at checked
      split at checked
      · cases checked
      · next model known => exact Option.isSome_iff_exists.2 ⟨model, known⟩

/-! ## Runs -/

theorem intact_empty (catalog : Catalog) : (empty catalog).Intact catalog := by
  refine ⟨?_, ?_, ?_, ?_, counted_empty catalog⟩
  · intro holder name id holds
    cases holds
  · intro name link member
    cases member
  · intro entity attr value written
    cases written
  · intro entity other present
    cases present

section Runs
variable {catalog : Catalog} (paired : catalog.Paired) (owned : catalog.JunctionsOwned)
include paired owned

theorem Intact.of_operation (intact : store.Intact catalog) (sound : store.Sound catalog)
    {write : Write} {outcome : Outcome Unit} (success : write.operation store = .ok outcome) :
    outcome.after.Intact catalog := by
  have later := sound.of_operation paired owned success
  have same := later.onCatalog
  have onCatalog := sound.onCatalog
  subst onCatalog
  refine ⟨?_, ?_, ?_, ?_, later.counted⟩
  · intro holder name id holds
    obtain ⟨relation, stored, kind⟩ : ∃ relation,
        store.catalog.relation? holder.typeName name = some relation ∧
          relation.kind = .foreignKey := by
      rcases keyOf_of_operation sound.counted success holds with before | declared
      · obtain ⟨relation, stored, kind, -⟩ := intact.keys holder name id before
        exact ⟨relation, stored, kind⟩
      · obtain ⟨relation, stored, kind, -⟩ := declared
        exact ⟨relation, stored, kind⟩
    -- `Sound` has the ends of declared keys only, so what is new is that the key is declared.
    have ends := later.closed.keys holder name id relation (same ▸ stored) kind holds
    exact ⟨relation, stored, kind, ends.2⟩
  · intro name link member
    obtain ⟨junction, entry⟩ : ∃ junction, store.catalog.junction? name = some junction := by
      rcases mem_linksOf_of_operation owned success member with before | declared
      · obtain ⟨junction, entry, -⟩ := intact.links name link before
        exact ⟨junction, entry⟩
      · exact declared
    exact ⟨junction, entry, later.closed.links name junction link (same ▸ entry) member⟩
  · intro entity attr value written
    rcases written_of_operation success written with ⟨old, before⟩ | declared
    · exact intact.attributes entity attr old before
    · exact declared
  · intro entity other present otherPresent sameId
    exact ids_of_operation intact success present otherPresent sameId

theorem Intact.run (intact : store.Intact catalog) (sound : store.Sound catalog)
    (writes : List Write) : (store.run writes).Intact catalog := by
  induction writes generalizing store with
  | nil => exact intact
  | cons write rest ih =>
      refine ih ?_ (sound.perform paired owned write)
      unfold perform
      split
      · next outcome success => exact intact.of_operation paired owned sound success
      · exact intact

end Runs

/-- No entity has the identifier of one that was deleted, and none ever gets it. -/
theorem Intact.retired {catalog : Catalog} (intact : store.Intact catalog) {deleted : EntityRef}
    {outcome : Outcome Unit} (success : store.delete deleted = .ok outcome) (later : List Write) :
    (∀ entity, (outcome.after.run later).contains entity = true → entity.id ≠ deleted.id) ∧
      ∀ type attributes created, (outcome.after.run later).insert type attributes = .ok created →
        created.answer.id ≠ deleted.id := by
  obtain ⟨present, after, -⟩ := delete_eq_ok success
  have given : deleted.id < outcome.after.nextId := by
    rw [after]
    exact intact.counted deleted present
  have grows := grows_run outcome.after later
  refine ⟨?_, ?_⟩
  · intro entity stored sameId
    have gone : outcome.after.contains entity = false := by
      rw [← Bool.not_eq_true, after, contains_without]
      rintro ⟨before, differs⟩
      exact differs (intact.ids entity deleted before present sameId)
    have stillGone := grows.stays_gone (sameId ▸ given) gone
    rw [stillGone] at stored
    cases stored
  · intro type attributes created inserted
    obtain ⟨_, -, answer, -⟩ := insert_eq_ok inserted
    have above := grows.nextId
    rw [answer]
    change (outcome.after.run later).nextId ≠ deleted.id
    omega

/-- Whatever is written to an empty store over a declared catalog whose junctions got distinct
names: the store stays intact, it gives out at most one identifier for each insertion, and it
gives out none again that it deleted. -/
theorem intact_of_writes {catalog : Catalog} {names : List String}
    (declared : catalog.Declared names) (distinctNames : names.Nodup) (writes : List Write) :
    let store := (empty catalog).run writes
    store.Intact catalog ∧
      store.nextId ≤ writes.countP Write.creates + 1 ∧
      ∀ deleted outcome, store.delete deleted = .ok outcome → ∀ later,
        (∀ entity, (outcome.after.run later).contains entity = true → entity.id ≠ deleted.id) ∧
          ∀ type attributes created,
            (outcome.after.run later).insert type attributes = .ok created →
              created.answer.id ≠ deleted.id := by
  have paired := declared.paired
  have owned := declared.junctionsOwned distinctNames
  have intact := (intact_empty catalog).run paired owned (sound_empty catalog) writes
  refine ⟨intact, ?_, fun deleted outcome success later => intact.retired success later⟩
  have bound := nextId_run_le (empty catalog) writes
  change ((empty catalog).run writes).nextId ≤ 1 + writes.countP Write.creates at bound
  omega

end Store

namespace Library

/-- Two shelves, one of them part of the other and of itself, and a book with its author. -/
def furnish : List Write :=
  [.insert shelf [("code", .text "A")], .insert shelf [("code", .text "A1")],
    .insert book [("title", .text "Logic")], .insert author [("name", .text "Ada")],
    .setForeignKey ⟨shelf, 1⟩ "whole" (some 1), .setForeignKey ⟨shelf, 2⟩ "whole" (some 1),
    .setForeignKey ⟨book, 3⟩ "place" (some 2), .link ⟨author, 4⟩ "works" [3]]

theorem furnished_is_intact :
    let store := (Store.empty catalog).run furnish
    store.Intact catalog ∧ store.keyOf ⟨shelf, 2⟩ "whole" = some 1 ∧
      ∃ outcome, store.delete ⟨shelf, 1⟩ = .ok outcome ∧
        outcome.after.keyOf ⟨shelf, 2⟩ "whole" = none ∧
        ∀ entity, (outcome.after.run furnish).contains entity = true → entity.id ≠ 1 := by
  obtain ⟨intact, -, retired⟩ := Store.intact_of_writes declared (by decide) furnish
  obtain ⟨outcome, success⟩ :
      ∃ outcome, ((Store.empty catalog).run furnish).delete ⟨shelf, 1⟩ = .ok outcome :=
    ⟨_, if_pos (by decide +kernel)⟩
  refine ⟨intact, by decide +kernel, outcome, success, ?_, (retired _ _ success furnish).1⟩
  obtain ⟨-, after, -⟩ := Store.delete_eq_ok success
  rw [after]
  decide +kernel

end Library
end EntitySearch
