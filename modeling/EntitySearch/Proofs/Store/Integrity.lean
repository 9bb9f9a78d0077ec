import EntitySearch.Proofs.Store.Growth

/-!
# Referential integrity

Foreign keys and links join stored entities only: what a write points at must exist, and what is
deleted is cleared from the keys and dropped from the links.  So relations lead to stored entities.

Main statements: `Sound.run`, `Closed.joins`.
-/
set_option autoImplicit false
namespace EntitySearch
namespace Store

/-- Foreign keys and links join stored entities only. -/
structure Closed (store : Store) : Prop where
  keys : ∀ holder name id relation, store.catalog.relation? holder.typeName name = some relation →
    relation.kind = .foreignKey → store.keyOf holder name = some id →
      store.contains holder = true ∧ store.contains ⟨relation.target, id⟩ = true
  links : ∀ name junction link, store.catalog.junction? name = some junction →
    link ∈ store.linksOf name →
      store.contains ⟨junction.left, link.left⟩ = true ∧
        store.contains ⟨junction.right, link.right⟩ = true

variable {store : Store}

theorem closed_empty (catalog : Catalog) : (empty catalog).Closed := by
  refine ⟨fun holder name id relation _ _ holds => ?_, fun name junction link _ member => ?_⟩
  · cases holds
  · cases member

theorem Closed.of_kept {after : Store} (closed : store.Closed)
    (catalog : after.catalog = store.catalog)
    (kept : ∀ entity, store.contains entity = true → after.contains entity = true)
    (keys : ∀ entity name, after.keyOf entity name = store.keyOf entity name)
    (links : after.links = store.links) : after.Closed := by
  refine ⟨fun holder name id relation stored kind holds => ?_,
    fun name junction link entry member => ?_⟩
  · rw [catalog] at stored
    rw [keys] at holds
    obtain ⟨present, target⟩ := closed.keys holder name id relation stored kind holds
    exact ⟨kept _ present, kept _ target⟩
  · rw [catalog] at entry
    rw [linksOf, links] at member
    obtain ⟨left, right⟩ := closed.links name junction link entry member
    exact ⟨kept _ left, kept _ right⟩

theorem closed_insert (closed : store.Closed) (counted : store.Counted) {type : TypeName}
    {attributes : List (String × Value)} {outcome : Outcome EntityRef}
    (success : store.insert type attributes = .ok outcome) : outcome.after.Closed := by
  have agree := agreeBut_insert success
  refine closed.of_kept agree.catalog ?_ (keyOf_insert success (counted.fresh type))
    (links_insert success)
  intro entity present
  have differs : entity ≠ ⟨type, store.nextId⟩ := by
    rintro rfl
    exact absurd (counted _ present) (Nat.lt_irrefl _)
  rw [agree.contains entity differs]
  exact present

theorem contains_of_agreeBut {entity : EntityRef} {after : Store}
    (agree : AgreeBut entity store after) (kept : after.contains entity = true) (other : EntityRef)
    (present : store.contains other = true) : after.contains other = true := by
  by_cases same : other = entity
  · rw [same]
    exact kept
  · rw [agree.contains other same]
    exact present

theorem contains_putRecord (entity : EntityRef) (record : Record) :
    (store.putRecord entity record).contains entity = true :=
  contains_eq_true.2 ⟨record, by rw [get?_putRecord, if_pos rfl]⟩

theorem contains_putRecord_of_stored {entity : EntityRef} (present : store.contains entity = true)
    (record : Record) (other : EntityRef) :
    (store.putRecord entity record).contains other = store.contains other := by
  by_cases same : other = entity
  · rw [same, contains_putRecord, present]
  · exact (agreeBut_of_records rfl rfl : AgreeBut entity store (store.putRecord entity record)).contains
      other same

theorem closed_update (closed : store.Closed) {entity : EntityRef}
    {attributes : List (String × Value)} {outcome : Outcome Unit}
    (success : store.update entity attributes = .ok outcome) : outcome.after.Closed := by
  have agree := agreeBut_update success
  refine closed.of_kept agree.catalog ?_ (keyOf_update success) (links_update success)
  obtain ⟨record, -, stored, -, after, -⟩ := update_eq_ok success
  exact contains_of_agreeBut agree (after ▸ contains_putRecord entity _)

theorem closed_setForeignKey (closed : store.Closed) {entity : EntityRef} {name : String}
    {target : Option Nat} {outcome : Outcome Unit}
    (success : store.setForeignKey entity name target = .ok outcome) : outcome.after.Closed := by
  have agree := agreeBut_setForeignKey success
  have keyOf := keyOf_setForeignKey success
  have links := links_setForeignKey success
  obtain ⟨relation, stored, -, targets, record, -, after, -⟩ := setForeignKey_eq_ok success
  have present : outcome.after.contains entity = true := after ▸ contains_putRecord entity _
  have kept := contains_of_agreeBut agree present
  refine ⟨fun holder key id found isKey kind holds => ?_,
    fun junction entry link isEntry member => ?_⟩
  · rw [agree.catalog] at isKey
    rw [keyOf] at holds
    split at holds
    · next written =>
      obtain ⟨rfl, rfl⟩ := written
      rw [stored] at isKey
      cases isKey
      exact ⟨present, kept _ (targets id holds)⟩
    · obtain ⟨isHolder, isTarget⟩ := closed.keys holder key id found isKey kind holds
      exact ⟨kept _ isHolder, kept _ isTarget⟩
  · rw [agree.catalog] at isEntry
    rw [linksOf, links] at member
    obtain ⟨left, right⟩ := closed.links junction entry link isEntry member
    exact ⟨kept _ left, kept _ right⟩

theorem contains_without {deleted other : EntityRef} :
    (store.without deleted).contains other = true ↔
      store.contains other = true ∧ other ≠ deleted := by
  by_cases same : other = deleted
  · subst same
    simp [contains_without_self]
  · rw [(agreeBut_without deleted).contains other same]
    simp [same]

theorem closed_without (closed : store.Closed) (paired : store.catalog.Paired)
    {deleted : EntityRef} : (store.without deleted).Closed := by
  refine ⟨fun holder name id relation stored kind holds => ?_,
    fun name entry link isEntry member => ?_⟩
  · rw [keyOf_without] at holds
    split at holds
    · cases holds
    · next kept =>
      have holderKept : holder ≠ deleted := fun same => kept (Or.inl same)
      obtain ⟨isHolder, isTarget⟩ := closed.keys holder name id relation stored kind holds
      have targetKept : (⟨relation.target, id⟩ : EntityRef) ≠ deleted := by
        rintro rfl
        refine kept (Or.inr ⟨(mem_keysToward_iff paired).2 ⟨relation, stored, kind, rfl⟩, holds⟩)
      exact ⟨contains_without.2 ⟨isHolder, holderKept⟩, contains_without.2 ⟨isTarget, targetKept⟩⟩
  · obtain ⟨kept, apart⟩ := (mem_linksOf_without deleted name link).1 member
    obtain ⟨left, right⟩ := closed.links name entry link isEntry kept
    have free := apart entry isEntry
    simp only [involves, Bool.or_eq_false_iff, Bool.and_eq_false_iff, decide_eq_false_iff_not]
      at free
    refine ⟨contains_without.2 ⟨left, ?_⟩, contains_without.2 ⟨right, ?_⟩⟩
    · rintro rfl
      simp at free
    · rintro rfl
      simp at free

/-- Links are added between stored entities, at the sides that the junction gives them. -/
theorem closed_link (closed : store.Closed) (owned : store.catalog.JunctionsOwned)
    {anchor : EntityRef} {name : String} {targets : List Nat} {outcome : Outcome Unit}
    (success : store.link anchor name targets = .ok outcome) : outcome.after.Closed := by
  obtain ⟨relation, junction, side, stored, through, present, all, after, -⟩ := link_eq_ok success
  rw [after]
  refine ⟨closed.keys, fun other entry link isEntry member => ?_⟩
  rcases (mem_linksOf_link other link).1 member with kept | ⟨rfl, id, added, rfl⟩
  · exact closed.links other entry link isEntry kept
  · have target := all id (mem_targets_of_mem_unlinkedOf added)
    have entryOf := owned _ _ _ _ _ stored through
    obtain rfl : entry = relation.table anchor.typeName other side := by
      rw [entryOf] at isEntry
      exact (Option.some.inj isEntry).symm
    cases side with
    | left => exact ⟨present, target⟩
    | right => exact ⟨target, present⟩

theorem closed_unlink (closed : store.Closed) {anchor : EntityRef} {name : String}
    {targets : List Nat} {outcome : Outcome Unit}
    (success : store.unlink anchor name targets = .ok outcome) : outcome.after.Closed := by
  obtain ⟨relation, junction, side, -, -, ⟨-, after, -⟩ | ⟨-, after, -⟩⟩ := unlink_eq_ok success
  · rw [after]
    exact closed
  · rw [after]
    refine ⟨closed.keys, fun other entry link isEntry member => ?_⟩
    exact closed.links other entry link isEntry ((mem_linksOf_unlink other link).1 member).1

theorem closed_of_operation (closed : store.Closed) (counted : store.Counted)
    (paired : store.catalog.Paired) (owned : store.catalog.JunctionsOwned) {write : Write}
    {outcome : Outcome Unit} (success : write.operation store = .ok outcome) :
    outcome.after.Closed := by
  cases write with
  | insert type attributes =>
      obtain ⟨created, inserted, rfl⟩ := operation_insert_eq_ok success
      exact closed_insert closed counted inserted
  | update entity attributes => exact closed_update closed success
  | setForeignKey entity name target => exact closed_setForeignKey closed success
  | delete entity =>
      obtain ⟨-, after, -⟩ := delete_eq_ok success
      exact after ▸ closed_without closed paired
  | link entity name targets => exact closed_link closed owned success
  | unlink entity name targets => exact closed_unlink closed success

theorem Closed.joins (closed : store.Closed) (paired : store.catalog.Paired)
    (owned : store.catalog.JunctionsOwned) {relation : Relation} {source entity : EntityRef}
    (stored : store.catalog.relation? source.typeName relation.name = some relation)
    (typed : entity.typeName = relation.target) (joined : store.Joins relation source entity) :
    store.contains source = true ∧ store.contains entity = true := by
  obtain ⟨type, id⟩ := entity
  obtain rfl : type = relation.target := typed
  obtain ⟨-, kindOk, back⟩ := paired _ _ _ stored
  unfold Joins at joined
  cases kind : relation.kind with
  | foreignKey =>
      rw [kind] at joined
      exact closed.keys source relation.name id relation stored kind joined
  | reverseForeignKey field =>
      rw [kind] at joined
      obtain rfl := kindOk field kind
      have isKey : (relation.dual source.typeName).kind = .foreignKey := by
        rw [Relation.dual, kind]
        rfl
      exact (closed.keys _ _ _ _ back isKey joined).symm
  | manyToMany junction side =>
      rw [kind] at joined
      have ends := closed.links junction _ _ (owned _ _ _ _ _ stored kind) joined
      cases side with
      | left => exact ends
      | right => exact ends.symm

/-! ## Runs -/

/-- What holds of every store that writes lead to from the empty one. -/
structure Sound (catalog : Catalog) (store : Store) : Prop where
  onCatalog : store.catalog = catalog
  counted : store.Counted
  closed : store.Closed

theorem sound_empty (catalog : Catalog) : (empty catalog).Sound catalog :=
  ⟨rfl, counted_empty catalog, closed_empty catalog⟩

section Runs
variable {catalog : Catalog} (paired : catalog.Paired) (owned : catalog.JunctionsOwned)
include paired owned

theorem Sound.of_operation (sound : store.Sound catalog) {write : Write} {outcome : Outcome Unit}
    (success : write.operation store = .ok outcome) : outcome.after.Sound catalog := by
  have grows := grows_of_operation success
  refine ⟨grows.catalog.trans sound.onCatalog, grows.counted sound.counted, ?_⟩
  rw [← sound.onCatalog] at paired owned
  exact closed_of_operation sound.closed sound.counted paired owned success

theorem Sound.perform (sound : store.Sound catalog) (write : Write) :
    (store.perform write).Sound catalog := by
  unfold Store.perform
  split
  · next outcome success => exact sound.of_operation paired owned success
  · exact sound

theorem Sound.run (sound : store.Sound catalog) (writes : List Write) :
    (store.run writes).Sound catalog := by
  induction writes generalizing store with
  | nil => exact sound
  | cons write rest ih => exact ih (sound.perform paired owned write)

end Runs

end Store
end EntitySearch
