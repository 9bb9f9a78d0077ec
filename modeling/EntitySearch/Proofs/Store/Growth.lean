import EntitySearch.Proofs.Store.Frames

/-!
# Identifiers are never given out again

Every write keeps the catalog, raises the next identifier or keeps it, and adds no entity but one
with an identifier that was not given out before.  So in a store that writes lead to from the empty
one, every identifier in use lies below the next one, and an entity that is gone stays gone.

Main statements: `grows_run`, `Grows.counted`, `Grows.stays_gone`.
-/
set_option autoImplicit false
namespace EntitySearch
namespace Store

structure Grows (before after : Store) : Prop where
  catalog : after.catalog = before.catalog
  nextId : before.nextId ≤ after.nextId
  entities : ∀ entity, after.contains entity = true →
    before.contains entity = true ∨ (before.nextId ≤ entity.id ∧ entity.id < after.nextId)

def Counted (store : Store) : Prop :=
  ∀ entity, store.contains entity = true → entity.id < store.nextId

variable {store before middle after : Store}

namespace Grows

theorem refl (store : Store) : Grows store store :=
  ⟨rfl, Nat.le_refl _, fun _ present => Or.inl present⟩

theorem trans (first : Grows before middle) (second : Grows middle after) : Grows before after := by
  refine ⟨second.catalog.trans first.catalog, first.nextId.trans second.nextId, ?_⟩
  intro entity present
  have below := first.nextId
  have above := second.nextId
  rcases second.entities entity present with inMiddle | ⟨fresh, given⟩
  · rcases first.entities entity inMiddle with inBefore | ⟨fresh, given⟩
    · exact Or.inl inBefore
    · exact Or.inr ⟨fresh, by omega⟩
  · exact Or.inr ⟨by omega, given⟩

theorem counted (grows : Grows before after) (counted : before.Counted) : after.Counted := by
  intro entity present
  have above := grows.nextId
  rcases grows.entities entity present with inBefore | ⟨-, given⟩
  · have below := counted entity inBefore
    omega
  · exact given

/-- An entity whose identifier was given out and that is gone stays gone. -/
theorem stays_gone (grows : Grows before after) {entity : EntityRef}
    (given : entity.id < before.nextId) (gone : before.contains entity = false) :
    after.contains entity = false := by
  rw [← Bool.not_eq_true]
  intro present
  rcases grows.entities entity present with inBefore | ⟨fresh, -⟩
  · rw [gone] at inBefore
    cases inBefore
  · omega

end Grows

theorem Counted.fresh (counted : store.Counted) (type : TypeName) :
    store.records.get? ⟨type, store.nextId⟩ = none := by
  cases stored : store.records.get? ⟨type, store.nextId⟩ with
  | none => rfl
  | some record =>
      have below := counted ⟨type, store.nextId⟩ (contains_eq_true.2 ⟨record, stored⟩)
      exact absurd below (Nat.lt_irrefl _)

theorem grows_of_agreeBut {entity : EntityRef} (agree : AgreeBut entity before after)
    (next : after.nextId = before.nextId) (old : before.contains entity = true) :
    Grows before after := by
  refine ⟨agree.catalog, next.ge, fun other present => Or.inl ?_⟩
  by_cases same : other = entity
  · rw [same]
    exact old
  · rw [← agree.contains other same]
    exact present

theorem grows_insert {type : TypeName} {attributes : List (String × Value)}
    {outcome : Outcome EntityRef} (success : store.insert type attributes = .ok outcome) :
    Grows store outcome.after := by
  have agree := agreeBut_insert success
  obtain ⟨stored, -, -, after, -⟩ := insert_eq_ok success
  have next : outcome.after.nextId = store.nextId + 1 := by rw [after]
  refine ⟨agree.catalog, by omega, fun entity present => ?_⟩
  by_cases same : entity = ⟨type, store.nextId⟩
  · subst same
    exact Or.inr ⟨Nat.le_refl _, next ▸ Nat.lt_succ_self _⟩
  · rw [agree.contains entity same] at present
    exact Or.inl present

theorem grows_link {entity : EntityRef} {name : String} {targets : List Nat}
    {outcome : Outcome Unit} (success : store.link entity name targets = .ok outcome) :
    Grows store outcome.after := by
  obtain ⟨relation, junction, side, -, -, -, -, after, -⟩ := link_eq_ok success
  rw [after]
  exact ⟨rfl, Nat.le_refl _, fun _ present => Or.inl present⟩

theorem grows_unlink {entity : EntityRef} {name : String} {targets : List Nat}
    {outcome : Outcome Unit} (success : store.unlink entity name targets = .ok outcome) :
    Grows store outcome.after := by
  obtain ⟨relation, junction, side, -, -, ⟨-, after, -⟩ | ⟨-, after, -⟩⟩ := unlink_eq_ok success
  · rw [after]
    exact Grows.refl store
  · rw [after]
    exact ⟨rfl, Nat.le_refl _, fun _ present => Or.inl present⟩

theorem grows_of_operation {write : Write} {outcome : Outcome Unit}
    (success : write.operation store = .ok outcome) : Grows store outcome.after := by
  cases write with
  | insert type attributes =>
      obtain ⟨created, inserted, rfl⟩ := operation_insert_eq_ok success
      exact grows_insert inserted
  | update entity attributes =>
      obtain ⟨record, stored, _, -, after, -⟩ := update_eq_ok success
      refine grows_of_agreeBut (agreeBut_update success) ?_ (contains_eq_true.2 ⟨record, stored⟩)
      rw [after]
      rfl
  | setForeignKey entity name target =>
      obtain ⟨relation, -, -, -, record, stored, after, -⟩ := setForeignKey_eq_ok success
      refine grows_of_agreeBut (agreeBut_setForeignKey success) ?_
        (contains_eq_true.2 ⟨record, stored⟩)
      rw [after]
      rfl
  | delete entity =>
      obtain ⟨present, after, -⟩ := delete_eq_ok success
      rw [after]
      exact grows_of_agreeBut (agreeBut_without entity) rfl present
  | link entity name targets => exact grows_link success
  | unlink entity name targets => exact grows_unlink success

theorem insert_of_created {write : Write} {outcome : Outcome Unit}
    (success : write.operation store = .ok outcome) {entity : EntityRef}
    (present : outcome.after.contains entity = true) (absent : store.contains entity = false) :
    ∃ type attributes, write = .insert type attributes ∧ entity = ⟨type, store.nextId⟩ := by
  have old : store.contains entity = true → False := by
    rw [absent]
    exact Bool.noConfusion
  have isSame : outcome.after.nextId = store.nextId → False := by
    intro same
    rcases (grows_of_operation success).entities entity present with inBefore | ⟨fresh, given⟩
    · exact old inBefore
    · omega
  cases write with
  | insert type attributes =>
      obtain ⟨created, inserted, rfl⟩ := operation_insert_eq_ok success
      refine ⟨type, attributes, rfl, ?_⟩
      by_contra differs
      exact old ((agreeBut_insert inserted).contains entity differs ▸ present)
  | update entity attributes =>
      obtain ⟨_, -, _, -, after, -⟩ := update_eq_ok success
      exact (isSame (by rw [after]; rfl)).elim
  | setForeignKey entity name target =>
      obtain ⟨_, -, -, -, _, -, after, -⟩ := setForeignKey_eq_ok success
      exact (isSame (by rw [after]; rfl)).elim
  | delete entity =>
      obtain ⟨-, after, -⟩ := delete_eq_ok success
      exact (isSame (by rw [after]; rfl)).elim
  | link anchor name targets =>
      obtain ⟨_, _, _, -, -, -, -, after, -⟩ := link_eq_ok success
      exact (isSame (by rw [after])).elim
  | unlink anchor name targets =>
      obtain ⟨_, _, _, -, -, ⟨-, after, -⟩ | ⟨-, after, -⟩⟩ := unlink_eq_ok success
      · exact (isSame (by rw [after])).elim
      · exact (isSame (by rw [after])).elim

theorem grows_perform (store : Store) (write : Write) : Grows store (store.perform write) := by
  unfold perform
  split
  · next outcome success => exact grows_of_operation success
  · exact Grows.refl store

theorem grows_run (store : Store) (writes : List Write) : Grows store (store.run writes) := by
  induction writes generalizing store with
  | nil => exact Grows.refl store
  | cons write rest ih => exact (grows_perform store write).trans (ih (store.perform write))

theorem counted_empty (catalog : Catalog) : (empty catalog).Counted := by
  intro entity present
  cases present

end Store
end EntitySearch
