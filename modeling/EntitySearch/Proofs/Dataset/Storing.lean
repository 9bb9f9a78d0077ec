import EntitySearch.Dataset.Loaded
import EntitySearch.Proofs.Service.Following
import EntitySearch.Proofs.Store.References

/-!
# The records of a dataset in the store

The store gives identifiers out from 1 upwards, so the record at a place of the dataset gets the
identifier behind that place.  When all records are inserted, the store holds the entity of each
with its attributes and nothing else, and every key is that of one record.

Main statements: `Stored.eq`, `Stocked.insertRecord`, `stocked_of_foldlM`.
-/
set_option autoImplicit false
namespace EntitySearch
namespace Dataset

def Stored (records : List RecordEntry) (record : RecordEntry) (entity : EntityRef) : Prop :=
  ∃ i, records[i]? = some record ∧ entity = ⟨record.model, i + 1⟩

def Named (records : List RecordEntry) (key : String) (entity : EntityRef) : Prop :=
  ∃ record, Stored records record entity ∧ record.key = key

section Stored
variable {records : List RecordEntry} {record other last : RecordEntry} {entity found : EntityRef}
  {key : String}

theorem stored_snoc :
    Stored (records ++ [last]) record entity ↔
      Stored records record entity ∨
        (record = last ∧ entity = ⟨last.model, records.length + 1⟩) := by
  constructor
  · rintro ⟨i, here, rfl⟩
    rcases Nat.lt_trichotomy i records.length with below | rfl | above
    · rw [List.getElem?_append_left below] at here
      exact .inl ⟨i, here, rfl⟩
    · rw [List.getElem?_concat_length] at here
      cases here
      exact .inr ⟨rfl, rfl⟩
    · rw [List.getElem?_eq_none (by simpa using Nat.succ_le_of_lt above)] at here
      cases here
  · rintro (⟨i, here, rfl⟩ | ⟨rfl, rfl⟩)
    · obtain ⟨below, -⟩ := List.getElem?_eq_some_iff.1 here
      exact ⟨i, by rw [List.getElem?_append_left below, here], rfl⟩
    · exact ⟨records.length, List.getElem?_concat_length, rfl⟩

theorem Stored.id_le (stored : Stored records record entity) : entity.id ≤ records.length := by
  obtain ⟨i, here, rfl⟩ := stored
  exact (List.getElem?_eq_some_iff.1 here).1

theorem Stored.mem (stored : Stored records record entity) : record ∈ records := by
  obtain ⟨i, here, -⟩ := stored
  exact List.mem_of_getElem? here

theorem Stored.eq (stored : Stored records record entity) (also : Stored records other found)
    (sameId : entity.id = found.id) : record = other ∧ entity = found := by
  obtain ⟨i, here, rfl⟩ := stored
  obtain ⟨j, there, rfl⟩ := also
  cases Nat.succ.inj sameId
  cases Option.some.inj (here.symm.trans there)
  exact ⟨rfl, rfl⟩

theorem exists_stored (member : record ∈ records) : ∃ entity, Stored records record entity := by
  obtain ⟨i, here⟩ := List.mem_iff_getElem?.1 member
  exact ⟨_, i, here, rfl⟩

theorem named_snoc :
    Named (records ++ [last]) key entity ↔
      Named records key entity ∨
        (last.key = key ∧ entity = ⟨last.model, records.length + 1⟩) := by
  simp only [Named, stored_snoc, or_and_right, exists_or, and_assoc, exists_eq_left]
  exact or_congr_right and_comm

theorem exists_named_iff :
    (∃ entity, Named records key entity) ↔ key ∈ records.map RecordEntry.key := by
  rw [List.mem_map]
  constructor
  · rintro ⟨entity, record, stored, named⟩
    exact ⟨record, stored.mem, named⟩
  · rintro ⟨record, member, named⟩
    obtain ⟨entity, stored⟩ := exists_stored member
    exact ⟨entity, record, stored, named⟩

theorem Named.key_eq {otherKey : String} (named : Named records key entity)
    (also : Named records otherKey entity) : key = otherKey := by
  obtain ⟨record, stored, rfl⟩ := named
  obtain ⟨other, found, rfl⟩ := also
  rw [(stored.eq found rfl).1]

end Stored

/-- What is stored of a record before it refers to others. -/
def RecordEntry.bare (record : RecordEntry) : Record where
  attributes := record.attributes.map fun _ value => Value.ofJson value

def RecordEntry.values (record : RecordEntry) : List (String × Value) :=
  record.attributes.entries.map fun (name, value) => (name, Value.ofJson value)

theorem RecordEntry.attributes_bare (record : RecordEntry) :
    SortedMap.ofList record.values = record.bare.attributes :=
  SortedMap.ofList_entries (record.attributes.map fun _ value => Value.ofJson value)

theorem written_eq_ok {α : Type} {service after : Service}
    {operation : Store → Except SearchError (Outcome α)} {answer : α}
    (success : written service operation = .ok (answer, after)) :
    ∃ outcome, operation service.store = .ok outcome ∧ outcome.answer = answer ∧
      after = service.follow outcome := by
  unfold written Service.write at success
  cases performed : operation service.store with
  | error e =>
      rw [performed] at success
      cases success
  | ok outcome =>
      rw [performed] at success
      cases success
      exact ⟨outcome, rfl, rfl, rfl⟩

theorem checkAttributes_eq_ok {store : Store} {type : TypeName} {attributes : List (String × Value)}
    {checked : SortedMap String Value}
    (success : store.checkAttributes type attributes = .ok checked) :
    checked = SortedMap.ofList attributes := by
  unfold Store.checkAttributes at success
  split at success
  · cases success
  · split at success
    · cases success
    · cases success
      rfl

/-! ## Inserting -/

variable {registry : Registry}

/-- Some records are stored, and nothing else. -/
structure Stocked (registry : Registry) (records : List RecordEntry) (state : Service × ByKey) :
    Prop where
  following : state.1.Following registry
  next : state.1.store.nextId = records.length + 1
  holds : ∀ entity held, state.1.store.records.get? entity = some held ↔
    ∃ record, Stored records record entity ∧ held = record.bare
  unlinked : state.1.store.links = .empty
  named : ∀ key entity, state.2.get? key = some entity ↔ Named records key entity
  distinctKeys : (records.map RecordEntry.key).Nodup

theorem Stocked.not_named {records : List RecordEntry} {state : Service × ByKey}
    (stocked : Stocked registry records state) {key : String} (new : ¬ state.2.contains key = true)
    (entity : EntityRef) : ¬ Named records key entity := by
  intro named
  rw [SortedMap.contains, (stocked.named key entity).2 named] at new
  exact new rfl

theorem Stocked.insertRecord {records : List RecordEntry} {state next : Service × ByKey}
    (stocked : Stocked registry records state) (grounded : registry.Grounded) {record : RecordEntry}
    (success : Dataset.insertRecord state record = .ok next) :
    Stocked registry (records ++ [record]) next := by
  obtain ⟨service, byKey⟩ := state
  obtain ⟨⟨entity, after⟩, wrote, success⟩ := bind_eq_ok success
  obtain ⟨new, success⟩ := guard_eq_ok success
  cases success
  obtain ⟨outcome, inserted, rfl, rfl⟩ := written_eq_ok wrote
  change service.store.insert record.model record.values = .ok outcome at inserted
  have spares : (Write.insert record.model record.values).Spares registry := trivial
  have performed : (Write.insert record.model record.values).operation service.store =
      .ok outcome.forget := by
    rw [Write.operation, inserted]
    rfl
  obtain ⟨checked, check, answered, after, -⟩ := Store.insert_eq_ok inserted
  have attributes : checked = record.bare.attributes :=
    (checkAttributes_eq_ok check).trans record.attributes_bare
  have identifier : service.store.nextId = records.length + 1 := stocked.next
  rw [identifier] at answered
  have put : outcome.after.records =
      (service.store.putRecord ⟨record.model, records.length + 1⟩ record.bare).records := by
    rw [after, identifier, attributes]
    rfl
  refine ⟨stocked.following.follow grounded spares performed, ?_, ?_, ?_, ?_, ?_⟩
  · rw [Service.store_follow, after, List.length_append]
    exact congrArg (· + 1) identifier
  · intro entity held
    rw [Service.store_follow, put, Store.get?_putRecord]
    simp only [stored_snoc, or_and_right, exists_or, and_assoc, exists_eq_left]
    split
    · next same =>
      subst same
      -- The new identifier is above those given out so far.
      have unheld : ∀ other, ¬ Stored records other ⟨record.model, records.length + 1⟩ :=
        fun other stored => Nat.not_succ_le_self _ stored.id_le
      simp [unheld, RecordEntry.bare, eq_comm]
    · next differs => simp [differs, stocked.holds]
  · rw [Service.store_follow, Store.links_insert inserted]
    exact stocked.unlinked
  · intro key entity
    rw [SortedMap.get?_insert, named_snoc, answered]
    split
    · next same =>
      subst same
      simp [stocked.not_named new, eq_comm]
    · next differs => simp [stocked.named, Ne.symm differs]
  · have unused : record.key ∉ records.map RecordEntry.key := by
      intro used
      obtain ⟨entity, named⟩ := exists_named_iff.2 used
      exact stocked.not_named new entity named
    rw [List.map_append, List.map_singleton, List.nodup_append_comm, List.singleton_append]
    exact List.nodup_cons.2 ⟨unused, stocked.distinctKeys⟩

theorem stocked_nil {service : Service} (following : service.Following registry)
    (nothing : service.store = .empty registry.catalog) :
    Stocked registry [] (service, SortedMap.empty) where
  following := following
  next := by simp [nothing, Store.empty]
  holds entity held := by
    have none : ∀ record, ¬ Stored [] record entity := by
      rintro record ⟨i, here, -⟩
      cases here
    simp [nothing, Store.empty, none]
  unlinked := by simp [nothing, Store.empty]
  named key entity := by
    have none : ¬ Named [] key entity := by
      rintro ⟨record, ⟨i, here, -⟩, -⟩
      cases here
    simp [none]
  distinctKeys := List.nodup_nil

/-- Inserting all records stores them and nothing else. -/
theorem stocked_of_foldlM (grounded : registry.Grounded) {service : Service}
    (following : service.Following registry) (nothing : service.store = .empty registry.catalog)
    {records : List RecordEntry} {state : Service × ByKey}
    (success : records.foldlM insertRecord (service, SortedMap.empty) = .ok state) :
    Stocked registry records state := by
  refine foldlM_eq_ok (Stocked registry) ?_ (stocked_nil following nothing) success
  rintro done record rest state next - stocked inserted
  exact stocked.insertRecord grounded inserted

end Dataset
end EntitySearch
