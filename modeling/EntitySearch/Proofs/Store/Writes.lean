import EntitySearch.Proofs.Catalog.Declared
import EntitySearch.Store.Write

/-!
# Runs of writes

A `Write` is one call that may change the store, and `Store.run` is what a list of them leads to; a
write that fails changes nothing.  For every kind of write there is one statement of all that a
success can mean: `insert_eq_ok`, `update_eq_ok`, `setForeignKey_eq_ok`, `delete_eq_ok`,
`link_eq_ok` and `unlink_eq_ok`.
-/
set_option autoImplicit false
namespace EntitySearch

inductive Write where
  | insert (type : TypeName) (attributes : List (String × Value))
  | update (entity : EntityRef) (attributes : List (String × Value))
  | setForeignKey (entity : EntityRef) (name : String) (target : Option Nat)
  | delete (entity : EntityRef)
  | link (entity : EntityRef) (name : String) (targets : List Nat)
  | unlink (entity : EntityRef) (name : String) (targets : List Nat)

def Outcome.forget {α : Type} (outcome : Outcome α) : Outcome Unit where
  answer := ()
  after := outcome.after
  notice? := outcome.notice?

def Write.operation : Write → Store → Except SearchError (Outcome Unit)
  | .insert type attributes, store => (store.insert type attributes).map Outcome.forget
  | .update entity attributes, store => store.update entity attributes
  | .setForeignKey entity name target, store => store.setForeignKey entity name target
  | .delete entity, store => store.delete entity
  | .link entity name targets, store => store.link entity name targets
  | .unlink entity name targets, store => store.unlink entity name targets

namespace Store

/-- The store after a write; one that fails changes nothing. -/
def perform (store : Store) (write : Write) : Store :=
  match write.operation store with
  | .ok outcome => outcome.after
  | .error _ => store

def run (store : Store) (writes : List Write) : Store := writes.foldl perform store

def unlinkedOf (store : Store) (junction : String) (side : Side) (anchor : Nat)
    (targets : List Nat) : List Nat :=
  distinct (targets.filter fun id =>
    !(store.linkSet junction).contains (Link.ofSide side anchor id))

def linkedOf (store : Store) (junction : String) (side : Side) (anchor : Nat)
    (targets : List Nat) : List Nat :=
  targets.filter fun id => (store.linkSet junction).contains (Link.ofSide side anchor id)

theorem mem_targets_of_mem_unlinkedOf {store : Store} {junction : String} {side : Side}
    {anchor id : Nat} {targets : List Nat}
    (member : id ∈ store.unlinkedOf junction side anchor targets) : id ∈ targets :=
  (List.mem_filter.1 (mem_distinct.1 member)).1

def withKey (keys : SortedMap String Nat) (name : String) : Option Nat → SortedMap String Nat
  | some id => keys.insert name id
  | none => keys.erase name

variable {store : Store}

theorem record_eq_ok {entity : EntityRef} {record : Record}
    (success : store.record entity = .ok record) : store.records.get? entity = some record := by
  unfold Store.record at success
  split at success
  · next stored =>
    cases success
    exact stored
  · cases success

theorem relation_eq_ok {model : TypeName} {name : String} {relation : Relation}
    (success : store.relation model name = .ok relation) :
    store.catalog.relation? model name = some relation := by
  unfold Store.relation at success
  split at success
  · next stored =>
    cases success
    exact stored
  · cases success

theorem junctionOf_eq_ok {entity : EntityRef} {name junction : String} {side : Side}
    {target : TypeName} (success : store.junctionOf entity name = .ok (junction, side, target)) :
    ∃ relation, store.catalog.relation? entity.typeName name = some relation ∧
      relation.kind = .manyToMany junction side ∧ relation.target = target := by
  obtain ⟨relation, looked, success⟩ := bind_eq_ok success
  refine ⟨relation, relation_eq_ok looked, ?_⟩
  cases kind : relation.kind with
  | foreignKey =>
      rw [Relation.junction?, kind] at success
      cases success
  | reverseForeignKey field =>
      rw [Relation.junction?, kind] at success
      cases success
  | manyToMany through side' =>
      rw [Relation.junction?, kind] at success
      cases success
      exact ⟨rfl, rfl⟩

theorem junctionOf_eq {entity : EntityRef} {name junction : String} {side : Side}
    {relation : Relation} (stored : store.catalog.relation? entity.typeName name = some relation)
    (through : relation.kind = .manyToMany junction side) :
    store.junctionOf entity name = .ok (junction, side, relation.target) := by
  simp [junctionOf, Store.relation, stored, Relation.junction?, through, bind, Except.bind, pure,
    Except.pure]

theorem contains_eq_true {entity : EntityRef} :
    store.contains entity = true ↔ ∃ record, store.records.get? entity = some record := by
  simp [Store.contains, SortedMap.contains, Option.isSome_iff_exists]

theorem insert_eq_ok {type : TypeName} {attributes : List (String × Value)}
    {outcome : Outcome EntityRef} (success : store.insert type attributes = .ok outcome) :
    ∃ checked, store.checkAttributes type attributes = .ok checked ∧
      outcome.answer = ⟨type, store.nextId⟩ ∧
      outcome.after = { store.putRecord ⟨type, store.nextId⟩ { attributes := checked } with
        tables := SortedSet.add store.tables type
        nextId := store.nextId + 1 } ∧
      outcome.notice? = some ⟨.entity ⟨type, store.nextId⟩ .created, outcome.after⟩ := by
  obtain ⟨checked, check, success⟩ := bind_eq_ok success
  cases success
  exact ⟨checked, check, rfl, rfl, rfl⟩

theorem exists_insert {type : TypeName} {model : Model}
    (known : store.catalog.model? type = some model) :
    ∃ outcome, store.insert type [] = .ok outcome := by
  unfold Store.insert checkAttributes
  rw [known]
  exact ⟨_, rfl⟩

theorem operation_insert_eq_ok {type : TypeName} {attributes : List (String × Value)}
    {outcome : Outcome Unit}
    (success : (Write.insert type attributes).operation store = .ok outcome) :
    ∃ created, store.insert type attributes = .ok created ∧ outcome = created.forget := by
  obtain ⟨created, inserted, rfl⟩ := map_eq_ok success
  exact ⟨created, inserted, rfl⟩

theorem update_eq_ok {entity : EntityRef} {attributes : List (String × Value)}
    {outcome : Outcome Unit} (success : store.update entity attributes = .ok outcome) :
    ∃ record, store.records.get? entity = some record ∧
      ∃ checked, store.checkAttributes entity.typeName attributes = .ok checked ∧
        outcome.after = store.putRecord entity
          { record with attributes := record.attributes.insertAll checked } ∧
        outcome.notice? = some ⟨.entity entity .updated, outcome.after⟩ := by
  obtain ⟨checked, check, success⟩ := bind_eq_ok success
  obtain ⟨record, held, success⟩ := bind_eq_ok success
  cases success
  exact ⟨record, record_eq_ok held, checked, check, rfl, rfl⟩

theorem setForeignKey_eq_ok {entity : EntityRef} {name : String} {target : Option Nat}
    {outcome : Outcome Unit} (success : store.setForeignKey entity name target = .ok outcome) :
    ∃ relation, store.catalog.relation? entity.typeName name = some relation ∧
      relation.kind = .foreignKey ∧
      (∀ id ∈ target, store.contains ⟨relation.target, id⟩ = true) ∧
      ∃ record, store.records.get? entity = some record ∧
        outcome.after = store.putRecord entity
          { record with foreignKeys := withKey record.foreignKeys name target } ∧
        outcome.notice? = some ⟨.entity entity .updated, outcome.after⟩ := by
  obtain ⟨relation, looked, success⟩ := bind_eq_ok success
  refine ⟨relation, relation_eq_ok looked, ?_⟩
  cases target with
  | none =>
      obtain ⟨isKey, success⟩ := guard_eq_ok success
      obtain ⟨record, stored, success⟩ := bind_eq_ok success
      cases success
      exact ⟨Decidable.not_not.1 isKey, by simp, record, record_eq_ok stored, rfl, rfl⟩
  | some id =>
      obtain ⟨isKey, success⟩ := guard_eq_ok success
      obtain ⟨present, success⟩ := guard_eq_ok success
      obtain ⟨record, stored, success⟩ := bind_eq_ok success
      cases success
      refine ⟨Decidable.not_not.1 isKey, ?_, record, record_eq_ok stored, rfl, rfl⟩
      simpa using present

theorem delete_eq_ok {entity : EntityRef} {outcome : Outcome Unit}
    (success : store.delete entity = .ok outcome) :
    store.contains entity = true ∧ outcome.after = store.without entity ∧
      outcome.notice? = some ⟨.entity entity .deleted, store⟩ := by
  unfold Store.delete at success
  split at success
  · next present =>
    cases success
    exact ⟨present, rfl, rfl⟩
  · cases success

theorem link_eq_ok {entity : EntityRef} {name : String} {targets : List Nat}
    {outcome : Outcome Unit} (success : store.link entity name targets = .ok outcome) :
    ∃ relation junction side, store.catalog.relation? entity.typeName name = some relation ∧
      relation.kind = .manyToMany junction side ∧
      store.contains entity = true ∧
      (∀ id ∈ targets, store.contains ⟨relation.target, id⟩ = true) ∧
      let added := store.unlinkedOf junction side entity.id targets
      outcome.after = { store with
        links := store.links.insert junction (added.foldl
          (fun links id => links.add (Link.ofSide side entity.id id)) (store.linkSet junction)) } ∧
      outcome.notice? = if added = [] then none else
        some ⟨.link junction .added side entity (added.map (EntityRef.mk relation.target)),
          outcome.after⟩ := by
  obtain ⟨⟨junction, side, _⟩, looked, success⟩ := bind_eq_ok success
  obtain ⟨relation, declared, through, rfl⟩ := junctionOf_eq_ok looked
  obtain ⟨record, held, success⟩ := bind_eq_ok success
  have present : store.contains entity = true := contains_eq_true.2 ⟨record, record_eq_ok held⟩
  refine ⟨relation, junction, side, declared, through, present, ?_⟩
  cases missing : targets.find? fun id => !store.contains ⟨relation.target, id⟩ with
  | some id =>
      simp only [missing] at success
      cases success
  | none =>
      have all : ∀ id ∈ targets, store.contains ⟨relation.target, id⟩ = true := by
        intro id member
        simpa using List.find?_eq_none.1 missing id member
      refine ⟨all, ?_⟩
      simp only [missing] at success
      split at success
      · next empty =>
        cases success
        exact ⟨rfl, (if_pos (List.isEmpty_iff.1 empty)).symm⟩
      · next some =>
        cases success
        refine ⟨rfl, (if_neg fun empty => some (List.isEmpty_iff.2 empty)).symm⟩

theorem unlink_eq_ok {entity : EntityRef} {name : String} {targets : List Nat}
    {outcome : Outcome Unit} (success : store.unlink entity name targets = .ok outcome) :
    ∃ relation junction side, store.catalog.relation? entity.typeName name = some relation ∧
      relation.kind = .manyToMany junction side ∧
      let removed := store.linkedOf junction side entity.id targets
      (removed = [] ∧ outcome.after = store ∧ outcome.notice? = none) ∨
        (removed ≠ [] ∧
          outcome.after = { store with
            links := store.links.insert junction (removed.foldl
              (fun links id => links.erase (Link.ofSide side entity.id id))
              (store.linkSet junction)) } ∧
          outcome.notice? = some ⟨.link junction .removed side entity
            (removed.map (EntityRef.mk relation.target)), store⟩) := by
  obtain ⟨⟨junction, side, _⟩, looked, success⟩ := bind_eq_ok success
  obtain ⟨relation, declared, through, rfl⟩ := junctionOf_eq_ok looked
  refine ⟨relation, junction, side, declared, through, ?_⟩
  dsimp only at success
  split at success
  · next empty =>
    cases success
    exact .inl ⟨List.isEmpty_iff.1 empty, rfl, rfl⟩
  · next some =>
    cases success
    exact .inr ⟨fun empty => some (List.isEmpty_iff.2 empty), rfl, rfl⟩

theorem exists_delete {entity : EntityRef} (present : store.contains entity = true) :
    ∃ outcome, store.delete entity = .ok outcome :=
  ⟨_, if_pos present⟩

section Links
variable {anchor : EntityRef} {name junction : String} {side : Side} {relation : Relation}
  (stored : store.catalog.relation? anchor.typeName name = some relation)
  (through : relation.kind = .manyToMany junction side)
include stored through

theorem exists_link (present : store.contains anchor = true) (targets : List Nat)
    (targetsPresent : ∀ id ∈ targets, store.contains ⟨relation.target, id⟩ = true) :
    ∃ outcome, store.link anchor name targets = .ok outcome := by
  obtain ⟨record, held⟩ := contains_eq_true.1 present
  have noneMissing : (targets.find? fun id => !store.contains ⟨relation.target, id⟩) = none := by
    simpa using targetsPresent
  simp only [Store.link, junctionOf_eq stored through, Store.record, held, noneMissing, bind,
    Except.bind, pure, Except.pure]
  split <;> exact ⟨_, rfl⟩

theorem exists_unlink (targets : List Nat) :
    ∃ outcome, store.unlink anchor name targets = .ok outcome := by
  have found := junctionOf_eq stored through
  by_cases empty : (store.linkedOf junction side anchor.id targets).isEmpty
  · exact ⟨_, by rw [unlink, found]; exact if_pos empty⟩
  · exact ⟨_, by rw [unlink, found]; exact if_neg empty⟩

end Links

/-! ## All writes -/

/-- Observers see a store as it was before a write or as it is afterwards. -/
theorem seen_of_operation {write : Write} {outcome : Outcome Unit} {notice : Notice}
    (success : write.operation store = .ok outcome) (noticed : outcome.notice? = some notice) :
    notice.seen = outcome.after ∨ notice.seen = store := by
  cases write with
  | insert type attributes =>
      obtain ⟨created, inserted, rfl⟩ := operation_insert_eq_ok success
      obtain ⟨_, -, -, -, told⟩ := insert_eq_ok inserted
      cases told.symm.trans noticed
      exact Or.inl rfl
  | update entity attributes =>
      obtain ⟨_, -, _, -, -, told⟩ := update_eq_ok success
      cases told.symm.trans noticed
      exact Or.inl rfl
  | setForeignKey entity name target =>
      obtain ⟨_, -, -, -, _, -, -, told⟩ := setForeignKey_eq_ok success
      cases told.symm.trans noticed
      exact Or.inl rfl
  | delete entity =>
      obtain ⟨-, -, told⟩ := delete_eq_ok success
      cases told.symm.trans noticed
      exact Or.inr rfl
  | link entity name targets =>
      obtain ⟨_, _, _, -, -, -, -, -, told⟩ := link_eq_ok success
      split at told
      · cases told.symm.trans noticed
      · cases told.symm.trans noticed
        exact Or.inl rfl
  | unlink entity name targets =>
      obtain ⟨_, _, _, -, -, ⟨-, -, told⟩ | ⟨-, -, told⟩⟩ := unlink_eq_ok success
      · cases told.symm.trans noticed
      · cases told.symm.trans noticed
        exact Or.inr rfl

end Store
end EntitySearch
