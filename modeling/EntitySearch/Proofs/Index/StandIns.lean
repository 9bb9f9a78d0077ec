import EntitySearch.Proofs.Index.Effects
import EntitySearch.Proofs.Index.Jobs
import EntitySearch.Proofs.Store.References

/-!
# Models that stand in for a type

A further name of an entity type may be the name of a model.  Jobs for entities of that model find
the type by the name, but the fields are followed from the entities themselves, so a document is
built just if every field begins with a relation that the model has.  Then the model stands in for
the type: its entities get documents under a name that is not registered.

Over every write, what is held of an entity of no registered type is a document just if the entity
is stored and its model stands in.

Main statements: `begins_of_build`, `exists_build_of_begins`, `Fits.of_operation`.
-/
set_option autoImplicit false
namespace EntitySearch

/-- Does the path of a field begin at a model?  One that ends at the entity itself begins
anywhere. -/
def Field.beginsAt (catalog : Catalog) (model : TypeName) (field : Field) : Bool :=
  match field.path.relations with
  | [] => true
  | first :: _ => (catalog.relation? model first).isSome

namespace Registry

/-- Is a name a further name of a type whose fields all begin at the model of that name? -/
def standsIn (registry : Registry) (name : TypeName) : Bool :=
  !registry.isRegistered name && (registry.lookup name).any fun type =>
    type.fields.all (Field.beginsAt registry.catalog name)

def Fits (registry : Registry) (store : Store) (held : EntityRef → Option Document)
    (entity : EntityRef) : Prop :=
  (held entity).isSome = true ↔
    store.contains entity = true ∧ registry.standsIn entity.typeName = true

variable {registry : Registry}

theorem standsIn_eq_true {name : TypeName} :
    registry.standsIn name = true ↔ registry.isRegistered name = false ∧
      ∃ type, registry.lookup name = some type ∧
        ∀ field ∈ type.fields, field.beginsAt registry.catalog name = true := by
  simp [standsIn, Option.any_eq_true]

theorem standsIn_eq_false {name : TypeName} (notOther : registry.others.get? name = none) :
    registry.standsIn name = false := by
  rw [← Bool.not_eq_true, standsIn_eq_true]
  rintro ⟨unregistered, type, looked, -⟩
  have none : registry.types.get? name = none := by
    simpa [isRegistered, SortedMap.contains] using unregistered
  rw [lookup, notOther, Option.getD_none, none] at looked
  cases looked

end Registry

namespace Store
variable {store : Store} {type : EntityType} {entity : EntityRef} {exclude : Option Exclusion}

theorem begins_of_reach {owner model : TypeName} {field : Field} {found : List EntityRef}
    (reached : Document.reach store.catalog store.view exclude owner field model [entity]
      field.path.relations = .ok found) :
    field.beginsAt store.catalog entity.typeName = true := by
  unfold Field.beginsAt
  cases path : field.path.relations with
  | nil => rfl
  | cons first rest =>
      rw [path] at reached
      unfold Document.reach at reached
      split at reached
      · cases reached
      · split at reached
        · cases reached
        · next relation _ _ stepped =>
          obtain ⟨_, each, -⟩ := map_eq_ok stepped
          obtain ⟨_, followed⟩ := each_of_mapM_eq_ok each (List.mem_singleton_self entity)
          obtain ⟨_, related, -⟩ := map_eq_ok followed
          obtain ⟨own, looked, -⟩ := map_eq_ok related
          exact Option.isSome_iff_exists.2 ⟨own, relation_eq_ok looked⟩

theorem begins_of_build {document : Document}
    (built : Document.build store.catalog store.view type entity exclude = .ok (some document)) :
    store.contains entity = true ∧
      ∀ field ∈ type.fields, field.beginsAt store.catalog entity.typeName = true := by
  unfold Document.build at built
  split at built
  · next present =>
    refine ⟨present, fun field isField => ?_⟩
    obtain ⟨_, each, -⟩ := map_eq_ok built
    obtain ⟨_, texts⟩ := each_of_mapM_eq_ok each isField
    obtain ⟨_, followed, -⟩ := map_eq_ok texts
    obtain ⟨_, reached, -⟩ := map_eq_ok followed
    exact begins_of_reach reached
  · cases built

theorem absent_of_build
    (built : Document.build store.catalog store.view type entity exclude = .ok none) :
    store.contains entity = false := by
  unfold Document.build at built
  split at built
  · obtain ⟨_, -, impossible⟩ := map_eq_ok built
    cases impossible
  · next absent => exact Bool.eq_false_iff.2 absent

/-- Where nothing leads on from an entity, the path of a field is followed for one step only. -/
theorem exists_reach_of_begins (alone : ∀ relation, store.reached relation entity = [])
    {owner model : TypeName} {field : Field}
    (walkable : ∃ steps, store.catalog.hops model field.path.relations = .ok steps)
    (begins : field.beginsAt store.catalog entity.typeName = true) :
    ∃ found, Document.reach store.catalog store.view exclude owner field model [entity]
      field.path.relations = .ok found := by
  unfold Field.beginsAt at begins
  cases path : field.path.relations with
  | nil => exact ⟨[entity], rfl⟩
  | cons first rest =>
      rw [path] at begins walkable
      obtain ⟨steps, walked⟩ := walkable
      obtain ⟨own, stored⟩ := Option.isSome_iff_exists.1 begins
      cases declared : store.catalog.relation? model first with
      | none =>
          unfold Catalog.hops at walked
          rw [declared] at walked
          cases walked
      | some relation =>
          have followed : store.view.related entity first = .ok [] := by
            rw [← alone own]
            exact related_eq_reached stored
          have stepped : Document.step store.view exclude relation first [entity] = .ok [] := by
            simp [Document.step, followed, Except.map, pure, Except.pure, bind, Except.bind,
              distinct]
          refine ⟨[], ?_⟩
          simp [Document.reach, declared, stepped]

theorem exists_build_of_begins (present : store.contains entity = true)
    (alone : ∀ relation, store.reached relation entity = [])
    (walkable : ∀ field ∈ type.fields,
      ∃ steps, store.catalog.hops type.name field.path.relations = .ok steps)
    (begins : ∀ field ∈ type.fields, field.beginsAt store.catalog entity.typeName = true) :
    ∃ document,
      Document.build store.catalog store.view type entity exclude = .ok (some document) := by
  have each : ∀ field ∈ type.fields, ∃ named,
      ((Document.fieldTexts store.catalog store.view exclude type.name entity field).map
        fun texts => (field.name, texts)) = .ok named := by
    intro field isField
    obtain ⟨found, reached⟩ := exists_reach_of_begins alone (walkable field isField)
      (begins field isField)
    rw [Document.fieldTexts, reached]
    exact ⟨_, rfl⟩
  obtain ⟨fields, built⟩ := exists_mapM_eq_ok each
  have isStored : store.view.contains entity = true := present
  rw [Document.build, if_pos isStored, built]
  exact ⟨_, rfl⟩

end Store

/-! ## Jobs -/

def Watch.leaves (watch : Watch) (held : EntityRef → Option Document) :
    Option Notice → EntityRef → Option Document
  | none => held
  | some notice =>
    IndexJob.leaveAll ⟨watch.registry, notice.seen.view⟩
      (watch.jobsOn notice.seen.view notice.event) held

namespace Registry
variable {registry : Registry} {store : Store} {held : EntityRef → Option Document}
  {entity : EntityRef}

theorem Fits.of_held (fits : registry.Fits store held entity)
    {after : EntityRef → Option Document} (same : after entity = held entity) :
    registry.Fits store after entity := by
  unfold Fits
  rw [same]
  exact fits

theorem Fits.of_stored {after : Store} (fits : registry.Fits store held entity)
    (same : after.contains entity = store.contains entity) : registry.Fits after held entity := by
  unfold Fits
  rw [same]
  exact fits

section Jobs
variable (onCatalog : store.catalog = registry.catalog)
  (unregistered : registry.isRegistered entity.typeName = false)
include onCatalog unregistered

theorem isSome_of_written {exclude : Option Exclusion} {document? : Option Document}
    (written : (IndexJob.index entity exclude).written? ⟨registry, store.view⟩ =
      some document?) :
    document?.isSome = true ↔
      store.contains entity = true ∧ registry.standsIn entity.typeName = true := by
  obtain ⟨type, looked, built⟩ := IndexJob.written_index_iff.1 written
  change Document.build registry.catalog store.view type entity exclude = _ at built
  rw [← onCatalog] at built
  cases document? with
  | none => simp [Store.absent_of_build built]
  | some document =>
      obtain ⟨present, begins⟩ := Store.begins_of_build built
      rw [onCatalog] at begins
      have stands : registry.standsIn entity.typeName = true :=
        standsIn_eq_true.2 ⟨unregistered, type, looked, begins⟩
      simp [present, stands]

theorem Fits.index (fits : registry.Fits store held entity) (exclude : Option Exclusion) :
    registry.Fits store ((IndexJob.index entity exclude).leaves ⟨registry, store.view⟩ held)
      entity := by
  cases written : (IndexJob.index entity exclude).written? ⟨registry, store.view⟩ with
  | none =>
      rw [IndexJob.leaves_of_unwritten written]
      exact fits
  | some document? =>
      have here : (IndexJob.index entity exclude).leaves ⟨registry, store.view⟩ held entity =
          document? := IndexJob.leaves_self written
      unfold Fits
      rw [here]
      exact isSome_of_written onCatalog unregistered written

theorem Fits.leaveAll (fits : registry.Fits store held entity) {jobs : List IndexJob}
    (indexes : ∀ job ∈ jobs, job.entity = entity → ∃ exclude, job = .index entity exclude) :
    registry.Fits store (IndexJob.leaveAll ⟨registry, store.view⟩ jobs held) entity := by
  induction jobs generalizing held with
  | nil => exact fits
  | cons job rest ih =>
      refine ih ?_ fun other inRest => indexes other (List.mem_cons_of_mem _ inRest)
      by_cases isEntity : job.entity = entity
      · obtain ⟨exclude, rfl⟩ := indexes job (List.mem_cons_self ..) isEntity
        exact fits.index onCatalog unregistered exclude
      · have kept : job.leaves ⟨registry, store.view⟩ held entity = held entity :=
          IndexJob.leaves_of_ne fun same => isEntity same.symm
        exact fits.of_held kept

theorem fits_of_created (orderly : registry.Orderly) (present : store.contains entity = true)
    (alone : ∀ relation, store.reached relation entity = []) (unheld : held entity = none) :
    registry.Fits store
      (IndexJob.leaveAll ⟨registry, store.view⟩
        (if (registry.lookup entity.typeName).isSome then [.index entity none] else []) held)
      entity := by
  cases stands : registry.standsIn entity.typeName with
  | false =>
      have fits : registry.Fits store held entity := by simp [Fits, unheld, stands]
      refine fits.leaveAll onCatalog unregistered fun job isJob _ => ?_
      split at isJob
      · exact ⟨none, List.mem_singleton.1 isJob⟩
      · cases isJob
  | true =>
      obtain ⟨-, type, looked, begins⟩ := standsIn_eq_true.1 stands
      have walkable : ∀ field ∈ type.fields,
          ∃ steps, store.catalog.hops type.name field.path.relations = .ok steps :=
        onCatalog ▸ orderly.walkable _ type looked
      obtain ⟨document, built⟩ : ∃ document,
          Document.build store.catalog store.view type entity none = .ok (some document) :=
        Store.exists_build_of_begins present alone walkable (onCatalog ▸ begins)
      rw [onCatalog] at built
      have written : (IndexJob.index entity none).written? ⟨registry, store.view⟩ =
          some (some document) := IndexJob.written_index_iff.2 ⟨type, looked, built⟩
      have left : (IndexJob.index entity none).leaves ⟨registry, store.view⟩ held entity =
          some document := IndexJob.leaves_self written
      rw [looked]
      change ((IndexJob.index entity none).leaves ⟨registry, store.view⟩ held entity).isSome =
        true ↔ _
      rw [left]
      simp [present, stands]

end Jobs

/-! ## Writes -/

section Writes
variable {watch : Watch} (onCatalog : store.catalog = watch.registry.catalog)
  (unregistered : watch.registry.isRegistered entity.typeName = false)
include onCatalog unregistered

theorem Fits.insert (orderly : watch.registry.Orderly) (bounded : store.Bounded) {type : TypeName}
    {attributes : List (String × Value)} {outcome : Outcome EntityRef}
    (success : store.insert type attributes = .ok outcome)
    (fits : watch.registry.Fits store held entity) :
    watch.registry.Fits outcome.after (watch.leaves held outcome.notice?) entity := by
  have agree := Store.agreeBut_insert success
  have afterOnCatalog := agree.catalog.trans onCatalog
  have fresh := bounded.counted.fresh type
  obtain ⟨_, -, -, after, noticed⟩ := Store.insert_eq_ok success
  rw [noticed]
  unfold Watch.leaves
  dsimp only
  by_cases isNew : entity = ⟨type, store.nextId⟩
  · have absent : store.contains entity = false := by
      rw [isNew, Store.contains, SortedMap.contains, fresh]
      rfl
    have unheld : held entity = none := by
      rw [Fits, absent] at fits
      simpa using fits
    have present : outcome.after.contains entity = true := by
      rw [isNew, after]
      exact Store.contains_putRecord ..
    have alone : ∀ relation, outcome.after.reached relation entity = [] := by
      intro relation
      refine List.eq_nil_iff_forall_not_mem.2 fun found member => ?_
      obtain ⟨typed, joined⟩ := Store.mem_reached_iff.1 member
      have before := (Store.joins_insert success fresh relation entity found).1 joined
      have reached : found ∈ store.reached relation ⟨type, store.nextId⟩ :=
        Store.mem_reached_iff.2 ⟨typed, isNew ▸ before⟩
      rw [bounded.reached_eq_nil] at reached
      cases reached
    obtain ⟨others, jobs, isOther⟩ :=
      watch.jobsOn_entity_eq outcome.after.view ⟨type, store.nextId⟩ .created
    rw [jobs, IndexJob.leaveAll_append, ← isNew]
    refine (fits_of_created afterOnCatalog unregistered orderly present alone unheld).leaveAll
      afterOnCatalog unregistered fun job member isEntity => ?_
    obtain ⟨owner, differs, rfl⟩ := isOther job member
    exact absurd (isEntity.trans isNew) differs
  · refine (fits.of_stored (agree.contains entity isNew)).leaveAll afterOnCatalog unregistered ?_
    rintro job member rfl
    obtain ⟨owner, rfl⟩ := Watch.job_of_done (by decide) member
    exact ⟨none, rfl⟩

theorem Fits.delete {deleted : EntityRef} {outcome : Outcome Unit}
    (success : store.delete deleted = .ok outcome)
    (fits : watch.registry.Fits store held entity) :
    watch.registry.Fits outcome.after (watch.leaves held outcome.notice?) entity := by
  obtain ⟨-, after, noticed⟩ := Store.delete_eq_ok success
  rw [noticed, after]
  unfold Watch.leaves
  dsimp only
  by_cases isDeleted : entity = deleted
  · subst isDeleted
    obtain ⟨others, jobs, isOther⟩ := watch.jobsOn_entity_eq store.view entity .deleted
    have gone : IndexJob.leaveAll ⟨watch.registry, store.view⟩
        (watch.jobsOn store.view (.entity entity .deleted)) held entity = none := by
      rw [jobs, IndexJob.leaveAll_append, IndexJob.leaveAll_of_ne]
      · cases looked : watch.registry.lookup entity.typeName with
        | none =>
            have stays : watch.registry.standsIn entity.typeName = false := by
              simp [standsIn, looked]
            change held entity = none
            simpa [Fits, stays] using fits
        | some type => exact Function.update_self ..
      · intro job member same
        obtain ⟨owner, differs, rfl⟩ := isOther job member
        exact differs same.symm
    unfold Fits
    rw [gone, Store.contains_without_self]
    simp
  · have indexes : ∀ job ∈ watch.jobsOn store.view (.entity deleted .deleted),
        job.entity = entity → ∃ exclude, job = .index entity exclude := by
      rintro job member rfl
      rcases Watch.job_of_entity member with rfl | ⟨owner, -, rfl⟩
      · exact absurd rfl isDeleted
      · exact ⟨_, rfl⟩
    have kept := fits.leaveAll onCatalog unregistered indexes
    exact kept.of_stored ((Store.agreeBut_without deleted).contains entity isDeleted)

omit onCatalog in
theorem Fits.of_done {outcome : Outcome Unit} {event : ChangeEvent}
    (afterOnCatalog : outcome.after.catalog = watch.registry.catalog)
    (noticed : outcome.notice? = some ⟨event, outcome.after⟩)
    (indexes : ∀ job ∈ watch.jobsOn outcome.after.view event, ∃ owner, job = .index owner none)
    (same : outcome.after.contains entity = store.contains entity)
    (fits : watch.registry.Fits store held entity) :
    watch.registry.Fits outcome.after (watch.leaves held outcome.notice?) entity := by
  rw [noticed]
  refine (fits.of_stored same).leaveAll afterOnCatalog unregistered ?_
  rintro job member rfl
  obtain ⟨owner, rfl⟩ := indexes job member
  exact ⟨none, rfl⟩

/-- Over every write, a document is held of an entity of no registered type just if the entity is
stored and its model stands in. -/
theorem Fits.of_operation (orderly : watch.registry.Orderly) (bounded : store.Bounded)
    {write : Write} {outcome : Outcome Unit} (success : write.operation store = .ok outcome)
    (fits : watch.registry.Fits store held entity) :
    watch.registry.Fits outcome.after (watch.leaves held outcome.notice?) entity := by
  have afterOnCatalog := (Store.grows_of_operation success).catalog.trans onCatalog
  cases write with
  | insert type attributes =>
      obtain ⟨created, inserted, rfl⟩ := Store.operation_insert_eq_ok success
      exact fits.insert onCatalog unregistered orderly bounded inserted
  | update updated attributes =>
      obtain ⟨_, -, _, -, -, noticed⟩ := Store.update_eq_ok success
      exact fits.of_done unregistered afterOnCatalog noticed
        (fun _ => Watch.job_of_done (by decide)) (Store.contains_update success entity)
  | setForeignKey holder name target =>
      obtain ⟨_, -, -, -, _, -, -, noticed⟩ := Store.setForeignKey_eq_ok success
      exact fits.of_done unregistered afterOnCatalog noticed
        (fun _ => Watch.job_of_done (by decide)) (Store.contains_setForeignKey success entity)
  | delete deleted => exact fits.delete onCatalog unregistered success
  | link anchor name targets =>
      have same := Store.contains_congr (Store.records_link success) entity
      obtain ⟨_, _, _, -, -, -, -, -, noticed⟩ := Store.link_eq_ok success
      split at noticed
      · rw [noticed]
        exact fits.of_stored same
      · exact fits.of_done unregistered afterOnCatalog noticed
          (fun _ => Watch.exists_of_mem_jobsOn_link) same
  | unlink anchor name targets =>
      have same := Store.contains_congr (Store.records_unlink success) entity
      obtain ⟨_, _, _, -, -, ⟨-, -, noticed⟩ | ⟨-, -, noticed⟩⟩ := Store.unlink_eq_ok success
      · rw [noticed]
        exact fits.of_stored same
      · rw [noticed]
        refine (fits.leaveAll onCatalog unregistered ?_).of_stored same
        rintro job member rfl
        obtain ⟨owner, rfl⟩ := Watch.exists_of_mem_jobsOn_link member
        exact ⟨_, rfl⟩

end Writes

end Registry
end EntitySearch
