import EntitySearch.Proofs.Index.Rebuilding
import EntitySearch.Proofs.Index.StandIns
import EntitySearch.Proofs.Registry.Names
import EntitySearch.Proofs.Service.Following

/-!
# Documents that cannot be reached

Searches and rebuilds go by the names that types are registered under.  A document of an entity of
another type is invisible to them.  Whatever is written, such documents are held of exactly the
stored entities whose models stand in for a type; so every document is visible, over every run,
just if no model stands in.

Main statements: `visible_after_writes_iff`, for a single write `Filed.write`, and `held_rebuildAll`
(no rebuild reaches what is invisible).
-/
set_option autoImplicit false
namespace EntitySearch
namespace Service

/-- Every document is of an entity whose type is registered under its own name. -/
def Visible (service : Service) : Prop :=
  ∀ entity, (service.index.inner.held entity).isSome = true →
    service.registry.isRegistered entity.typeName = true

/-- The invariant of the writes: of an entity of no registered type a document is held just if the
entity is stored and its model stands in. -/
structure Filed (registry : Registry) (service : Service) : Prop where
  prompt : service.Prompt registry
  onCatalog : service.store.catalog = registry.catalog
  bounded : service.store.Bounded
  modelled : service.store.Modelled
  fits : ∀ entity, registry.isRegistered entity.typeName = false →
    registry.Fits service.store service.index.inner.held entity

variable {registry : Registry} {service : Service}

theorem held_follow (prompt : service.Prompt registry) (outcome : Outcome Unit) :
    (service.follow outcome).Prompt registry ∧
      (service.follow outcome).store = outcome.after ∧
      (service.follow outcome).index.inner.held =
        service.watch.leaves service.index.inner.held outcome.notice? := by
  have watched := (Watch.ofRegistry_eq_ok prompt.watching).1
  cases noticed : outcome.notice? with
  | none =>
      obtain ⟨promptLast, sameStore, sameIndex⟩ := prompt_follow_unnoticed prompt noticed
      exact ⟨promptLast, sameStore, congrArg (fun index => index.inner.held) sameIndex⟩
  | some notice =>
      rw [Watch.leaves, watched]
      exact prompt_follow prompt noticed

theorem filed_assemble {config : Config} {retries : Nat} {permissions : Permissions}
    (assembled : Service.assemble registry config (.inline retries) permissions = .ok service) :
    service.Filed registry := by
  obtain ⟨watch, watched, rfl⟩ := assemble_eq_ok assembled
  refine ⟨⟨rfl, watched, ⟨retries, rfl⟩, rfl, rfl, rfl⟩, rfl, Store.bounded_empty _,
    Store.modelled_empty _, ?_⟩
  intro entity unregistered
  constructor
  · intro holds
    cases holds
  · rintro ⟨present, -⟩
    cases present

theorem Filed.write (orderly : registry.Orderly) (filed : service.Filed registry) (write : Write) :
    (service.write write.operation).2.Filed registry := by
  unfold Service.write
  cases performed : write.operation service.store with
  | error e => exact filed
  | ok outcome =>
      obtain ⟨prompt, sameStore, left⟩ := held_follow filed.prompt outcome
      have watched := (Watch.ofRegistry_eq_ok filed.prompt.watching).1
      subst watched
      refine ⟨prompt, ?_, ?_, ?_, fun entity unregistered => ?_⟩
      · rw [sameStore, (Store.grows_of_operation performed).catalog, filed.onCatalog]
      · exact sameStore ▸ filed.bounded.of_operation performed
      · exact sameStore ▸ filed.modelled.of_operation performed
      · rw [sameStore, left]
        exact (filed.fits entity unregistered).of_operation filed.onCatalog unregistered orderly
          filed.bounded performed

theorem Filed.writeAll (orderly : registry.Orderly) (filed : service.Filed registry)
    (writes : List Write) : (service.writeAll writes).Filed registry := by
  induction writes generalizing service with
  | nil => exact filed
  | cons write rest ih => exact ih (filed.write orderly write)

theorem Filed.visible (filed : service.Filed registry)
    (none : ∀ name, (registry.catalog.model? name).isSome = true → registry.standsIn name = false) :
    service.Visible := by
  intro entity holds
  rw [filed.prompt.serves]
  by_contra unregistered
  rw [Bool.not_eq_true] at unregistered
  obtain ⟨present, stands⟩ := (filed.fits entity unregistered).1 holds
  have known := filed.modelled entity present
  rw [filed.onCatalog] at known
  rw [none _ known] at stands
  cases stands

theorem Filed.not_visible (orderly : registry.Orderly) (filed : service.Filed registry)
    {name : TypeName} (known : (registry.catalog.model? name).isSome = true)
    (stands : registry.standsIn name = true) :
    ¬ (service.writeAll [.insert name []]).Visible := by
  obtain ⟨model, isModel⟩ := Option.isSome_iff_exists.1 known
  rw [← filed.onCatalog] at isModel
  obtain ⟨outcome, success⟩ := Store.exists_insert isModel
  have performed : (Write.insert name []).operation service.store = .ok outcome.forget := by
    change (service.store.insert name []).map Outcome.forget = _
    rw [success]
    rfl
  have written : service.writeAll [.insert name []] = service.follow outcome.forget := by
    change (service.write (Write.insert name []).operation).2 = _
    rw [Service.write, performed]
  have unregistered := (Registry.standsIn_eq_true.1 stands).1
  have present : outcome.after.contains ⟨name, service.store.nextId⟩ = true := by
    obtain ⟨_, -, -, after, -⟩ := Store.insert_eq_ok success
    rw [after]
    exact Store.contains_putRecord ..
  have later := filed.writeAll orderly [.insert name []]
  rw [written] at later ⊢
  have holds := (later.fits ⟨name, service.store.nextId⟩ unregistered).2
    ⟨(store_follow service outcome.forget).symm ▸ present, stands⟩
  intro visible
  have registered := visible _ holds
  rw [later.prompt.serves, unregistered] at registered
  cases registered

/-! ## Rebuilding -/

section Rebuilding
variable {entity : EntityRef}

theorem held_changing {index : SearchIndex}
    {change : SortedMap EntityRef Document → SortedMap EntityRef Document}
    (kept : (change index.documents).get? entity = index.documents.get? entity) :
    (index.changing change).2.held entity = index.held entity := by
  unfold SearchIndex.changing
  split
  · exact kept
  · rfl

theorem held_put {document : Document} (other : entity ≠ document.entity)
    (index : Faulty SearchIndex) :
    (target.put document index).2.inner.held entity = index.inner.held entity := by
  change (Faulty.call (SearchIndex.target.put document) index).2.inner.held entity = _
  unfold Faulty.call
  split
  · rfl
  · refine held_changing ?_
    rw [SortedMap.get?_insert, if_neg other]

theorem held_putAll {documents : List Document}
    (others : ∀ document ∈ documents, entity ≠ document.entity) (index : Faulty SearchIndex) :
    (target.putAll documents index).2.inner.held entity = index.inner.held entity := by
  induction documents generalizing index with
  | nil => rfl
  | cons document rest ih =>
      have here := held_put (others document (List.mem_cons_self ..)) index
      unfold IndexTarget.putAll
      split
      · next after put =>
        rw [put] at here
        rw [ih fun other inRest => others other (List.mem_cons_of_mem _ inRest)]
        exact here
      · next e after put =>
        rw [put] at here
        exact here

theorem held_clear {type : TypeName} (other : entity.typeName ≠ type) (index : Faulty SearchIndex) :
    (target.clear type index).2.inner.held entity = index.inner.held entity := by
  change (Faulty.passOn (SearchIndex.target.clear type) index).2.inner.held entity = _
  refine held_changing ?_
  rw [SortedMap.get?_filter]
  cases index.inner.documents.get? entity with
  | none => rfl
  | some document => simp [Option.filter, other]

theorem typed_of_mem_documents {indexer : Indexer} {type : EntityType} {documents : List Document}
    (built : indexer.documents type = .ok documents) {document : Document}
    (member : document ∈ documents) : document.entity.typeName = type.name := by
  obtain ⟨id, -, made⟩ := (Indexer.mem_documents built).1 member
  rw [Document.entity_of_build made]

theorem held_rebuild {indexer : Indexer} {type : EntityType}
    (looked : indexer.registry.lookup type.name = some type) (other : entity.typeName ≠ type.name)
    (index : Faulty SearchIndex) :
    (indexer.rebuild target type.name index).2.inner.held entity = index.inner.held entity := by
  have found : indexer.registry.get type.name = .ok type := by rw [Registry.get, looked]
  unfold Indexer.rebuild
  rw [found]
  dsimp only
  cases built : indexer.documents type with
  | error e => rfl
  | ok documents =>
      dsimp only
      have others : ∀ document ∈ documents, entity ≠ document.entity := by
        rintro document member rfl
        exact other (typed_of_mem_documents built member)
      have cleared := held_clear other index
      split
      · next e after clears =>
        rw [clears] at cleared
        exact cleared
      · next after clears =>
        rw [clears] at cleared
        have put := held_putAll others after
        split
        · next e last puts =>
          rw [puts] at put
          exact put.trans cleared
        · next last puts =>
          rw [puts] at put
          exact put.trans cleared

theorem held_rebuildEach {indexer : Indexer} {names : List TypeName}
    (each : ∀ name ∈ names, entity.typeName ≠ name ∧
      ∃ type, type.name = name ∧ indexer.registry.lookup name = some type)
    (index : Faulty SearchIndex) :
    (indexer.rebuildEach target names index).2.inner.held entity = index.inner.held entity := by
  induction names generalizing index with
  | nil => rfl
  | cons name rest ih =>
      obtain ⟨other, type, rfl, looked⟩ := each name (List.mem_cons_self ..)
      have here := held_rebuild looked other index
      have later := ih fun name inRest => each name (List.mem_cons_of_mem _ inRest)
      unfold Indexer.rebuildEach
      split
      · next e after rebuilt =>
        rw [rebuilt] at here
        exact here
      · next count after rebuilt =>
        rw [rebuilt] at here
        have last := later after
        split
        · next e end_ rest =>
          rw [rest] at last
          exact last.trans here
        · next counts end_ rest =>
          rw [rest] at last
          exact last.trans here

/-- An invisible document stays, whatever is rebuilt. -/
theorem held_rebuildAll (orderly : service.registry.Orderly)
    (unregistered : service.registry.isRegistered entity.typeName = false) :
    service.rebuildAll.2.index.inner.held entity = service.index.inner.held entity := by
  refine held_rebuildEach (fun name member => ?_) service.index
  obtain ⟨type, isType, rfl⟩ := List.mem_map.1 member
  refine ⟨?_, type, rfl, orderly.lookup_name isType⟩
  intro typed
  have stored := orderly.mem_entityTypes.1 isType
  rw [typed, Registry.isRegistered, SortedMap.contains, stored] at unregistered
  cases unregistered

end Rebuilding

/-- Over any registry, and whatever is written: of the entities of no registered type, documents
are held of exactly those that are stored and whose model stands in for a type.  So every document
is visible over every run just if no model stands in. -/
theorem visible_after_writes_iff {catalog : Catalog} {types : List EntityType}
    {registry : Registry} (registered : Registry.ofTypes catalog types = .ok registry)
    (config : Config) (retries : Nat) (permissions : Permissions) :
    ∃ service, Service.assemble registry config (.inline retries) permissions = .ok service ∧
      (∀ writes (entity : EntityRef), registry.isRegistered entity.typeName = false →
        (((service.writeAll writes).index.inner.held entity).isSome = true ↔
          (service.writeAll writes).store.contains entity = true ∧
            registry.standsIn entity.typeName = true)) ∧
      ((∀ writes, (service.writeAll writes).Visible) ↔
        ∀ name, (catalog.model? name).isSome = true → registry.standsIn name = false) := by
  obtain ⟨orderly, rfl⟩ := Registry.orderly_of_ofTypes registered
  obtain ⟨service, assembled⟩ := exists_assemble orderly config (.inline retries) permissions
  have filed := filed_assemble assembled
  refine ⟨service, assembled, fun writes entity unregistered => ?_, ?_, ?_⟩
  · exact (filed.writeAll orderly writes).fits entity unregistered
  · intro visible name known
    rw [← Bool.not_eq_true]
    exact fun stands => filed.not_visible orderly known stands (visible _)
  · exact fun none writes => (filed.writeAll orderly writes).visible none

/-- Books may be asked for as volumes, and volumes would stand in for them; but no model is called so. -/
theorem library_documents_visible :
    Library.volumesRegistry.standsIn Library.volume = true ∧
      ∃ service,
        Service.assemble Library.volumesRegistry {} (.inline 2) .unrestricted = .ok service ∧
          ∀ writes, (service.writeAll writes).Visible := by
  obtain ⟨service, assembled, -, visible⟩ :=
    visible_after_writes_iff Library.volumes_registered {} 2 .unrestricted
  refine ⟨by decide +kernel, service, assembled, visible.2 fun name known => ?_⟩
  have noVolumes : Library.catalog.model? Library.volume = none := by decide +kernel
  have other : name ≠ Library.volume := by
    rintro rfl
    rw [noVolumes] at known
    cases known
  have others : Library.volumesRegistry.others = SortedMap.empty.insert Library.volume Library.book :=
    rfl
  refine Registry.standsIn_eq_false ?_
  rw [others, SortedMap.get?_insert, if_neg other, SortedMap.get?_empty]

end Service

namespace Library

def volumeCatalog : Catalog :=
  (do
    let catalog ← Catalog.empty.defineModel book [("title", .text)]
    catalog.defineModel volume [("title", .text)]).toOption.getD .empty

def volumeRegistry : Registry :=
  (Registry.ofTypes volumeCatalog [volumes]).toOption.getD { catalog := volumeCatalog }

/-- A volume gets a document that nobody asks for, and a rebuild leaves it there. -/
theorem volume_is_invisible :
    ∃ service, Registry.ofTypes volumeCatalog [volumes] = .ok volumeRegistry ∧
      Service.assemble volumeRegistry {} (.inline 2) .unrestricted = .ok service ∧
      let after := service.writeAll [.insert volume [("title", .text "Emma")]]
      ¬ after.Visible ∧ after.rebuildAll.1 = .ok 0 ∧ ¬ after.rebuildAll.2.Visible := by
  refine ⟨_, rfl, rfl, fun visible => ?_, by decide +kernel, fun visible => ?_⟩
  · have shown := visible ⟨volume, 1⟩ (by decide +kernel)
    revert shown
    decide +kernel
  · have shown := visible ⟨volume, 1⟩ (by decide +kernel)
    revert shown
    decide +kernel

end Library
end EntitySearch
