import EntitySearch.Proofs.Index.Exclusions
import EntitySearch.Proofs.Index.Jobs

/-!
# Jobs keep track of documents

After a write, every entity whose document the write may have changed has a job, and whatever store
a job reads, the one that observers see or the one after the write, it leaves the document that the
entity then has.  The one exception are foreign keys whose list of holders is a step of a field:
where a key is taken away from an entity, nothing leads back to the owners that came through it.

Main statements: `tracked_of_operation` and, for the single kinds of writes, `tracked_insert`,
`tracked_update`, `tracked_setForeignKey`, `tracked_delete`, `tracked_link`, `tracked_unlink`.
-/
set_option autoImplicit false
namespace EntitySearch

open Catalog (Hop)
open Store

/-- The steps that fields take: the model that a step leaves, and its relation. -/
def Registry.crossed (registry : Registry) : List (TypeName × String) :=
  registry.entityTypes.flatMap fun type => type.fields.flatMap fun field =>
    (registry.catalog.stepsAlong type.name field.path.relations).map fun hop =>
      (hop.source, hop.relation.name)

/-- A write that sets no foreign key whose list of holders is a step of a field. -/
def Write.Spares (registry : Registry) : Write → Prop
  | .setForeignKey entity name _ =>
      ∀ relation ∈ registry.catalog.relation? entity.typeName name,
        relation.kind = .foreignKey → (relation.target, relation.reverse) ∉ registry.crossed
  | _ => True

instance (registry : Registry) : DecidablePred (Write.Spares registry) := by
  intro write
  cases write <;> unfold Write.Spares <;> infer_instance

def Watch.jobsFor (watch : Watch) : Option Notice → List IndexJob
  | none => []
  | some notice => watch.jobsOn notice.seen.view notice.event

/-- The jobs of a write are for all the documents that it may have changed, and they do it right. -/
structure Tracked (registry : Registry) (watch : Watch) (before : Store) (outcome : Outcome Unit) :
    Prop where
  quiet : ∀ type ∈ registry.entityTypes, ∀ owner : EntityRef, owner.typeName = type.name →
    (∀ job ∈ watch.jobsFor outcome.notice?, job.entity ≠ owner) →
      ∀ exclude, outcome.after.documentOf type owner exclude = before.documentOf type owner exclude
  prompt : ∀ type ∈ registry.entityTypes, ∀ notice ∈ outcome.notice?,
    ∀ job ∈ watch.jobsOn notice.seen.view notice.event, job.entity.typeName = type.name →
      job.result notice.seen type = outcome.after.documentOf type job.entity none
  lasting : ∀ type ∈ registry.entityTypes,
    ∀ job ∈ watch.jobsFor outcome.notice?, job.entity.typeName = type.name →
      job.result outcome.after type = outcome.after.documentOf type job.entity none

section Sufficient
variable {registry : Registry} {watch : Watch} {before : Store} {outcome : Outcome Unit}

theorem Tracked.of_unnoticed (unnoticed : outcome.notice? = none)
    (same : ∀ type ∈ registry.entityTypes, ∀ owner : EntityRef, owner.typeName = type.name →
      ∀ exclude,
        outcome.after.documentOf type owner exclude = before.documentOf type owner exclude) :
    Tracked registry watch before outcome := by
  refine ⟨fun type member owner typed _ => same type member owner typed, ?_, ?_⟩
  · intro type member notice isNotice
    rw [unnoticed] at isNotice
    cases isNotice
  · intro type member job isJob
    rw [unnoticed] at isJob
    cases isJob

theorem Tracked.of_rebuilds {event : ChangeEvent}
    (noticed : outcome.notice? = some ⟨event, outcome.after⟩)
    (rebuilds : ∀ job ∈ watch.jobsOn outcome.after.view event, ∃ owner, job = .index owner none)
    (quiet : ∀ type ∈ registry.entityTypes, ∀ owner : EntityRef, owner.typeName = type.name →
      (∀ job ∈ watch.jobsOn outcome.after.view event, job.entity ≠ owner) → ∀ exclude,
        outcome.after.documentOf type owner exclude = before.documentOf type owner exclude) :
    Tracked registry watch before outcome := by
  refine ⟨?_, ?_, ?_⟩
  · intro type member owner typed noJob
    rw [noticed] at noJob
    exact quiet type member owner typed noJob
  · intro type member notice isNotice job isJob typed
    rw [noticed] at isNotice
    cases isNotice
    obtain ⟨owner, rfl⟩ := rebuilds job isJob
    rfl
  · intro type member job isJob typed
    rw [noticed] at isJob
    obtain ⟨owner, rfl⟩ := rebuilds job isJob
    rfl

end Sufficient

theorem Registry.mem_crossed {registry : Registry} {type : EntityType} {first : List Hop}
    {hop : Hop} (member : type ∈ registry.entityTypes)
    (takes : type.Takes registry.catalog first hop) :
    (hop.source, hop.relation.name) ∈ registry.crossed := by
  obtain ⟨field, isField, rest, walked⟩ := takes
  refine List.mem_flatMap.2 ⟨type, member, List.mem_flatMap.2 ⟨field, isField, ?_⟩⟩
  rw [Catalog.stepsAlong_eq walked]
  exact List.mem_map.2 ⟨hop, by simp, rfl⟩

namespace Registry
variable {registry : Registry} {store : Store} {type : EntityType} {owner entity : EntityRef}
  {exclude : Option Exclusion}

theorem shows_of_leads (member : type ∈ registry.entityTypes) (typed : owner.typeName = type.name)
    {field : Field} (isField : field ∈ type.fields) {first rest : List Hop}
    (walked : registry.catalog.hops type.name field.path.relations = .ok (first ++ rest))
    (other : owner ≠ entity) (leads : store.Leads exclude first owner entity) :
    registry.Shows store owner entity := by
  rcases List.eq_nil_or_concat first with rfl | ⟨init, hop, rfl⟩
  · exact absurd leads other
  · rw [List.concat_eq_append] at walked leads
    refine ⟨type, member, typed, init, hop, ⟨field, isField, rest, ?_⟩,
      Store.leads_none_of_leads leads⟩
    rw [walked, List.append_assoc]
    rfl

theorem ne_of_hidden (member : type ∈ registry.entityTypes) (typed : owner.typeName = type.name)
    (other : owner ≠ entity) (hidden : ¬ registry.Shows store owner entity) {first : List Hop}
    {hop : Hop} (takes : type.Takes registry.catalog first hop) {visited : EntityRef}
    (leads : store.Leads exclude first owner visited) : visited ≠ entity := by
  rintro rfl
  obtain ⟨field, isField, rest, walked⟩ := takes
  exact hidden (shows_of_leads member typed isField walked other leads)

theorem end_ne_of_hidden (grounded : registry.Grounded) (member : type ∈ registry.entityTypes)
    (typed : owner.typeName = type.name) (other : owner ≠ entity)
    (hidden : ¬ registry.Shows store owner entity) {field : Field} (isField : field ∈ type.fields)
    {visited : EntityRef} (leads : store.Leads exclude
      (registry.catalog.stepsAlong type.name field.path.relations) owner visited) :
    visited ≠ entity := by
  rintro rfl
  obtain ⟨steps, target, walked, -, -⟩ :=
    grounded.orderly.connects grounded.paired member isField
  rw [Catalog.stepsAlong_eq walked] at leads
  have whole : registry.catalog.hops type.name field.path.relations = .ok (steps ++ []) := by
    rw [walked, List.append_nil]
  exact hidden (shows_of_leads member typed isField whole other leads)

end Registry

section Tracking
variable {registry : Registry} {watch : Watch} {store : Store} (grounded : registry.Grounded)
  (watching : Watch.ofRegistry registry = .ok watch)
include grounded watching

/-! ## Changes of entities -/

/-- An entity of a registered type without a job is not the changed one and does not show it. -/
theorem hidden_of_no_job {seen : Store} (onCatalog : seen.catalog = registry.catalog)
    {type : EntityType} (member : type ∈ registry.entityTypes) {owner entity : EntityRef}
    (typed : owner.typeName = type.name) {change : EntityChange}
    (noJob : ∀ job ∈ watch.jobsOn seen.view (.entity entity change), job.entity ≠ owner) :
    owner ≠ entity ∧ ¬ registry.Shows seen owner entity := by
  have jobs : ∀ job, job ∈ watch.jobsOn seen.view (.entity entity change) ↔ _ :=
    fun job => Watch.mem_jobsOn_entity grounded.paired grounded.orderly watching onCatalog
  have other : owner ≠ entity := by
    rintro rfl
    have known := grounded.orderly.isSome_lookup member typed
    refine noJob (Watch.ownJob owner change) ((jobs _).2 (Or.inl ⟨known, rfl⟩)) ?_
    cases change <;> rfl
  refine ⟨other, fun shows => ?_⟩
  refine noJob (Watch.ownerJob entity change owner) ((jobs _).2 (Or.inr ⟨owner, other, shows, rfl⟩))
    ?_
  cases change <;> rfl

theorem tracked_of_done {outcome : Outcome Unit} {entity : EntityRef} {change : EntityChange}
    (onCatalog : store.catalog = registry.catalog) (done : change ≠ .deleted)
    (noticed : outcome.notice? = some ⟨.entity entity change, outcome.after⟩)
    (agree : Store.AgreeBut entity store outcome.after)
    (joins : ∀ type ∈ registry.entityTypes, ∀ first hop, type.Takes registry.catalog first hop →
      ∀ visited found, visited ≠ entity → visited.typeName = hop.source →
        registry.catalog.relation? visited.typeName hop.relation.name = some hop.relation →
          found.typeName = hop.relation.target →
            (outcome.after.Joins hop.relation visited found ↔
              store.Joins hop.relation visited found)) :
    Tracked registry watch store outcome := by
  have afterOnCatalog : outcome.after.catalog = registry.catalog := agree.catalog.trans onCatalog
  refine .of_rebuilds noticed
    (fun job isJob => Watch.job_of_done done isJob) ?_
  intro type member owner typed noJob exclude
  obtain ⟨other, hidden⟩ := hidden_of_no_job grounded watching afterOnCatalog member typed noJob
  refine (documentOf_eq_of_joins grounded afterOnCatalog onCatalog member typed
    (agree.contains owner other).symm ?_ ?_).symm
  · intro first hop takes visited leads typedVisited stored found typedFound
    have differs := Registry.ne_of_hidden member typed other hidden takes leads
    rw [joins type member first hop takes visited found differs typedVisited stored typedFound]
  · intro field isField visited leads attr
    have differs := Registry.end_ne_of_hidden grounded member typed other hidden isField leads
    exact (agree.attrs visited differs attr).symm

theorem tracked_insert (sound : store.Sound registry.catalog) {type : TypeName}
    {attributes : List (String × Value)} {outcome : Outcome EntityRef}
    (success : store.insert type attributes = .ok outcome) :
    Tracked registry watch store outcome.forget := by
  obtain ⟨stored, -, -, -, noticed⟩ := insert_eq_ok success
  refine tracked_of_done grounded watching sound.onCatalog (by decide) noticed
    (agreeBut_insert success) ?_
  intro _ _ _ hop _ visited found _ _ _ _
  exact joins_insert success (sound.counted.fresh type) hop.relation visited found

theorem tracked_update (onCatalog : store.catalog = registry.catalog) {entity : EntityRef}
    {attributes : List (String × Value)} {outcome : Outcome Unit}
    (success : store.update entity attributes = .ok outcome) :
    Tracked registry watch store outcome := by
  obtain ⟨record, -, stored, -, -, noticed⟩ := update_eq_ok success
  refine tracked_of_done grounded watching onCatalog (by decide) noticed (agreeBut_update success)
    ?_
  intro _ _ _ hop _ visited found _ _ _ _
  exact joins_update success hop.relation visited found

/-- A foreign key that is set changes what it joins its holder with, and nothing else. -/
theorem tracked_setForeignKey (onCatalog : store.catalog = registry.catalog) {entity : EntityRef}
    {name : String} {target : Option Nat} {outcome : Outcome Unit}
    (spares : (Write.setForeignKey entity name target).Spares registry)
    (success : store.setForeignKey entity name target = .ok outcome) :
    Tracked registry watch store outcome := by
  have keyOf := keyOf_setForeignKey success
  have links := links_setForeignKey success
  have agree := agreeBut_setForeignKey success
  obtain ⟨-, -, -, -, -, -, -, noticed⟩ := setForeignKey_eq_ok success
  refine tracked_of_done grounded watching onCatalog (by decide) noticed agree ?_
  intro type member first hop takes visited found differs typedVisited stored typedFound
  unfold Store.Joins
  cases kind : hop.relation.kind with
  | foreignKey =>
      simp only [keyOf, differs, false_and, if_false]
  | reverseForeignKey field =>
      -- A step back along the key itself is the one that is spared.
      have apart : ¬ (found = entity ∧ field = name) := by
        rintro ⟨rfl, rfl⟩
        obtain ⟨-, kindOk, back⟩ := grounded.paired _ _ _ stored
        rw [← typedFound, ← kindOk field kind] at back
        refine spares _ back ?_ ?_
        · rw [Relation.dual, kind]
          rfl
        · exact typedVisited ▸ Registry.mem_crossed member takes
      simp only [keyOf, if_neg apart]
  | manyToMany junction side =>
      unfold Store.linksOf
      rw [links]

omit watching in
theorem documentOf_without_of_hidden (onCatalog : store.catalog = registry.catalog)
    {type : EntityType} (member : type ∈ registry.entityTypes) {owner entity : EntityRef}
    (typed : owner.typeName = type.name) (other : owner ≠ entity)
    (hidden : ¬ registry.Shows store owner entity) (exclude : Option Exclusion) :
    (store.without entity).documentOf type owner exclude =
      store.documentOf type owner exclude := by
  have agree : AgreeBut entity store (store.without entity) := agreeBut_without entity
  refine documentOf_eq_of_joins grounded onCatalog (agree.catalog.trans onCatalog) member typed
    (agree.contains owner other) ?_ ?_
  · intro first hop takes visited leads typedVisited stored found typedFound
    -- No step of the document starts at the deleted entity or ends there.
    have differs := Registry.ne_of_hidden member typed other hidden takes leads
    have foundDiffers : store.Joins hop.relation visited found →
        Document.passesOver exclude hop.relation visited found = false → found ≠ entity := by
      rintro joined passes rfl
      have step : found ∈ store.passable exclude hop.relation visited :=
        mem_passable_iff.2 ⟨typedFound, joined, passes⟩
      exact hidden ⟨type, member, typed, first, hop, takes,
        leads_none_of_leads (leads_snoc.2 ⟨visited, leads, step⟩)⟩
    have paired := grounded.paired
    have owned := grounded.owned
    rw [← onCatalog] at stored paired owned
    rw [joins_without paired owned stored typedFound]
    constructor
    · rintro ⟨⟨joined, -, -⟩, passes⟩
      exact ⟨joined, passes⟩
    · rintro ⟨joined, passes⟩
      exact ⟨⟨joined, differs, foundDiffers joined passes⟩, passes⟩
  · intro field isField visited leads attr
    exact agree.attrs visited
      (Registry.end_ne_of_hidden grounded member typed other hidden isField leads) attr

/-- Nothing leads to a deleted entity any more, and what a job sees of it is excluded. -/
theorem tracked_delete (sound : store.Sound registry.catalog) {entity : EntityRef}
    {outcome : Outcome Unit} (success : store.delete entity = .ok outcome) :
    Tracked registry watch store outcome := by
  have onCatalog := sound.onCatalog
  have performed : (Write.delete entity).operation store = .ok outcome := success
  have afterSound := sound.of_operation grounded.paired grounded.owned performed
  obtain ⟨-, after, noticed⟩ := delete_eq_ok success
  rw [after] at afterSound
  refine ⟨?_, ?_, ?_⟩
  · intro type member owner typed noJob exclude
    rw [noticed] at noJob
    obtain ⟨other, hidden⟩ := hidden_of_no_job grounded watching onCatalog member typed noJob
    rw [after]
    exact documentOf_without_of_hidden grounded onCatalog member typed other hidden exclude
  · intro type member notice isNotice job isJob typed
    rw [noticed] at isNotice
    cases isNotice
    rw [after]
    rcases Watch.job_of_entity isJob with rfl | ⟨owner, other, rfl⟩
    · exact (documentOf_eq_none (contains_without_self entity)).symm
    · exact documentOf_before_without grounded onCatalog member typed other
  · intro type member job isJob typed
    rw [noticed] at isJob
    rw [after]
    rcases Watch.job_of_entity isJob with rfl | ⟨owner, other, rfl⟩
    · exact (documentOf_eq_none (contains_without_self entity)).symm
    · exact documentOf_of_idle grounded afterSound member typed (contains_without_self entity)

/-! ## Changes of links -/

omit watching in
theorem end_of_link {anchor visited found : EntityRef} {relation crossing : Relation}
    {junction : String} {side crossingSide : Side} {id : Nat}
    (stored : registry.catalog.relation? anchor.typeName relation.name = some relation)
    (through : relation.kind = .manyToMany junction side)
    (storedCrossing : registry.catalog.relation? visited.typeName crossing.name = some crossing)
    (throughCrossing : crossing.kind = .manyToMany junction crossingSide)
    (same : Link.ofSide crossingSide visited.id found.id = Link.ofSide side anchor.id id) :
    (crossingSide = side ∧ visited = anchor) ∨
      (crossingSide = side.other ∧ visited = ⟨relation.target, id⟩) := by
  have entry := grounded.owned _ _ _ _ _ stored through
  have sameEntry := grounded.owned _ _ _ _ _ storedCrossing throughCrossing
  rw [entry, Option.some.injEq] at sameEntry
  cases side with
  | left =>
      cases crossingSide with
      | left =>
          refine Or.inl ⟨rfl, EntityRef.ext ?_ ?_⟩
          · exact (congrArg Junction.left sameEntry).symm
          · exact congrArg Link.left same
      | right =>
          refine Or.inr ⟨rfl, EntityRef.ext ?_ ?_⟩
          · exact (congrArg Junction.right sameEntry).symm
          · exact congrArg Link.right same
  | right =>
      cases crossingSide with
      | left =>
          refine Or.inr ⟨rfl, EntityRef.ext ?_ ?_⟩
          · exact (congrArg Junction.left sameEntry).symm
          · exact congrArg Link.left same
      | right =>
          refine Or.inl ⟨rfl, EntityRef.ext ?_ ?_⟩
          · exact (congrArg Junction.right sameEntry).symm
          · exact congrArg Link.right same

/-- An entity of a registered type without a job has no steps that cross one of the links. -/
theorem apart_of_no_job {seen : Store} (onCatalog : seen.catalog = registry.catalog)
    {anchor : EntityRef} {relation : Relation} {junction : String} {side : Side} {ids : List Nat}
    (stored : registry.catalog.relation? anchor.typeName relation.name = some relation)
    (through : relation.kind = .manyToMany junction side) {type : EntityType}
    (member : type ∈ registry.entityTypes) {owner : EntityRef}
    (typed : owner.typeName = type.name) {change : LinkChange}
    (noJob : ∀ job ∈ watch.jobsOn seen.view (.link junction change side anchor
      (ids.map (EntityRef.mk relation.target))), job.entity ≠ owner)
    {exclude : Option Exclusion} {first : List Hop} {hop : Hop}
    (takes : type.Takes registry.catalog first hop) {visited found : EntityRef}
    (leads : seen.Leads exclude first owner visited)
    (storedHop : registry.catalog.relation? visited.typeName hop.relation.name = some hop.relation)
    {hopSide : Side} (throughHop : hop.relation.kind = .manyToMany junction hopSide) {id : Nat}
    (changed : id ∈ ids) :
    Link.ofSide hopSide visited.id found.id ≠ Link.ofSide side anchor.id id := by
  intro same
  have isEnd := end_of_link grounded stored through storedHop throughHop same
  refine noJob _ (Watch.mem_jobsOn_link grounded.paired grounded.orderly watching onCatalog member
    takes throughHop typed (leads_none_of_leads leads) ?_ change) rfl
  refine isEnd.imp_right fun found => ⟨found.1, ?_⟩
  rw [found.2]
  exact List.mem_map_of_mem changed

omit watching in
theorem documentOf_of_links {other : Store} (onCatalog : store.catalog = registry.catalog)
    (catalog : other.catalog = store.catalog) (records : other.records = store.records)
    {type : EntityType} (member : type ∈ registry.entityTypes) {owner : EntityRef}
    (typed : owner.typeName = type.name) {exclude : Option Exclusion}
    (links : ∀ first hop, type.Takes registry.catalog first hop → ∀ visited,
      store.Leads exclude first owner visited →
        registry.catalog.relation? visited.typeName hop.relation.name = some hop.relation →
          ∀ junction side, hop.relation.kind = .manyToMany junction side → ∀ found : EntityRef,
            (Link.ofSide side visited.id found.id ∈ other.linksOf junction ↔
              Link.ofSide side visited.id found.id ∈ store.linksOf junction)) :
    other.documentOf type owner exclude = store.documentOf type owner exclude := by
  refine documentOf_eq_of_joins grounded onCatalog (catalog.trans onCatalog) member typed ?_ ?_ ?_
  · rw [contains, contains, records]
  · intro first hop takes visited leads _ storedHop found typedFound
    refine and_congr_left' ?_
    unfold Joins keyOf
    rw [records]
    cases throughHop : hop.relation.kind with
    | foreignKey => exact Iff.rfl
    | reverseForeignKey field => exact Iff.rfl
    | manyToMany junction side =>
        exact links first hop takes visited leads storedHop junction side throughHop found
  · intro field isField visited leads attr
    rw [attr?, attr?, records]

theorem tracked_link (onCatalog : store.catalog = registry.catalog) {anchor : EntityRef}
    {name : String} {targets : List Nat} {outcome : Outcome Unit}
    (success : store.link anchor name targets = .ok outcome) :
    Tracked registry watch store outcome := by
  obtain ⟨relation, junction, side, stored, through, -, -, after, noticed⟩ := link_eq_ok success
  rw [onCatalog] at stored
  obtain rfl := (grounded.paired _ _ _ stored).1
  have catalog : outcome.after.catalog = store.catalog := by rw [after]
  have records : store.records = outcome.after.records := by rw [after]
  have afterOnCatalog := catalog.trans onCatalog
  have links : ∀ through link, link ∈ outcome.after.linksOf through ↔
      link ∈ store.linksOf through ∨ (through = junction ∧
        ∃ id ∈ store.unlinkedOf junction side anchor.id targets,
          link = Link.ofSide side anchor.id id) := by
    intro through link
    rw [after]
    exact mem_linksOf_link through link
  by_cases empty : store.unlinkedOf junction side anchor.id targets = []
  · rw [if_pos empty] at noticed
    refine .of_unnoticed noticed fun type member owner typed exclude => ?_
    refine (documentOf_of_links grounded afterOnCatalog catalog.symm records member typed ?_).symm
    intro _ hop _ visited _ _ crossed hopSide _ found
    rw [links, empty]
    simp
  · rw [if_neg empty] at noticed
    refine .of_rebuilds noticed (fun job isJob => Watch.exists_of_mem_jobsOn_link isJob) ?_
    intro type member owner typed noJob exclude
    refine (documentOf_of_links grounded afterOnCatalog catalog.symm records member typed ?_).symm
    intro first hop takes visited leads storedHop crossed hopSide throughHop found
    rw [links]
    refine (or_iff_left ?_).symm
    rintro ⟨rfl, id, added, same⟩
    exact apart_of_no_job grounded watching afterOnCatalog stored through member typed noJob takes
      leads storedHop throughHop added same

omit grounded watching in
theorem mem_pairs {anchor : EntityRef} {side : Side} {target : TypeName} {ids : List Nat}
    {link : Link} :
    link ∈ (ids.map (EntityRef.mk target)).map (fun other => Link.ofSide side anchor.id other.id) ↔
      ∃ id ∈ ids, link = Link.ofSide side anchor.id id := by
  simp [eq_comm]

theorem tracked_unlink (sound : store.Sound registry.catalog) {anchor : EntityRef} {name : String}
    {targets : List Nat} {outcome : Outcome Unit}
    (success : store.unlink anchor name targets = .ok outcome) :
    Tracked registry watch store outcome := by
  have onCatalog := sound.onCatalog
  have performed : (Write.unlink anchor name targets).operation store = .ok outcome := success
  have afterSound := sound.of_operation grounded.paired grounded.owned performed
  obtain ⟨relation, junction, side, stored, through, ⟨-, after, noticed⟩ | ⟨-, after, noticed⟩⟩ :=
    unlink_eq_ok success
  · refine .of_unnoticed noticed fun type member owner typed exclude => ?_
    rw [after]
  · rw [onCatalog] at stored
    obtain rfl := (grounded.paired _ _ _ stored).1
    have catalog : outcome.after.catalog = store.catalog := by rw [after]
    have records : outcome.after.records = store.records := by rw [after]
    have links : ∀ through link, link ∈ outcome.after.linksOf through ↔
        link ∈ store.linksOf through ∧ ¬ (through = junction ∧
          ∃ id ∈ store.linkedOf junction side anchor.id targets,
            link = Link.ofSide side anchor.id id) := by
      intro through link
      rw [after]
      exact mem_linksOf_unlink through link
    refine ⟨?_, ?_, ?_⟩
    · intro type member owner typed noJob exclude
      rw [noticed] at noJob
      refine documentOf_of_links grounded onCatalog catalog records member typed ?_
      intro first hop takes visited leads storedHop crossed hopSide throughHop found
      rw [links]
      refine and_iff_left ?_
      rintro ⟨rfl, id, removed, same⟩
      exact apart_of_no_job grounded watching onCatalog stored through member typed noJob takes
        leads storedHop throughHop removed same
    · intro type member notice isNotice job isJob typed
      rw [noticed] at isNotice
      cases isNotice
      obtain ⟨owner, rfl⟩ := Watch.exists_of_mem_jobsOn_link isJob
      -- Observers still see the links, and the job looks past them.
      refine documentOf_before_unlink grounded onCatalog member typed catalog records ?_
      intro through link
      rw [links, mem_pairs]
    · intro type member job isJob typed
      rw [noticed] at isJob
      obtain ⟨owner, rfl⟩ := Watch.exists_of_mem_jobsOn_link isJob
      -- Here the links are gone, so there is nothing to look past.
      refine documentOf_of_idle grounded afterSound member typed ?_
      intro link inPairs isLink
      exact ((links junction link).1 isLink).2 ⟨rfl, mem_pairs.1 inPairs⟩

/-! ## All writes -/

/-- Jobs keep track of every write that sets no foreign key whose holders a field steps through. -/
theorem tracked_of_operation (sound : store.Sound registry.catalog) {write : Write}
    (spares : write.Spares registry) {outcome : Outcome Unit}
    (success : write.operation store = .ok outcome) : Tracked registry watch store outcome := by
  cases write with
  | insert type attributes =>
      obtain ⟨created, inserted, rfl⟩ := operation_insert_eq_ok success
      exact tracked_insert grounded watching sound inserted
  | update entity attributes => exact tracked_update grounded watching sound.onCatalog success
  | setForeignKey entity name target =>
      exact tracked_setForeignKey grounded watching sound.onCatalog spares success
  | delete entity => exact tracked_delete grounded watching sound success
  | link entity name targets => exact tracked_link grounded watching sound.onCatalog success
  | unlink entity name targets => exact tracked_unlink grounded watching sound success

end Tracking
end EntitySearch
