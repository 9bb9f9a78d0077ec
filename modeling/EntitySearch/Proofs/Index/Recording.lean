import EntitySearch.Proofs.Index.Coherence

/-!
# Jobs that are done after a run

All jobs of a run are kept, and done when the run is over, in any order.  Every stored entity of a
registered type has a job, since it was created; what was deleted is gone for good, so a job that
drops a document or excludes an entity still does right.  Only links can come back: a job that
excludes a link which is there again builds a document without it, and if that job comes last, the
document is wrong.

Main statement: `mirrored_in_any_order_iff`.
-/
set_option autoImplicit false
namespace EntitySearch

open Store

def Store.Gone (store : Store) (entity : EntityRef) : Prop :=
  entity.id < store.nextId ∧ store.contains entity = false

/-- What holds of the jobs of a run in the store that it led to. -/
structure Recorded (registry : Registry) (store : Store) (jobs : List IndexJob) : Prop where
  created : ∀ type ∈ registry.entityTypes, ∀ owner : EntityRef, owner.typeName = type.name →
    store.contains owner = true → ∃ job ∈ jobs, job.entity = owner
  dropped : ∀ entity, .deindex entity ∈ jobs → store.Gone entity
  excluded : ∀ owner entity, .index owner (some (.instance entity)) ∈ jobs → store.Gone entity

/-- No link that a job excludes is stored. -/
def IndexJob.Apart (store : Store) : IndexJob → Prop
  | .index _ (some (.links junction pairs)) => ∀ link ∈ pairs, link ∉ store.linksOf junction
  | _ => True

instance (store : Store) : DecidablePred (IndexJob.Apart store) := by
  intro job
  unfold IndexJob.Apart
  split <;> infer_instance

theorem Store.Grows.gone {before after : Store} (grows : Grows before after) {entity : EntityRef}
    (gone : before.Gone entity) : after.Gone entity :=
  ⟨Nat.lt_of_lt_of_le gone.1 grows.nextId, grows.stays_gone gone.1 gone.2⟩

section Jobs
variable {registry : Registry} {watch : Watch} {store : Store} (grounded : registry.Grounded)
  (watching : Watch.ofRegistry registry = .ok watch) (sound : store.Sound registry.catalog)
include grounded watching sound

omit grounded watching in
theorem job_of_operation {write : Write} {outcome : Outcome Unit}
    (success : write.operation store = .ok outcome) {job : IndexJob}
    (member : job ∈ watch.jobsFor outcome.notice?) :
    (∃ owner, job = .index owner none) ∨
      (∃ entity, outcome.after.Gone entity ∧
        (job = .deindex entity ∨ ∃ owner, job = .index owner (some (.instance entity)))) ∨
      ∃ owner junction pairs, job = .index owner (some (.links junction pairs)) := by
  cases write with
  | insert type attributes =>
      obtain ⟨created, inserted, rfl⟩ := operation_insert_eq_ok success
      obtain ⟨stored, -, -, -, noticed⟩ := insert_eq_ok inserted
      change job ∈ watch.jobsFor created.notice? at member
      rw [noticed] at member
      exact Or.inl (Watch.job_of_done (by decide) member)
  | update entity attributes =>
      obtain ⟨_, -, _, -, -, noticed⟩ := update_eq_ok success
      rw [noticed] at member
      exact Or.inl (Watch.job_of_done (by decide) member)
  | setForeignKey entity name target =>
      obtain ⟨_, -, -, -, _, -, -, noticed⟩ := setForeignKey_eq_ok success
      rw [noticed] at member
      exact Or.inl (Watch.job_of_done (by decide) member)
  | delete entity =>
      obtain ⟨present, after, noticed⟩ := delete_eq_ok success
      rw [noticed] at member
      have given := sound.counted entity present
      have gone : outcome.after.Gone entity := by
        rw [after]
        exact ⟨given, contains_without_self entity⟩
      refine Or.inr (Or.inl ⟨entity, gone, ?_⟩)
      rcases Watch.job_of_entity member with
        isOwn | ⟨owner, -, isOwner⟩
      · exact Or.inl isOwn
      · exact Or.inr ⟨owner, isOwner⟩
  | link anchor name targets =>
      obtain ⟨_, _, _, -, -, -, -, -, noticed⟩ := link_eq_ok success
      split at noticed
      · rw [noticed] at member
        cases member
      · rw [noticed] at member
        exact Or.inl (Watch.exists_of_mem_jobsOn_link member)
  | unlink anchor name targets =>
      obtain ⟨_, _, _, -, -, ⟨-, -, noticed⟩ | ⟨-, -, noticed⟩⟩ := unlink_eq_ok success
      · rw [noticed] at member
        cases member
      · rw [noticed] at member
        obtain ⟨owner, isJob⟩ := Watch.exists_of_mem_jobsOn_link member
        exact Or.inr (Or.inr ⟨owner, _, _, isJob⟩)

theorem job_of_created {write : Write} {outcome : Outcome Unit}
    (success : write.operation store = .ok outcome) {type : EntityType}
    (isType : type ∈ registry.entityTypes) {owner : EntityRef} (typed : owner.typeName = type.name)
    (present : outcome.after.contains owner = true) (absent : store.contains owner = false) :
    ∃ job ∈ watch.jobsFor outcome.notice?, job.entity = owner := by
  have afterSound := sound.of_operation grounded.paired grounded.owned success
  obtain ⟨name, attributes, rfl, rfl⟩ := insert_of_created success present absent
  obtain ⟨created, inserted, rfl⟩ := operation_insert_eq_ok success
  obtain ⟨stored, -, -, -, noticed⟩ := insert_eq_ok inserted
  by_contra noJob
  have noneIs : ∀ job ∈ watch.jobsFor created.notice?, job.entity ≠ ⟨name, store.nextId⟩ :=
    fun job isJob same => noJob ⟨job, isJob, same⟩
  rw [noticed] at noneIs
  exact (hidden_of_no_job grounded watching afterSound.onCatalog isType typed noneIs).1 rfl

/-- The invariant of a run whose jobs are kept. -/
theorem Recorded.of_operation {jobs : List IndexJob} (recorded : Recorded registry store jobs)
    {write : Write} {outcome : Outcome Unit} (success : write.operation store = .ok outcome) :
    Recorded registry outcome.after (jobs ++ watch.jobsFor outcome.notice?) := by
  have grows := grows_of_operation success
  have shape : ∀ job ∈ watch.jobsFor outcome.notice?, _ :=
    fun job isJob => job_of_operation sound success isJob
  refine ⟨?_, ?_, ?_⟩
  · intro type isType owner typed present
    by_cases old : store.contains owner = true
    · obtain ⟨job, isJob, same⟩ := recorded.created type isType owner typed old
      exact ⟨job, List.mem_append_left _ isJob, same⟩
    · rw [Bool.not_eq_true] at old
      obtain ⟨job, isJob, same⟩ :=
        job_of_created grounded watching sound success isType typed present old
      exact ⟨job, List.mem_append_right _ isJob, same⟩
  · intro entity isJob
    rcases List.mem_append.1 isJob with isOld | isNew
    · exact grows.gone (recorded.dropped entity isOld)
    · rcases shape _ isNew with ⟨_, same⟩ | ⟨_, gone, same | ⟨_, same⟩⟩ | ⟨_, _, _, same⟩
      · cases same
      · cases same
        exact gone
      · cases same
      · cases same
  · intro owner entity isJob
    rcases List.mem_append.1 isJob with isOld | isNew
    · exact grows.gone (recorded.excluded owner entity isOld)
    · rcases shape _ isNew with ⟨_, same⟩ | ⟨_, gone, same | ⟨_, same⟩⟩ | ⟨_, _, _, same⟩
      · cases same
      · cases same
      · cases same
        exact gone
      · cases same

end Jobs

theorem recorded_empty (registry : Registry) (catalog : Catalog) :
    Recorded registry (Store.empty catalog) [] := by
  refine ⟨fun _ _ _ _ present => ?_, fun _ isJob => ?_, fun _ _ isJob => ?_⟩
  · cases present
  · cases isJob
  · cases isJob

/-! ## Doing the jobs -/

def Indexer.applyAll {σ : Type} (indexer : Indexer) (target : IndexTarget σ) (jobs : List IndexJob)
    (index : σ) : σ :=
  jobs.foldl (fun index job => (indexer.apply target job index).2) index

section Apply
variable {registry : Registry} {store : Store}

theorem settles_applyAll {σ : Type} {target : IndexTarget σ} {ready : σ → Prop}
    {held : σ → EntityRef → Option Document} (keeps : target.Keeps ready held)
    (grounded : registry.Grounded) (onCatalog : store.catalog = registry.catalog)
    (jobs : List IndexJob) {index : σ} (isReady : ready index) :
    SettlesAll registry store jobs (held index)
      (held ((Indexer.mk registry store.view).applyAll target jobs index)) := by
  induction jobs generalizing index with
  | nil => exact .nil _
  | cons job rest ih =>
      obtain ⟨result, after, applied, readyAfter, settles⟩ :=
        settles_apply grounded onCatalog keeps job isReady
      refine .cons settles ?_
      rw [Indexer.applyAll, List.foldl_cons, applied]
      exact ih readyAfter

end Apply

section AnyOrder
variable {registry : Registry} {store : Store} (grounded : registry.Grounded)
  (sound : store.Sound registry.catalog) {jobs : List IndexJob}
  (recorded : Recorded registry store jobs)
include grounded sound recorded

theorem result_of_recorded
    (excluding : ∀ type ∈ registry.entityTypes, ∀ owner : EntityRef, owner.typeName = type.name →
      ∀ junction pairs, .index owner (some (.links junction pairs)) ∈ jobs →
        store.documentOf type owner (some (.links junction pairs)) =
          store.documentOf type owner none)
    {job : IndexJob} (isJob : job ∈ jobs) {type : EntityType}
    (member : type ∈ registry.entityTypes) (typed : job.entity.typeName = type.name) :
    job.result store type = store.documentOf type job.entity none := by
  cases job with
  | deindex entity =>
      obtain ⟨-, absent⟩ := recorded.dropped entity isJob
      exact (documentOf_eq_none absent).symm
  | index owner exclude =>
      cases exclude with
      | none => rfl
      | some exclusion =>
          cases exclusion with
          | «instance» entity =>
              obtain ⟨-, absent⟩ := recorded.excluded owner entity isJob
              exact documentOf_of_idle grounded sound member typed absent
          | links junction pairs => exact excluding type member owner typed junction pairs isJob

/-- In whatever order the jobs are done, the documents are mirrored, just if every job that excludes
links builds the document as it is. -/
theorem mirrored_in_any_order_iff :
    (∀ order : List IndexJob, order.Perm jobs → registry.Mirrors
        ((Indexer.mk registry store.view).applyAll SearchIndex.target order {}).held store) ↔
      ∀ type ∈ registry.entityTypes, ∀ owner : EntityRef, owner.typeName = type.name →
        ∀ junction pairs, .index owner (some (.links junction pairs)) ∈ jobs →
          store.documentOf type owner (some (.links junction pairs)) =
            store.documentOf type owner none := by
  have settled : ∀ order, SettlesAll registry store order (SearchIndex.held {})
      ((Indexer.mk registry store.view).applyAll SearchIndex.target order {}).held :=
    fun order => settles_applyAll SearchIndex.target_keeps grounded sound.onCatalog order rfl
  constructor
  · intro mirrors type member owner typed junction pairs isJob
    -- In the order that leaves the job for the end, the job decides.
    let job : IndexJob := .index owner (some (.links junction pairs))
    have isOrder : (jobs.erase job ++ [job]).Perm jobs :=
      (List.perm_append_singleton ..).trans (List.perm_cons_erase isJob).symm
    have last := (settled (jobs.erase job ++ [job])).held_last member typed
    exact last.symm.trans (mirrors _ isOrder type member owner typed)
  · intro excluding order isOrder type member owner typed
    refine (settled order).held member typed ?_ ?_
    · rintro job inOrder rfl
      exact result_of_recorded grounded sound recorded excluding (isOrder.mem_iff.1 inOrder) member
        typed
    · intro noJob
      have absent : store.contains owner = false := by
        rw [← Bool.not_eq_true]
        intro present
        obtain ⟨job, isJob, same⟩ := recorded.created type member owner typed present
        exact noJob job (isOrder.mem_iff.2 isJob) same
      exact (documentOf_eq_none absent).symm

end AnyOrder
end EntitySearch
