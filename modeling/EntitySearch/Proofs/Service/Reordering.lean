import EntitySearch.Proofs.Index.Recording
import EntitySearch.Proofs.Service.Following

/-!
# Recorded jobs in any order

A service that keeps the jobs of its writes for later, and an index that is given them all when the
writes are over.  The order of the jobs does not matter as long as no link that a job excludes is
there again at the end; otherwise it matters just if the exclusion changes a document.

Main statement: `coherent_in_any_order_iff`.
-/
set_option autoImplicit false
namespace EntitySearch
namespace Service

/-- The invariant of a service that records: its jobs are those of the run. -/
structure Recording (registry : Registry) (service : Service) : Prop where
  serves : service.registry = registry
  watching : Watch.ofRegistry registry = .ok service.watch
  recording : service.dispatch = .recording
  unbroken : service.broken = []
  sound : service.store.Sound registry.catalog
  recorded : Recorded registry service.store service.recorded

variable {registry : Registry} {service : Service}

theorem dispatchJob_recording (recording : service.dispatch = .recording) (seen : Store)
    (job : IndexJob) :
    service.dispatchJob seen job = { service with recorded := service.recorded ++ [job] } := by
  unfold dispatchJob
  split
  · next found => cases recording.symm.trans found
  · rfl
  · next found => cases recording.symm.trans found

theorem enqueueSeeing_recording (recording : service.dispatch = .recording) (seen : Store)
    (job : IndexJob) :
    service.enqueueSeeing seen job =
      { service with
        recorded := service.recorded ++ [job]
        journal := { service.journal with jobs := service.journal.jobs ++ [job] } } := by
  let journaled : Service :=
    { service with journal := { service.journal with jobs := service.journal.jobs ++ [job] } }
  have recordingJournaled : journaled.dispatch = .recording := recording
  exact dispatchJob_recording recordingJournaled seen job

theorem react_recording (recording : service.dispatch = .recording) (seen : Store)
    (reactions : List Reaction) :
    ∃ journal, reactions.foldl (react seen) service =
      { service with
        recorded := service.recorded ++ reactions.filterMap Reaction.job?
        journal } := by
  induction reactions generalizing service with
  | nil =>
      refine ⟨service.journal, ?_⟩
      rw [List.filterMap_nil, List.append_nil]
      rfl
  | cons reaction rest ih =>
      cases reaction with
      | report entry =>
          have reported : (service.report [entry]).dispatch = .recording := recording
          obtain ⟨journal, reacted⟩ := ih reported
          exact ⟨journal, reacted⟩
      | enqueue job =>
          have kept := enqueueSeeing_recording recording seen job
          have recordingNext : (service.enqueueSeeing seen job).dispatch = .recording := by
            rw [kept]
            exact recording
          obtain ⟨journal, reacted⟩ := ih recordingNext
          refine ⟨journal, ?_⟩
          rw [List.foldl_cons, react, reacted, kept]
          simp [Reaction.job?]

theorem follow_recording (recording : service.dispatch = .recording)
    (serves : service.registry = registry) (unbroken : service.broken = [])
    (outcome : Outcome Unit) :
    ∃ journal, service.follow outcome =
      { service with
        store := outcome.after
        recorded := service.recorded ++ service.watch.jobsFor outcome.notice?
        journal } := by
  cases noticed : outcome.notice? with
  | none =>
      refine ⟨service.journal, ?_⟩
      simp [follow, noticed, Watch.jobsFor]
  | some notice =>
      let told : Service :=
        { service with
          store := outcome.after
          journal := { service.journal with events := service.journal.events ++ [notice.event] } }
      have followed : service.follow outcome = told.observe notice.event notice.seen := by
        simp [follow, noticed, told]
      have sees : told.seeing notice.seen = ⟨registry, notice.seen.view⟩ :=
        seeing_eq serves unbroken notice.seen
      have recordingTold : told.dispatch = .recording := recording
      obtain ⟨journal, reacted⟩ := react_recording recordingTold notice.seen
        (service.watch.onChange notice.seen.view notice.event)
      refine ⟨journal, ?_⟩
      rw [followed, observe, sees]
      exact reacted

theorem recording_assemble {config : Config} {permissions : Permissions}
    (assembled : Service.assemble registry config .recording permissions = .ok service) :
    service.Recording registry := by
  obtain ⟨watch, watched, rfl⟩ := assemble_eq_ok assembled
  exact ⟨rfl, watched, rfl, rfl, Store.sound_empty _, recorded_empty registry registry.catalog⟩

section Writes
variable (grounded : registry.Grounded)
include grounded

theorem Recording.write (recording : service.Recording registry) (write : Write) :
    (service.write write.operation).2.Recording registry := by
  unfold Service.write
  cases performed : write.operation service.store with
  | error e => exact recording
  | ok outcome =>
      change (service.follow outcome).Recording registry
      obtain ⟨journal, followed⟩ := follow_recording recording.recording recording.serves
        recording.unbroken outcome
      rw [followed]
      exact ⟨recording.serves, recording.watching, recording.recording, recording.unbroken,
        recording.sound.of_operation grounded.paired grounded.owned performed,
        recording.recorded.of_operation grounded recording.watching recording.sound performed⟩

theorem Recording.writeAll (recording : service.Recording registry) (writes : List Write) :
    (service.writeAll writes).Recording registry := by
  induction writes generalizing service with
  | nil => exact recording
  | cons write rest ih => exact ih (recording.write grounded write)

end Writes

/-- The recorded jobs of any run may be done in any order just if every job that excludes links
builds, at the end, the document as it is; so they may if no excluded link is there at the end. -/
theorem coherent_in_any_order_iff {catalog : Catalog} {names : List String}
    {types : List EntityType} {registry : Registry} (declared : catalog.Declared names)
    (distinctNames : names.Nodup) (registered : Registry.ofTypes catalog types = .ok registry)
    (config : Config) (permissions : Permissions) :
    ∃ service, Service.assemble registry config .recording permissions = .ok service ∧
      ∀ writes : List Write,
        let after := service.writeAll writes
        let anyOrder := ∀ order : List IndexJob, order.Perm after.recorded →
          (after.indexer.applyAll SearchIndex.target order {}).CoherentWith after.indexer
        (anyOrder ↔
          ∀ type ∈ registry.entityTypes, ∀ id junction pairs,
            .index ⟨type.name, id⟩ (some (.links junction pairs)) ∈ after.recorded →
              after.indexer.document type ⟨type.name, id⟩ (some (.links junction pairs)) =
                after.indexer.document type ⟨type.name, id⟩ none) ∧
        ((∀ job ∈ after.recorded, job.Apart after.store) → anyOrder) := by
  obtain ⟨grounded, -⟩ := Registry.grounded_of_ofTypes declared distinctNames registered
  obtain ⟨service, assembled⟩ := exists_assemble grounded.orderly config .recording permissions
  refine ⟨service, assembled, fun writes => ?_⟩
  intro after anyOrder
  have recording := (recording_assemble assembled).writeAll grounded writes
  have sound := recording.sound
  have sees : after.indexer = ⟨registry, after.store.view⟩ :=
    seeing_eq recording.serves recording.unbroken after.store
  have built : ∀ type ∈ registry.entityTypes, ∀ owner : EntityRef, owner.typeName = type.name →
      ∀ exclude, after.indexer.document type owner exclude =
        .ok (after.store.documentOf type owner exclude) := by
    intro type member owner typed exclude
    rw [sees]
    exact Store.build_eq_documentOf grounded.paired grounded.orderly sound.onCatalog member typed
  have orders : anyOrder ↔ _ :=
    (forall_congr' fun order => imp_congr_right fun _ => by
      rw [sees]
      exact coherentWith_iff grounded sound.onCatalog _).trans
        (mirrored_in_any_order_iff grounded sound recording.recorded)
  constructor
  · rw [orders]
    constructor
    · intro excluding type member id junction pairs isJob
      rw [built type member _ rfl, built type member _ rfl]
      exact congrArg Except.ok (excluding type member _ rfl junction pairs isJob)
    · rintro excluding type member ⟨name, id⟩ rfl junction pairs isJob
      have same := excluding type member id junction pairs isJob
      rw [built type member _ rfl, built type member _ rfl] at same
      exact Except.ok.inj same
  · intro apart
    rw [orders]
    intro type member owner typed junction pairs isJob
    exact Store.documentOf_of_idle grounded sound member typed (apart _ isJob)

/-- Links that are not added again may be removed in any order. -/
theorem coherent_backwards_after_unlink :
    ∃ service, Service.assemble Library.registry {} .recording .unrestricted = .ok service ∧
      let after := service.writeAll
        [.insert Library.book [("title", .text "Logic")],
          .insert Library.author [("name", .text "Ada")], .link ⟨Library.book, 1⟩ "authors" [2],
          .unlink ⟨Library.author, 2⟩ "works" [1], .delete ⟨Library.author, 2⟩]
      (after.indexer.applyAll SearchIndex.target after.recorded.reverse {}).CoherentWith
        after.indexer := by
  obtain ⟨service, assembled, coherent⟩ := coherent_in_any_order_iff Library.declared (by decide)
    Library.registered {} .unrestricted
  cases assembled
  exact ⟨_, rfl, (coherent _).2 (by decide +kernel) _ (List.reverse_perm _)⟩

/-- A link that is removed and added again is missing from the document if the job of the removal
comes last. -/
theorem not_coherent_after_relink :
    ∃ service, Service.assemble Library.registry {} .recording .unrestricted = .ok service ∧
      let after := service.writeAll
        [.insert Library.book [("title", .text "Logic")],
          .insert Library.author [("name", .text "Ada")], .link ⟨Library.book, 1⟩ "authors" [2],
          .unlink ⟨Library.book, 1⟩ "authors" [2], .link ⟨Library.book, 1⟩ "authors" [2]]
      ¬ ∀ order : List IndexJob, order.Perm after.recorded →
        (after.indexer.applyAll SearchIndex.target order {}).CoherentWith after.indexer := by
  refine ⟨_, rfl, fun coherent => ?_⟩
  let book : EntityRef := ⟨Library.book, 1⟩
  have stale := coherent
    [.index book none, .index book none, .index book none,
      .index book (some (.links Library.authorship [⟨1, 2⟩]))]
    (by decide +kernel) Library.registry.entityTypes[0] (List.getElem_mem _) 1
  revert stale
  decide +kernel

end Service
end EntitySearch
