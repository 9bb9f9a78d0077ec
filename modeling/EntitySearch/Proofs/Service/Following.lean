import EntitySearch.Proofs.Index.Coherence
import EntitySearch.Service.Basic

/-!
# A service that follows its store

A service that does jobs on the spot, over an index that is online and not made to fail, stays
coherent with its store over every run of writes, whether they succeed or fail, as long as none sets
a foreign key whose list of holders is a step of a registered field.

Main statements: `coherent_of_writes`, and for a single write `Following.write`.
-/
set_option autoImplicit false
namespace EntitySearch
namespace Service

def Coherent (service : Service) : Prop :=
  service.index.inner.CoherentWith service.indexer

def writeAll (service : Service) (writes : List Write) : Service :=
  writes.foldl (fun service write => (service.write write.operation).2) service

/-- The service does jobs on the spot and its index takes them. -/
structure Prompt (registry : Registry) (service : Service) : Prop where
  serves : service.registry = registry
  watching : Watch.ofRegistry registry = .ok service.watch
  inline : ∃ retries, service.dispatch = .inline retries
  unbroken : service.broken = []
  ready : service.index.failing = 0 ∧ service.index.inner.online = true

/-- The invariant of the writes: the service is prompt and its index mirrors the store. -/
structure Following (registry : Registry) (service : Service) : Prop where
  prompt : service.Prompt registry
  sound : service.store.Sound registry.catalog
  mirrors : registry.Mirrors service.index.inner.held service.store

variable {registry : Registry} {service : Service}

theorem exists_assemble (orderly : registry.Orderly) (config : Config) (dispatch : Dispatch)
    (permissions : Permissions) :
    ∃ service, Service.assemble registry config dispatch permissions = .ok service := by
  obtain ⟨watch, watched⟩ := Watch.exists_ofRegistry orderly
  simp [assemble, watched, Except.map]

theorem assemble_eq_ok {config : Config} {dispatch : Dispatch} {permissions : Permissions}
    (assembled : Service.assemble registry config dispatch permissions = .ok service) :
    ∃ watch, Watch.ofRegistry registry = .ok watch ∧
      service = { registry, watch, config, dispatch, permissions
                  store := .empty registry.catalog
                  index := { inner := .ofConfig config } } := by
  obtain ⟨watch, watched, rfl⟩ := map_eq_ok assembled
  exact ⟨watch, watched, rfl⟩

theorem seeing_eq (serves : service.registry = registry) (unbroken : service.broken = [])
    (seen : Store) : service.seeing seen = ⟨registry, seen.view⟩ := by
  rw [seeing, unbroken, StoreView.breaking_nil, serves]

theorem Prompt.seeing (prompt : service.Prompt registry) (seen : Store) :
    service.seeing seen = ⟨registry, seen.view⟩ :=
  seeing_eq prompt.serves prompt.unbroken seen

theorem target_keeps : target.Keeps
    (fun index => index.failing = 0 ∧ index.inner.online = true) (fun index => index.inner.held) :=
  SearchIndex.target_keeps.faulty

/-! ## Reactions -/

theorem dispatchJob_inline {retries : Nat} (inline : service.dispatch = .inline retries)
    (seen : Store) (job : IndexJob) :
    service.dispatchJob seen job =
      { service with
        index := (runWithRetries ((service.seeing seen).apply target) retries job
          service.index).2 }.report
        (runWithRetries ((service.seeing seen).apply target) retries job service.index).1.log := by
  unfold dispatchJob
  split
  · next found =>
    rw [inline] at found
    cases found
    rfl
  · next found =>
    rw [inline] at found
    cases found
  · next found =>
    rw [inline] at found
    cases found

theorem store_react (seen : Store) (reaction : Reaction) :
    (react seen service reaction).store = service.store := by
  cases reaction with
  | report entry => rfl
  | enqueue job =>
      unfold react enqueueSeeing dispatchJob
      dsimp only
      split <;> rfl

theorem store_follow {α : Type} (service : Service) (outcome : Outcome α) :
    (service.follow outcome).store = outcome.after := by
  have kept : ∀ (reactions : List Reaction) (seen : Store) (service : Service),
      (reactions.foldl (react seen) service).store = service.store := by
    intro reactions seen
    induction reactions with
    | nil => exact fun service => rfl
    | cons reaction rest ih => exact fun service => (ih _).trans (store_react seen reaction)
  unfold follow
  cases outcome.notice? with
  | none => rfl
  | some notice => exact kept _ _ _

theorem prompt_enqueueSeeing (prompt : service.Prompt registry) (seen : Store) (job : IndexJob) :
    (service.enqueueSeeing seen job).Prompt registry ∧
      (service.enqueueSeeing seen job).store = service.store ∧
      (service.enqueueSeeing seen job).index.inner.held =
        job.leaves ⟨registry, seen.view⟩ service.index.inner.held := by
  obtain ⟨retries, inline⟩ := prompt.inline
  obtain ⟨trial, after, tried, readyAfter, left⟩ :=
    runWithRetries_leaves target_keeps ⟨registry, seen.view⟩ retries job prompt.ready
  rw [← prompt.seeing seen] at tried
  have enqueued : service.enqueueSeeing seen job =
      { service with
        index := after
        journal := { service.journal with
          jobs := service.journal.jobs ++ [job]
          log := service.journal.log ++ trial.log } } := by
    let journaled : Service :=
      { service with
        journal := { service.journal with jobs := service.journal.jobs ++ [job] } }
    have inlineJournaled : journaled.dispatch = .inline retries := inline
    have dispatched := dispatchJob_inline inlineJournaled seen job
    have ran : runWithRetries ((journaled.seeing seen).apply target) retries job journaled.index =
        (trial, after) := tried
    rw [ran] at dispatched
    exact dispatched
  rw [enqueued]
  exact ⟨⟨prompt.serves, prompt.watching, ⟨retries, inline⟩, prompt.unbroken, readyAfter⟩, rfl,
    left⟩

/-- Reacting does the jobs of the reactions, one after the other, in the store that is seen. -/
theorem prompt_reactions (prompt : service.Prompt registry) (seen : Store)
    (reactions : List Reaction) :
    let after := reactions.foldl (react seen) service
    after.Prompt registry ∧ after.store = service.store ∧
      after.index.inner.held = IndexJob.leaveAll ⟨registry, seen.view⟩
        (reactions.filterMap Reaction.job?) service.index.inner.held := by
  induction reactions generalizing service with
  | nil => exact ⟨prompt, rfl, rfl⟩
  | cons reaction rest ih =>
      cases reaction with
      | report entry =>
          have reported : (service.report [entry]).Prompt registry :=
            ⟨prompt.serves, prompt.watching, prompt.inline, prompt.unbroken, prompt.ready⟩
          exact ih reported
      | enqueue job =>
          obtain ⟨promptNext, sameStore, left⟩ := prompt_enqueueSeeing prompt seen job
          obtain ⟨promptLast, sameLast, leftLast⟩ := ih promptNext
          refine ⟨promptLast, sameLast.trans sameStore, leftLast.trans ?_⟩
          rw [left]
          rfl

theorem prompt_observe (prompt : service.Prompt registry) (event : ChangeEvent) (seen : Store) :
    (service.observe event seen).Prompt registry ∧
      (service.observe event seen).store = service.store ∧
      (service.observe event seen).index.inner.held = IndexJob.leaveAll ⟨registry, seen.view⟩
        (service.watch.jobsOn seen.view event) service.index.inner.held := by
  have sees : (service.seeing seen).view = seen.view := by rw [prompt.seeing seen]
  have reacted := prompt_reactions prompt seen (service.watch.onChange seen.view event)
  unfold observe
  rw [sees]
  exact reacted

theorem prompt_follow (prompt : service.Prompt registry) {outcome : Outcome Unit} {notice : Notice}
    (noticed : outcome.notice? = some notice) :
    (service.follow outcome).Prompt registry ∧
      (service.follow outcome).store = outcome.after ∧
      (service.follow outcome).index.inner.held =
        IndexJob.leaveAll ⟨registry, notice.seen.view⟩
          (service.watch.jobsOn notice.seen.view notice.event) service.index.inner.held := by
  let told : Service :=
    { service with
      store := outcome.after
      journal := { service.journal with events := service.journal.events ++ [notice.event] } }
  have promptTold : told.Prompt registry :=
    ⟨prompt.serves, prompt.watching, prompt.inline, prompt.unbroken, prompt.ready⟩
  have followed : service.follow outcome = told.observe notice.event notice.seen := by
    simp [follow, noticed, told]
  rw [followed]
  exact prompt_observe promptTold notice.event notice.seen

theorem prompt_follow_unnoticed (prompt : service.Prompt registry) {outcome : Outcome Unit}
    (unnoticed : outcome.notice? = none) :
    (service.follow outcome).Prompt registry ∧
      (service.follow outcome).store = outcome.after ∧
      (service.follow outcome).index = service.index := by
  have followed : service.follow outcome = { service with store := outcome.after } := by
    simp [follow, unnoticed]
  rw [followed]
  exact ⟨⟨prompt.serves, prompt.watching, prompt.inline, prompt.unbroken, prompt.ready⟩, rfl, rfl⟩

theorem settles_follow (grounded : registry.Grounded) {seen : Store}
    (onCatalog : seen.catalog = registry.catalog) (prompt : service.Prompt registry)
    {outcome : Outcome Unit} {event : ChangeEvent} (noticed : outcome.notice? = some ⟨event, seen⟩) :
    (service.follow outcome).Prompt registry ∧
      (service.follow outcome).store = outcome.after ∧
      SettlesAll registry seen (service.watch.jobsOn seen.view event) service.index.inner.held
        (service.follow outcome).index.inner.held := by
  obtain ⟨promptLast, sameStore, left⟩ := prompt_follow prompt noticed
  refine ⟨promptLast, sameStore, ?_⟩
  rw [left]
  exact settlesAll_leaveAll grounded onCatalog _ _

/-! ## Writes -/

section Writes
variable (grounded : registry.Grounded)
include grounded

omit grounded in
theorem following_assemble {config : Config} {retries : Nat} {permissions : Permissions}
    (assembled : Service.assemble registry config (.inline retries) permissions = .ok service) :
    service.Following registry := by
  obtain ⟨watch, watched, rfl⟩ := assemble_eq_ok assembled
  refine ⟨⟨rfl, watched, ⟨retries, rfl⟩, rfl, rfl, rfl⟩, Store.sound_empty _, ?_⟩
  exact mirrors_empty registry registry.catalog

theorem Following.write (following : service.Following registry) {write : Write}
    (spares : write.Spares registry) :
    (service.write write.operation).2.Following registry := by
  unfold Service.write
  cases performed : write.operation service.store with
  | error e => exact following
  | ok outcome =>
      have prompt := following.prompt
      have afterSound := following.sound.of_operation grounded.paired grounded.owned performed
      have tracked := tracked_of_operation grounded prompt.watching following.sound spares performed
      change (service.follow outcome).Following registry
      cases noticed : outcome.notice? with
      | none =>
          obtain ⟨promptLast, sameStore, sameIndex⟩ := prompt_follow_unnoticed prompt noticed
          refine ⟨promptLast, sameStore ▸ afterSound, ?_⟩
          rw [sameStore, sameIndex]
          exact mirrors_of_unnoticed tracked noticed following.mirrors
      | some notice =>
          have seenOnCatalog : notice.seen.catalog = registry.catalog := by
            rcases Store.seen_of_operation performed noticed with seen | seen
            · rw [seen, afterSound.onCatalog]
            · rw [seen, following.sound.onCatalog]
          obtain ⟨promptLast, sameStore, settles⟩ :=
            settles_follow grounded seenOnCatalog prompt noticed
          refine ⟨promptLast, sameStore ▸ afterSound, ?_⟩
          rw [sameStore]
          exact mirrors_of_prompt tracked noticed settles following.mirrors

theorem Following.follow (following : service.Following registry) {write : Write}
    (spares : write.Spares registry) {outcome : Outcome Unit}
    (success : write.operation service.store = .ok outcome) :
    (service.follow outcome).Following registry := by
  have written := following.write grounded spares
  rwa [Service.write, success] at written

theorem Following.writeAll (following : service.Following registry) {writes : List Write}
    (spares : ∀ write ∈ writes, write.Spares registry) :
    (service.writeAll writes).Following registry := by
  induction writes generalizing service with
  | nil => exact following
  | cons write rest ih =>
      apply ih (following.write grounded (spares write (List.mem_cons_self ..)))
      intro other inRest
      exact spares other (List.mem_cons_of_mem _ inRest)

theorem Following.coherent (following : service.Following registry) : service.Coherent := by
  rw [Coherent, indexer, following.prompt.seeing]
  exact (coherentWith_iff grounded following.sound.onCatalog _).2 following.mirrors

end Writes

/-- Whatever is written, the index is coherent with the store. -/
theorem coherent_of_writes {catalog : Catalog} {names : List String} {types : List EntityType}
    {registry : Registry} (declared : catalog.Declared names) (distinctNames : names.Nodup)
    (registered : Registry.ofTypes catalog types = .ok registry) (config : Config) (retries : Nat)
    (permissions : Permissions) :
    ∃ service, Service.assemble registry config (.inline retries) permissions = .ok service ∧
      ∀ writes : List Write, (∀ write ∈ writes, write.Spares registry) →
        (service.writeAll writes).Coherent := by
  obtain ⟨grounded, -⟩ := Registry.grounded_of_ofTypes declared distinctNames registered
  obtain ⟨service, assembled⟩ := exists_assemble grounded.orderly config (.inline retries) permissions
  refine ⟨service, assembled, fun writes spares => ?_⟩
  have following := following_assemble assembled
  exact (following.writeAll grounded spares).coherent grounded

/-- A book finds its place and its authors, and loses them again; one call fails. -/
theorem coherent_of_library_writes :
    ∃ service, Service.assemble Library.registry {} (.inline 1) .unrestricted = .ok service ∧
      (service.writeAll
        [.insert Library.shelf [("code", .text "A")],
          .insert Library.book [("title", .text "Logic")],
          .insert Library.author [("name", .text "Ada")],
          .setForeignKey ⟨Library.book, 2⟩ "place" (some 1),
          .link ⟨Library.author, 3⟩ "works" [2], .update ⟨Library.shelf, 1⟩ [("code", .text "B")],
          .delete ⟨Library.book, 7⟩, .unlink ⟨Library.book, 2⟩ "authors" [3],
          .delete ⟨Library.shelf, 1⟩]).Coherent := by
  obtain ⟨service, assembled, coherent⟩ :=
    coherent_of_writes Library.declared (by decide) Library.registered {} 1 .unrestricted
  exact ⟨service, assembled, coherent _ (by decide +kernel)⟩

end Service
end EntitySearch
