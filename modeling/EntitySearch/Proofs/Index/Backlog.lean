import EntitySearch.Proofs.Index.Coherence

/-!
# A backlog of jobs

A store whose writes hand their jobs to a channel, and the one worker of the channel, which does the
first waiting job whenever it gets to it, in the store as it is then.  Writes and jobs come in any
order.  At any time, what the waiting jobs would leave if they were all done in the present store is
the present documents; so when no job is waiting, the index is coherent with the store.

Main statement: `coherent_when_drained`.
-/
set_option autoImplicit false
namespace EntitySearch

/-- A store, an index, and the jobs on their way from the one to the other. -/
structure Backlog where
  watch : Watch
  store : Store
  channel : Channel
  index : SearchIndex

namespace Backlog

def start (registry : Registry) (retries : Nat) : Except SearchError Backlog := do
  let watch ← Watch.ofRegistry registry
  let channel ← Channel.start 1 retries
  return { watch, channel, store := .empty registry.catalog, index := {} }

inductive Step where
  | write (write : Write)
  | work

/-- A step that sets no foreign key whose list of holders is a step of a field. -/
def Step.Spares (registry : Registry) : Step → Prop
  | .write call => call.Spares registry
  | .work => True

instance (registry : Registry) : DecidablePred (Step.Spares registry) := by
  intro step
  cases step <;> unfold Step.Spares <;> infer_instance

def write (backlog : Backlog) (write : Write) : Backlog :=
  match write.operation backlog.store with
  | .error _ => backlog
  | .ok outcome =>
    { backlog with
      store := outcome.after
      channel := (backlog.channel.enqueueAll (backlog.watch.jobsFor outcome.notice?)).1 }

def work (backlog : Backlog) : Backlog :=
  let indexer : Indexer := ⟨backlog.watch.registry, backlog.store.view⟩
  let worked :=
    Channel.drainCount (indexer.apply SearchIndex.target) 1 backlog.channel backlog.index
  { backlog with channel := worked.1.1, index := worked.2 }

def step (backlog : Backlog) : Step → Backlog
  | .write write => backlog.write write
  | .work => backlog.work

def run (backlog : Backlog) (steps : List Step) : Backlog := steps.foldl step backlog

end Backlog

/-! ## The channel -/

namespace Channel
variable {channel : Channel}

structure Resting (channel : Channel) : Prop where
  idle : channel.workers = [.idle]
  opened : channel.closed = false

theorem enqueueAll_eq (opened : channel.closed = false) (jobs : List IndexJob) :
    channel.enqueueAll jobs = ({ channel with waiting := channel.waiting ++ jobs }, []) := by
  induction jobs generalizing channel with
  | nil => simp [enqueueAll]
  | cons job rest ih =>
      have enqueued : channel.enqueue job =
          ({ channel with waiting := channel.waiting ++ [job] }, []) := by
        simp [enqueue, opened]
      have later := @ih { channel with waiting := channel.waiting ++ [job] } opened
      rw [enqueueAll, enqueued]
      simp only [later, List.append_assoc, List.singleton_append, List.append_nil]

theorem resting_finish {worker : Worker} (alone : channel.workers = [worker])
    (opened : channel.closed = false) (ending : Ending) :
    (channel.finish 0 ending).Resting ∧ (channel.finish 0 ending).waiting = channel.waiting := by
  refine ⟨⟨?_, opened⟩, rfl⟩
  simp [finish, alone]

theorem attempt_ok {job : IndexJob} {failures : Nat}
    (busy : channel.workers = [.busy job failures]) :
    channel.attempt 0 (.ok ()) = (channel.finish 0 ⟨job, failures + 1, true⟩, []) := by
  simp [attempt, busy]

theorem attempt_error {job : IndexJob} {failures : Nat}
    (busy : channel.workers = [.busy job failures]) (e : SearchError) :
    (channel.attempt 0 (.error e)).1 =
      if failures + 1 < attemptsOf channel.retries then
        { channel with workers := [.busy job (failures + 1)] }
      else channel.finish 0 ⟨job, failures + 1, false⟩ := by
  simp [attempt, busy]

section Work
variable {σ : Type} {target : IndexTarget σ} {ready : σ → Prop}
  {held : σ → EntityRef → Option Document} {registry : Registry} {store : Store}

theorem work_resting (apply : IndexJob → σ → Except SearchError Unit × σ)
    (resting : channel.Resting) (left : Nat) (index : σ) :
    work apply 0 left channel index = ((channel, []), index) := by
  cases left with
  | zero => rfl
  | succ left => simp [work, resting.idle]

theorem work_busy (apply : IndexJob → σ → Except SearchError Unit × σ) {job : IndexJob}
    {failures : Nat} (busy : channel.workers = [.busy job failures]) (left : Nat) {index after : σ}
    {result : Except SearchError Unit} (applied : apply job index = (result, after)) :
    (work apply 0 (left + 1) channel index).1.1 =
        (work apply 0 left (channel.attempt 0 result).1 after).1.1 ∧
      (work apply 0 (left + 1) channel index).2 =
        (work apply 0 left (channel.attempt 0 result).1 after).2 := by
  simp [work, busy, applied]

variable (keeps : target.Keeps ready held) (grounded : registry.Grounded)
  (onCatalog : store.catalog = registry.catalog)
include keeps grounded onCatalog

/-- A worker that makes all its attempts ends idle, and its job settles. -/
theorem settles_work {job : IndexJob} {failures left : Nat}
    (busy : channel.workers = [.busy job failures]) (opened : channel.closed = false)
    (remaining : failures + (left + 1) = attemptsOf channel.retries) {index : σ}
    (isReady : ready index) :
    let worked := work ((Indexer.mk registry store.view).apply target) 0 (left + 1) channel index
    worked.1.1.Resting ∧ worked.1.1.waiting = channel.waiting ∧ ready worked.2 ∧
      job.Settles registry store (held index) (held worked.2) := by
  intro worked
  -- An attempt that fails changes nothing that is held, so the last one decides.
  induction left generalizing channel failures index with
  | zero =>
      obtain ⟨result, after, applied, readyAfter, settles⟩ :=
        settles_apply grounded onCatalog keeps job isReady
      have finished : ∃ ending, (channel.attempt 0 result).1 = channel.finish 0 ending := by
        cases result with
        | ok _ => exact ⟨_, congrArg Prod.fst (attempt_ok busy)⟩
        | error e =>
            rw [attempt_error busy, if_neg (by omega)]
            exact ⟨_, rfl⟩
      obtain ⟨ending, done⟩ := finished
      obtain ⟨resting, waiting⟩ := resting_finish busy opened ending
      have ended := work_busy _ busy 0 applied
      rw [done, work_resting _ resting] at ended
      rw [ended.1, ended.2]
      exact ⟨resting, waiting, readyAfter, settles⟩
  | succ left ih =>
      obtain ⟨result, after, applied, readyAfter, settles⟩ :=
        settles_apply grounded onCatalog keeps job isReady
      have ended := work_busy _ busy (left + 1) applied
      cases result with
      | ok _ =>
          obtain ⟨resting, waiting⟩ := resting_finish busy opened ⟨job, failures + 1, true⟩
          rw [attempt_ok busy, work_resting _ resting] at ended
          rw [ended.1, ended.2]
          exact ⟨resting, waiting, readyAfter, settles⟩
      | error e =>
          rw [attempt_error busy, if_pos (by omega)] at ended
          let tried : Channel := { channel with workers := [.busy job (failures + 1)] }
          have busyNext : tried.workers = [.busy job (failures + 1)] := rfl
          have remainingNext : failures + 1 + (left + 1) = attemptsOf tried.retries := by
            change failures + 1 + (left + 1) = attemptsOf channel.retries
            omega
          obtain ⟨resting, waiting, readyLast, settlesLast⟩ :=
            ih busyNext opened remainingNext readyAfter
          rw [ended.1, ended.2]
          exact ⟨resting, waiting, readyLast, settles.trans settlesLast⟩

omit keeps grounded onCatalog in
theorem drainCount_one_nil (apply : IndexJob → σ → Except SearchError Unit × σ)
    (resting : channel.Resting) (none : channel.waiting = []) (index : σ) :
    drainCount apply 1 channel index = ((channel, []), index) := by
  have taken : channel.take 0 = channel := by simp [take, none, resting.idle]
  simp [drainCount, taken, work_resting apply resting]

theorem settles_drainCount_one (resting : channel.Resting) {job : IndexJob} {rest : List IndexJob}
    (waits : channel.waiting = job :: rest) {index : σ} (isReady : ready index) :
    let worked := drainCount ((Indexer.mk registry store.view).apply target) 1 channel index
    worked.1.1.Resting ∧ worked.1.1.waiting = rest ∧ ready worked.2 ∧
      job.Settles registry store (held index) (held worked.2) := by
  let taken : Channel := { channel with waiting := rest, workers := [.busy job 0] }
  have takes : channel.take 0 = taken := by simp [take, waits, resting.idle, taken]
  have busy : taken.workers = [.busy job 0] := rfl
  have remaining : 0 + (channel.retries + 1) = attemptsOf taken.retries := Nat.zero_add _
  have worked := settles_work keeps grounded onCatalog busy resting.opened remaining isReady
  simp only [drainCount, takes]
  exact worked

end Work
end Channel

namespace Backlog

/-- The invariant of the steps: the worker rests, and what the waiting jobs would leave in the store
as it is are its documents. -/
structure Pending (registry : Registry) (backlog : Backlog) : Prop where
  serves : backlog.watch.registry = registry
  watching : Watch.ofRegistry registry = .ok backlog.watch
  sound : backlog.store.Sound registry.catalog
  resting : backlog.channel.Resting
  online : backlog.index.online = true
  replayed : ∀ type ∈ registry.entityTypes, ∀ owner : EntityRef, owner.typeName = type.name →
    IndexJob.replay backlog.store type owner backlog.channel.waiting (backlog.index.held owner) =
      backlog.store.documentOf type owner none

variable {registry : Registry} {backlog : Backlog}

theorem pending_start {retries : Nat} (started : start registry retries = .ok backlog) :
    backlog.Pending registry := by
  obtain ⟨watch, watched, started⟩ := bind_eq_ok started
  cases started
  refine ⟨(Watch.ofRegistry_eq_ok watched).1, watched, Store.sound_empty _, ⟨rfl, rfl⟩, rfl, ?_⟩
  exact mirrors_empty registry registry.catalog

section Steps
variable (grounded : registry.Grounded)
include grounded

theorem Pending.write (pending : backlog.Pending registry) {write : Write}
    (spares : write.Spares registry) : (backlog.write write).Pending registry := by
  unfold Backlog.write
  cases performed : write.operation backlog.store with
  | error e => exact pending
  | ok outcome =>
      have afterSound := pending.sound.of_operation grounded.paired grounded.owned performed
      have tracked := tracked_of_operation grounded pending.watching pending.sound spares performed
      have enqueued := Channel.enqueueAll_eq pending.resting.opened
        (backlog.watch.jobsFor outcome.notice?)
      simp only [enqueued]
      refine ⟨pending.serves, pending.watching, afterSound,
        ⟨pending.resting.idle, pending.resting.opened⟩, pending.online, ?_⟩
      intro type member owner typed
      -- The new jobs are done last, so the earlier ones matter only for entities without a new one.
      rw [IndexJob.replay_append]
      refine IndexJob.replay_of_leaves ?_ ?_
      · rintro job isJob rfl
        exact tracked.lasting type member job isJob typed
      · intro noJob
        have quiet := tracked.quiet type member owner typed noJob
        rw [IndexJob.replay_congr quiet, quiet none]
        exact pending.replayed type member owner typed

theorem Pending.work (pending : backlog.Pending registry) : backlog.work.Pending registry := by
  unfold Backlog.work
  rw [pending.serves]
  cases waits : backlog.channel.waiting with
  | nil =>
      simp only [Channel.drainCount_one_nil _ pending.resting waits]
      exact pending
  | cons job rest =>
      obtain ⟨resting, waiting, online, settles⟩ := Channel.settles_drainCount_one
        SearchIndex.target_keeps grounded pending.sound.onCatalog pending.resting waits
        pending.online
      refine ⟨pending.serves, pending.watching, pending.sound, resting, online, ?_⟩
      intro type member owner typed
      have replayed := pending.replayed type member owner typed
      rw [waits, IndexJob.replay, List.foldl_cons, ← settles.held member typed] at replayed
      rw [waiting]
      exact replayed

theorem Pending.run (pending : backlog.Pending registry) {steps : List Step}
    (spares : ∀ step ∈ steps, step.Spares registry) : (backlog.run steps).Pending registry := by
  induction steps generalizing backlog with
  | nil => exact pending
  | cons step rest ih =>
      have spared := spares step (List.mem_cons_self ..)
      have later : ∀ step ∈ rest, step.Spares registry :=
        fun step inRest => spares step (List.mem_cons_of_mem _ inRest)
      cases step with
      | write write => exact ih (pending.write grounded spared) later
      | work => exact ih (pending.work grounded) later

end Steps

/-- Whenever no job is waiting, the index is coherent with the store. -/
theorem coherent_when_drained {catalog : Catalog} {names : List String} {types : List EntityType}
    {registry : Registry} (declared : catalog.Declared names) (distinctNames : names.Nodup)
    (registered : Registry.ofTypes catalog types = .ok registry) (retries : Nat) :
    ∃ backlog, start registry retries = .ok backlog ∧
      ∀ steps : List Step, (∀ step ∈ steps, step.Spares registry) →
        (backlog.run steps).channel.waiting = [] →
          (backlog.run steps).index.CoherentWith ⟨registry, (backlog.run steps).store.view⟩ := by
  obtain ⟨grounded, -⟩ := Registry.grounded_of_ofTypes declared distinctNames registered
  obtain ⟨watch, watched⟩ := Watch.exists_ofRegistry grounded.orderly
  have started : ∃ backlog, start registry retries = .ok backlog := by
    unfold start
    rw [watched]
    exact ⟨_, rfl⟩
  obtain ⟨backlog, started⟩ := started
  refine ⟨backlog, started, fun steps spares drained => ?_⟩
  have pending := (pending_start started).run grounded spares
  refine (coherentWith_iff grounded pending.sound.onCatalog _).2 ?_
  intro type member owner typed
  have replayed := pending.replayed type member owner typed
  rw [drained] at replayed
  exact replayed

/-- A job that excludes a link waits until the link is there again. -/
theorem coherent_when_library_drained :
    ∃ backlog, start Library.registry 1 = .ok backlog ∧
      let steps : List Step :=
        [.write (.insert Library.book [("title", .text "Logic")]), .work,
          .write (.insert Library.author [("name", .text "Ada")]),
          .write (.link ⟨Library.book, 1⟩ "authors" [2]), .work,
          .write (.unlink ⟨Library.book, 1⟩ "authors" [2]),
          .write (.link ⟨Library.author, 2⟩ "works" [1]), .work, .work]
      (backlog.run steps).channel.waiting = [] ∧
        (backlog.run steps).index.CoherentWith
          ⟨Library.registry, (backlog.run steps).store.view⟩ := by
  obtain ⟨backlog, started, coherent⟩ :=
    coherent_when_drained Library.declared (by decide) Library.registered 1
  cases started
  exact ⟨_, rfl, by decide +kernel, coherent _ (by decide +kernel) (by decide +kernel)⟩

end Backlog
end EntitySearch
