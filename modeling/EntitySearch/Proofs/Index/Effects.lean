import EntitySearch.Index.Queue
import EntitySearch.Proofs.Data.Fallible
import EntitySearch.Search.SearchIndex
import EntitySearch.Service.Faults
import Mathlib.Logic.Function.Basic

/-!
# What jobs do to an index

An index that is online and not made to fail keeps what it is given.  A job then changes at most what
is held of its entity, and `IndexJob.leaves` says how: the document that is built takes the place of
the earlier one, and a build that fails changes nothing, however often it is tried.

Main statements: `apply_leaves`, `runWithRetries_leaves`.
-/
set_option autoImplicit false
namespace EntitySearch

/-- A target that never fails where it is ready, and then holds what it was given. -/
structure IndexTarget.Keeps {σ : Type} (target : IndexTarget σ) (ready : σ → Prop)
    (held : σ → EntityRef → Option Document) : Prop where
  put : ∀ document index, ready index → ∃ after, target.put document index = (.ok (), after) ∧
    ready after ∧ held after = Function.update (held index) document.entity (some document)
  drop : ∀ entity index, ready index → ∃ after, target.drop entity index = (.ok (), after) ∧
    ready after ∧ held after = Function.update (held index) entity none

namespace SearchIndex

def held (index : SearchIndex) (entity : EntityRef) : Option Document :=
  index.documents.get? entity

theorem target_keeps : SearchIndex.target.Keeps (fun index => index.online = true) held := by
  refine ⟨fun document index online => ?_, fun entity index online => ?_⟩
  · refine ⟨{ index with documents := index.documents.insert document.entity document }, ?_,
      online, ?_⟩
    · simp [target, changing, checkOnline, online]
    · funext other
      rw [Function.update_apply]
      exact SortedMap.get?_insert ..
  · refine ⟨{ index with documents := index.documents.erase entity }, ?_, online, ?_⟩
    · simp [target, changing, checkOnline, online]
    · funext other
      rw [Function.update_apply]
      exact SortedMap.get?_erase ..

end SearchIndex

theorem IndexTarget.Keeps.faulty {σ : Type} {target : IndexTarget σ} {ready : σ → Prop}
    {held : σ → EntityRef → Option Document} (keeps : target.Keeps ready held) :
    target.faulty.Keeps (fun index => index.failing = 0 ∧ ready index.inner)
      (fun index => held index.inner) := by
  refine ⟨fun document index isReady => ?_, fun entity index isReady => ?_⟩
  · obtain ⟨after, put, readyAfter, holds⟩ := keeps.put document index.inner isReady.2
    refine ⟨{ index with inner := after, calls := index.calls + 1 }, ?_,
      ⟨isReady.1, readyAfter⟩, holds⟩
    change Faulty.call (target.put document) index = _
    rw [Faulty.call_eq_of_failing_eq_zero _ _ isReady.1, put]
  · obtain ⟨after, drop, readyAfter, holds⟩ := keeps.drop entity index.inner isReady.2
    refine ⟨{ index with inner := after, calls := index.calls + 1 }, ?_,
      ⟨isReady.1, readyAfter⟩, holds⟩
    change Faulty.call (target.drop entity) index = _
    rw [Faulty.call_eq_of_failing_eq_zero _ _ isReady.1, drop]

namespace IndexJob

/-- What a job writes: a document, or that there is none any more.  It writes nothing at all if its
entity has a name that is not in use, or if the build fails. -/
def written? (indexer : Indexer) : IndexJob → Option (Option Document)
  | .deindex _ => some none
  | .index entity exclude =>
    match indexer.registry.lookup entity.typeName with
    | none => none
    | some type => (indexer.document type entity exclude).toOption

def leaves (indexer : Indexer) (job : IndexJob) (held : EntityRef → Option Document) :
    EntityRef → Option Document :=
  match job.written? indexer with
  | none => held
  | some document? => Function.update held job.entity document?

def leaveAll (indexer : Indexer) (jobs : List IndexJob) (held : EntityRef → Option Document) :
    EntityRef → Option Document :=
  jobs.foldl (fun held job => job.leaves indexer held) held

variable {indexer : Indexer} {job : IndexJob} {held : EntityRef → Option Document}

theorem leaveAll_append (first rest : List IndexJob) :
    leaveAll indexer (first ++ rest) held = leaveAll indexer rest (leaveAll indexer first held) :=
  List.foldl_append

theorem written_index_iff {entity : EntityRef} {exclude : Option Exclusion}
    {document? : Option Document} :
    (index entity exclude).written? indexer = some document? ↔
      ∃ type, indexer.registry.lookup entity.typeName = some type ∧
        indexer.document type entity exclude = .ok document? := by
  unfold written?
  dsimp only
  cases indexer.registry.lookup entity.typeName with
  | none => simp
  | some type =>
      simp only [Option.some.injEq, exists_eq_left']
      cases indexer.document type entity exclude with
      | error e => simp [Except.toOption]
      | ok found => simp [Except.toOption]

theorem leaves_of_unwritten (unwritten : job.written? indexer = none) :
    job.leaves indexer held = held := by
  rw [leaves, unwritten]

theorem leaves_self {document? : Option Document}
    (written : job.written? indexer = some document?) :
    job.leaves indexer held job.entity = document? := by
  rw [leaves, written]
  exact Function.update_self ..

theorem leaves_of_ne {other : EntityRef} (differs : other ≠ job.entity) :
    job.leaves indexer held other = held other := by
  unfold leaves
  cases job.written? indexer with
  | none => rfl
  | some document? => exact Function.update_of_ne differs ..

theorem leaveAll_of_ne {jobs : List IndexJob} {other : EntityRef}
    (differ : ∀ job ∈ jobs, other ≠ job.entity) : leaveAll indexer jobs held other = held other := by
  induction jobs generalizing held with
  | nil => rfl
  | cons job rest ih =>
      have later : leaveAll indexer rest (job.leaves indexer held) other =
          job.leaves indexer held other :=
        ih fun next inRest => differ next (List.mem_cons_of_mem _ inRest)
      exact later.trans (leaves_of_ne (differ job (List.mem_cons_self ..)))

theorem leaves_leaves : job.leaves indexer (job.leaves indexer held) = job.leaves indexer held := by
  unfold leaves
  cases job.written? indexer with
  | none => rfl
  | some document? => exact Function.update_idem ..

end IndexJob

/-! ## Doing jobs -/

theorem Document.entity_of_build {catalog : Catalog} {view : StoreView} {type : EntityType}
    {entity : EntityRef} {exclude : Option Exclusion} {document : Document}
    (built : Document.build catalog view type entity exclude = .ok (some document)) :
    document.entity = entity := by
  unfold Document.build at built
  split at built
  · obtain ⟨fields, -, made⟩ := map_eq_ok built
    cases made
    rfl
  · cases built

section Apply
variable {σ : Type} {target : IndexTarget σ} {ready : σ → Prop}
  {held : σ → EntityRef → Option Document} (keeps : target.Keeps ready held) (indexer : Indexer)
include keeps

theorem apply_leaves (job : IndexJob) {index : σ} (isReady : ready index) :
    ∃ result after, indexer.apply target job index = (result, after) ∧ ready after ∧
      held after = job.leaves indexer (held index) := by
  cases job with
  | deindex entity =>
      obtain ⟨after, drop, readyAfter, holds⟩ := keeps.drop entity index isReady
      exact ⟨.ok (), after, drop, readyAfter, holds⟩
  | index entity exclude =>
      unfold Indexer.apply IndexJob.leaves IndexJob.written?
      dsimp only
      cases indexer.registry.lookup entity.typeName with
      | none => exact ⟨.ok (), index, rfl, isReady, rfl⟩
      | some type =>
          dsimp only
          cases builds : indexer.document type entity exclude with
          | error e => exact ⟨.error e, index, rfl, isReady, rfl⟩
          | ok document? =>
              cases document? with
              | none =>
                  obtain ⟨after, drop, readyAfter, holds⟩ := keeps.drop entity index isReady
                  exact ⟨.ok (), after, drop, readyAfter, holds⟩
              | some document =>
                  obtain ⟨after, put, readyAfter, holds⟩ := keeps.put document index isReady
                  rw [Document.entity_of_build builds] at holds
                  exact ⟨.ok (), after, put, readyAfter, holds⟩

/-- The attempts at a job leave what the first of them leaves. -/
theorem tryJob_leaves (job : IndexJob) (total left : Nat) {index : σ} (isReady : ready index) :
    ∃ trial after, tryJob (indexer.apply target) job total (left + 1) index = (trial, after) ∧
      ready after ∧ held after = job.leaves indexer (held index) := by
  induction left generalizing index with
  | zero =>
      obtain ⟨result, after, applied, readyAfter, holds⟩ :=
        apply_leaves keeps indexer job isReady
      unfold tryJob
      rw [applied]
      cases result with
      | ok _ => exact ⟨_, after, rfl, readyAfter, holds⟩
      | error e => exact ⟨_, after, rfl, readyAfter, holds⟩
  | succ left ih =>
      obtain ⟨result, after, applied, readyAfter, holds⟩ :=
        apply_leaves keeps indexer job isReady
      unfold tryJob
      rw [applied]
      cases result with
      | ok _ => exact ⟨_, after, rfl, readyAfter, holds⟩
      | error e =>
          obtain ⟨trial, last, tried, readyLast, holdsLast⟩ := ih readyAfter
          dsimp only
          rw [tried]
          refine ⟨_, last, rfl, readyLast, ?_⟩
          rw [holdsLast, holds, IndexJob.leaves_leaves]

theorem runWithRetries_leaves (retries : Nat) (job : IndexJob) {index : σ}
    (isReady : ready index) :
    ∃ trial after, runWithRetries (indexer.apply target) retries job index = (trial, after) ∧
      ready after ∧ held after = job.leaves indexer (held index) :=
  tryJob_leaves keeps indexer job (attemptsOf retries) retries isReady

end Apply
end EntitySearch
