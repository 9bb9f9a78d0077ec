import EntitySearch.Proofs.Index.Effects
import EntitySearch.Proofs.Index.Exclusions

/-!
# Jobs settle documents

For an entity of a registered type every job does its work: the index then holds what the job builds
from the store that it reads, and for every other entity what it held.  So after some jobs it holds
for an entity what the last job about the entity left.

Main statements: `settles_leaves`, `SettlesAll.held`.
-/
set_option autoImplicit false
namespace EntitySearch

/-- What a job changes of what is held: for its entity it leaves what it builds from a store, if
that is an entity of a registered type; nothing else changes. -/
structure IndexJob.Settles (job : IndexJob) (registry : Registry) (store : Store)
    (before after : EntityRef → Option Document) : Prop where
  others : ∀ other, other ≠ job.entity → after other = before other
  own : ∀ type ∈ registry.entityTypes, job.entity.typeName = type.name →
    after job.entity = job.result store type

theorem IndexJob.Settles.held {job : IndexJob} {registry : Registry} {store : Store}
    {before after : EntityRef → Option Document} (settles : job.Settles registry store before after)
    {type : EntityType} (member : type ∈ registry.entityTypes) {owner : EntityRef}
    (typed : owner.typeName = type.name) :
    after owner = if job.entity = owner then job.result store type else before owner := by
  split
  · next same =>
    subst same
    exact settles.own type member typed
  · next differs => exact settles.others owner fun same => differs same.symm

inductive SettlesAll (registry : Registry) (store : Store) :
    List IndexJob → (EntityRef → Option Document) → (EntityRef → Option Document) → Prop
  | nil (held : EntityRef → Option Document) : SettlesAll registry store [] held held
  | cons {job : IndexJob} {rest : List IndexJob} {before middle after : EntityRef → Option Document}
      (first : job.Settles registry store before middle)
      (later : SettlesAll registry store rest middle after) :
      SettlesAll registry store (job :: rest) before after

/-- The document of an entity after some jobs that all read one store. -/
def IndexJob.replay (store : Store) (type : EntityType) (owner : EntityRef) (jobs : List IndexJob)
    (document? : Option Document) : Option Document :=
  jobs.foldl (fun document? job => if job.entity = owner then job.result store type else document?)
    document?

namespace IndexJob
variable {store : Store} {type : EntityType} {owner : EntityRef} {document? : Option Document}

theorem replay_append (first rest : List IndexJob) :
    replay store type owner (first ++ rest) document? =
      replay store type owner rest (replay store type owner first document?) :=
  List.foldl_append

theorem replay_of_leaves {jobs : List IndexJob} {goal : Option Document}
    (leaves : ∀ job ∈ jobs, job.entity = owner → job.result store type = goal)
    (reached : (∀ job ∈ jobs, job.entity ≠ owner) → document? = goal) :
    replay store type owner jobs document? = goal := by
  induction jobs generalizing document? with
  | nil => exact reached fun job isJob => by cases isJob
  | cons job rest ih =>
      rw [replay, List.foldl_cons]
      refine ih (fun other inRest => leaves other (List.mem_cons_of_mem _ inRest)) ?_
      intro noneLater
      by_cases isOwner : job.entity = owner
      · rw [if_pos isOwner]
        exact leaves job (List.mem_cons_self ..) isOwner
      · rw [if_neg isOwner]
        refine reached fun other inJobs => ?_
        rcases List.mem_cons.1 inJobs with rfl | inRest
        · exact isOwner
        · exact noneLater other inRest

/-- What jobs leave of an entity depends on the store through its documents only. -/
theorem replay_congr {other : Store} {jobs : List IndexJob}
    (same : ∀ exclude, other.documentOf type owner exclude = store.documentOf type owner exclude) :
    replay other type owner jobs document? = replay store type owner jobs document? := by
  induction jobs generalizing document? with
  | nil => rfl
  | cons job rest ih =>
      have result : job.entity = owner → job.result other type = job.result store type := by
        rintro rfl
        cases job with
        | index entity exclude => exact same exclude
        | deindex entity => rfl
      rw [replay, replay, List.foldl_cons, List.foldl_cons]
      by_cases isOwner : job.entity = owner
      · rw [if_pos isOwner, if_pos isOwner, result isOwner]
        exact ih
      · rw [if_neg isOwner, if_neg isOwner]
        exact ih

end IndexJob

namespace SettlesAll
variable {registry : Registry} {store : Store} {jobs : List IndexJob}
  {before after : EntityRef → Option Document} {type : EntityType}

theorem replay (settles : SettlesAll registry store jobs before after)
    (member : type ∈ registry.entityTypes) {owner : EntityRef}
    (typed : owner.typeName = type.name) :
    after owner = IndexJob.replay store type owner jobs (before owner) := by
  induction settles with
  | nil held => rfl
  | cons first later ih =>
      rw [ih, IndexJob.replay, IndexJob.replay, List.foldl_cons, first.held member typed]

/-- If all jobs about an entity leave the same, and there is one unless that is held already, then
that is held afterwards. -/
theorem held (settles : SettlesAll registry store jobs before after)
    (member : type ∈ registry.entityTypes) {owner : EntityRef}
    (typed : owner.typeName = type.name) {goal : Option Document}
    (leaves : ∀ job ∈ jobs, job.entity = owner → job.result store type = goal)
    (reached : (∀ job ∈ jobs, job.entity ≠ owner) → before owner = goal) : after owner = goal := by
  rw [settles.replay member typed]
  exact IndexJob.replay_of_leaves leaves reached

theorem held_last {job : IndexJob}
    (settles : SettlesAll registry store (jobs ++ [job]) before after)
    (member : type ∈ registry.entityTypes) (typed : job.entity.typeName = type.name) :
    after job.entity = job.result store type := by
  rw [settles.replay member typed, IndexJob.replay_append]
  exact if_pos rfl

end SettlesAll

section Apply
variable {registry : Registry} {store : Store}

theorem settles_of_update {job : IndexJob} {before after : EntityRef → Option Document}
    {document? : Option Document} (holds : after = Function.update before job.entity document?)
    (own : ∀ type ∈ registry.entityTypes, job.entity.typeName = type.name →
      document? = job.result store type) : job.Settles registry store before after := by
  refine ⟨fun other differs => ?_, fun type member typed => ?_⟩
  · rw [holds, Function.update_of_ne differs]
  · rw [holds, Function.update_self, own type member typed]

theorem IndexJob.Settles.trans {job : IndexJob} {before middle after : EntityRef → Option Document}
    (first : job.Settles registry store before middle)
    (second : job.Settles registry store middle after) :
    job.Settles registry store before after :=
  ⟨fun other differs => (second.others other differs).trans (first.others other differs),
    second.own⟩

theorem settles_unregistered {job : IndexJob} {before : EntityRef → Option Document}
    (unregistered : ∀ type ∈ registry.entityTypes, job.entity.typeName ≠ type.name) :
    job.Settles registry store before before :=
  ⟨fun _ _ => rfl, fun type member typed => absurd typed (unregistered type member)⟩

variable (grounded : registry.Grounded) (onCatalog : store.catalog = registry.catalog)
include grounded

theorem unregistered_of_lookup {entity : EntityRef}
    (unknown : registry.lookup entity.typeName = none) :
    ∀ type ∈ registry.entityTypes, entity.typeName ≠ type.name := by
  intro type member typed
  have known := grounded.orderly.isSome_lookup member typed
  rw [unknown] at known
  cases known

include onCatalog

theorem build_eq_of_lookup {entity : EntityRef} {found : EntityType}
    (looked : registry.lookup entity.typeName = some found) {exclude : Option Exclusion}
    {type : EntityType} (member : type ∈ registry.entityTypes)
    (typed : entity.typeName = type.name) :
    Document.build registry.catalog store.view found entity exclude =
      .ok (store.documentOf type entity exclude) := by
  rw [typed, grounded.orderly.lookup_name member] at looked
  cases looked
  exact Store.build_eq_documentOf grounded.paired grounded.orderly onCatalog member typed

theorem settles_leaves (job : IndexJob) (held : EntityRef → Option Document) :
    job.Settles registry store held (job.leaves ⟨registry, store.view⟩ held) := by
  cases job with
  | deindex entity => exact settles_of_update rfl fun _ _ _ => rfl
  | index entity exclude =>
      unfold IndexJob.leaves IndexJob.written?
      dsimp only
      cases looked : registry.lookup entity.typeName with
      | none => exact settles_unregistered (unregistered_of_lookup grounded looked)
      | some found =>
          dsimp only
          have built : ∀ type ∈ registry.entityTypes, entity.typeName = type.name →
              Indexer.document ⟨registry, store.view⟩ found entity exclude =
                .ok (store.documentOf type entity exclude) :=
            fun type => build_eq_of_lookup grounded onCatalog looked
          -- Building fails only for a type found by a further name of it.
          cases builds : Indexer.document ⟨registry, store.view⟩ found entity exclude with
          | error e =>
              refine settles_unregistered fun type member typed => ?_
              cases builds.symm.trans (built type member typed)
          | ok document? =>
              refine settles_of_update rfl fun type member typed => ?_
              exact Except.ok.inj (builds.symm.trans (built type member typed))

theorem settlesAll_leaveAll (jobs : List IndexJob) (held : EntityRef → Option Document) :
    SettlesAll registry store jobs held (IndexJob.leaveAll ⟨registry, store.view⟩ jobs held) := by
  induction jobs generalizing held with
  | nil => exact .nil held
  | cons job rest ih => exact .cons (settles_leaves grounded onCatalog job held) (ih _)

theorem settles_apply {σ : Type} {target : IndexTarget σ} {ready : σ → Prop}
    {held : σ → EntityRef → Option Document} (keeps : target.Keeps ready held) (job : IndexJob)
    {index : σ} (isReady : ready index) :
    ∃ result after, (Indexer.mk registry store.view).apply target job index = (result, after) ∧
      ready after ∧ job.Settles registry store (held index) (held after) := by
  obtain ⟨result, after, applied, readyAfter, holds⟩ :=
    apply_leaves keeps ⟨registry, store.view⟩ job isReady
  refine ⟨result, after, applied, readyAfter, ?_⟩
  rw [holds]
  exact settles_leaves grounded onCatalog job (held index)

end Apply
end EntitySearch
