import EntitySearch.Proofs.Index.Coherence
import Mathlib.Data.List.Induction

/-!
# Foreign keys that are moved or cleared

Observers see a foreign key set, so the owners that are found are those that the holder of the key
leads back to afterwards.  An entity whose document showed the holder through the entity that the
key pointed at before, and does not show it any more, is rewritten without a job.  There is no such
entity where the key was not set before, or where no field steps back along it.

Main statements: `covers_setForeignKey_iff`, `covers_of_key_free`, `covers_of_spares`.
-/
set_option autoImplicit false
namespace EntitySearch

open Catalog (Hop)
open Store

def Registry.Rewritten (registry : Registry) (before after : Store) (owner : EntityRef) : Prop :=
  ∃ type ∈ registry.entityTypes, owner.typeName = type.name ∧ after.contains owner = true ∧
    Document.build registry.catalog before.view type owner none ≠
      Document.build registry.catalog after.view type owner none

/-- Every entity whose document a write changed has an index job. -/
def Watch.Covers (watch : Watch) (registry : Registry) (before : Store) (outcome : Outcome Unit) :
    Prop :=
  ∀ owner, registry.Rewritten before outcome.after owner →
    ∃ exclude, .index owner exclude ∈ watch.jobsFor outcome.notice?

section KeyMoves
variable {registry : Registry} (grounded : registry.Grounded) {before : Store}
  (onCatalog : before.catalog = registry.catalog) {holder : EntityRef} {name : String}
  {target : Option Nat} {outcome : Outcome Unit}
  (success : before.setForeignKey holder name target = .ok outcome)
include grounded onCatalog success

theorem rewritten_setForeignKey_iff {owner : EntityRef} :
    registry.Rewritten before outcome.after owner ↔
      ∃ type ∈ registry.entityTypes, owner.typeName = type.name ∧
        outcome.after.contains owner = true ∧
          before.documentOf type owner none ≠ outcome.after.documentOf type owner none := by
  have afterOnCatalog := (agreeBut_setForeignKey success).catalog.trans onCatalog
  unfold Registry.Rewritten
  refine exists_congr fun type => and_congr_right fun member => and_congr_right fun typed =>
    and_congr_right fun _ => ?_
  rw [build_eq_documentOf grounded.paired grounded.orderly onCatalog member typed,
    build_eq_documentOf grounded.paired grounded.orderly afterOnCatalog member typed, ne_eq, ne_eq,
    Except.ok.injEq]

theorem rewritten_of_ne {type : EntityType} (member : type ∈ registry.entityTypes)
    {owner : EntityRef} (typed : owner.typeName = type.name)
    (differs : before.documentOf type owner none ≠ outcome.after.documentOf type owner none) :
    registry.Rewritten before outcome.after owner := by
  have agree := agreeBut_setForeignKey success
  have present : outcome.after.contains owner = true := by
    by_cases isHolder : owner = holder
    · obtain ⟨_, -, -, -, _, -, after, -⟩ := setForeignKey_eq_ok success
      rw [isHolder, after]
      exact contains_putRecord ..
    · by_contra absent
      rw [Bool.not_eq_true] at absent
      have wasAbsent := (agree.contains owner isHolder).symm.trans absent
      rw [documentOf_eq_none absent, documentOf_eq_none wasAbsent] at differs
      exact differs rfl
  exact (rewritten_setForeignKey_iff grounded onCatalog success).2
    ⟨type, member, typed, present, differs⟩

omit grounded onCatalog in
theorem job_of_setForeignKey {watch : Watch} {job : IndexJob}
    (isJob : job ∈ watch.jobsFor outcome.notice?) : job = .index job.entity none := by
  obtain ⟨-, -, -, -, -, -, -, noticed⟩ := setForeignKey_eq_ok success
  rw [noticed] at isJob
  obtain ⟨owner, rfl⟩ := Watch.job_of_done (by decide) isJob
  rfl

/-- The jobs of a foreign key that is set are for its holder and for what shows the holder then. -/
theorem indexed_setForeignKey_iff {watch : Watch}
    (watching : Watch.ofRegistry registry = .ok watch) {type : EntityType}
    (member : type ∈ registry.entityTypes) {owner : EntityRef}
    (typed : owner.typeName = type.name) :
    (∃ exclude, .index owner exclude ∈ watch.jobsFor outcome.notice?) ↔
      owner = holder ∨ registry.Shows outcome.after owner holder := by
  have afterOnCatalog := (agreeBut_setForeignKey success).catalog.trans onCatalog
  obtain ⟨-, -, -, -, -, -, -, noticed⟩ := setForeignKey_eq_ok success
  have jobs : ∀ job, job ∈ watch.jobsOn outcome.after.view (.entity holder .updated) ↔ _ :=
    fun job => Watch.mem_jobsOn_entity grounded.paired grounded.orderly watching afterOnCatalog
  rw [noticed]
  change (∃ exclude, _ ∈ watch.jobsOn outcome.after.view (.entity holder .updated)) ↔ _
  constructor
  · rintro ⟨exclude, isJob⟩
    rcases (jobs _).1 isJob with ⟨-, own⟩ | ⟨other, -, shows, ownersJob⟩
    · cases own
      exact Or.inl rfl
    · cases ownersJob
      exact Or.inr shows
  · intro concerned
    refine ⟨none, (jobs _).2 ?_⟩
    by_cases same : owner = holder
    · subst same
      exact Or.inl ⟨grounded.orderly.isSome_lookup member typed, rfl⟩
    · exact Or.inr ⟨owner, same, concerned.resolve_left same, rfl⟩

omit grounded onCatalog in
theorem joins_setForeignKey_of_ne {relation : Relation} {source entity : EntityRef}
    (sourceDiffers : source ≠ holder) (entityDiffers : entity ≠ holder) :
    outcome.after.Joins relation source entity ↔ before.Joins relation source entity := by
  have keyOf := keyOf_setForeignKey success
  have links := links_setForeignKey success
  unfold Joins
  cases relation.kind with
  | foreignKey => simp only [keyOf, sourceDiffers, false_and, if_false]
  | reverseForeignKey field => simp only [keyOf, entityDiffers, false_and, if_false]
  | manyToMany junction side =>
      unfold linksOf
      rw [links]

omit grounded onCatalog in
theorem leads_setForeignKey_of_hidden {type : EntityType} (member : type ∈ registry.entityTypes)
    {owner : EntityRef} (typed : owner.typeName = type.name) (other : owner ≠ holder)
    (hidden : ¬ registry.Shows before owner holder) {field : Field} (isField : field ∈ type.fields)
    {first rest : List Hop}
    (walked : registry.catalog.hops type.name field.path.relations = .ok (first ++ rest))
    {visited : EntityRef} (leads : before.Leads none first owner visited) :
    outcome.after.Leads none first owner visited := by
  -- The last step is taken off, since a document that hides the holder hides it along all prefixes.
  induction first using List.reverseRecOn generalizing rest visited with
  | nil => exact leads
  | append_singleton init hop ih =>
      have walkedInit : registry.catalog.hops type.name field.path.relations =
          .ok (init ++ hop :: rest) := by
        rw [walked, List.append_assoc]
        rfl
      have visitedDiffers : visited ≠ holder := by
        rintro rfl
        exact hidden (Registry.shows_of_leads member typed isField walked other leads)
      obtain ⟨middle, leadsInit, step⟩ := leads_snoc.1 leads
      have middleDiffers : middle ≠ holder := by
        rintro rfl
        exact hidden (Registry.shows_of_leads member typed isField walkedInit other leadsInit)
      obtain ⟨typedVisited, joined, passes⟩ := mem_passable_iff.1 step
      refine leads_snoc.2 ⟨middle, ih walkedInit leadsInit, mem_passable_iff.2 ⟨typedVisited, ?_,
        passes⟩⟩
      exact (joins_setForeignKey_of_ne success middleDiffers visitedDiffers).2 joined

theorem documentOf_setForeignKey_of_hidden {type : EntityType}
    (member : type ∈ registry.entityTypes) {owner : EntityRef} (typed : owner.typeName = type.name)
    (other : owner ≠ holder) (hidden : ¬ registry.Shows before owner holder)
    (hiddenAfter : ¬ registry.Shows outcome.after owner holder) :
    outcome.after.documentOf type owner none = before.documentOf type owner none := by
  have agree := agreeBut_setForeignKey success
  refine documentOf_eq_of_joins grounded onCatalog (agree.catalog.trans onCatalog) member typed
    (agree.contains owner other) ?_ ?_
  · intro first hop takes visited leads _ _ found typedFound
    refine and_congr_left' ?_
    have differs := Registry.ne_of_hidden member typed other hidden takes leads
    by_cases isHolder : found = holder
    · subst isHolder
      refine iff_of_false (fun joined => hiddenAfter ?_) (fun joined => hidden ?_)
      · obtain ⟨field, isField, rest, walked⟩ := takes
        have leadsAfter := leads_setForeignKey_of_hidden success member typed other hidden isField
          walked leads
        refine ⟨type, member, typed, first, hop, ⟨field, isField, rest, walked⟩, ?_⟩
        exact leads_snoc.2 ⟨visited, leadsAfter, mem_passable_iff.2 ⟨typedFound, joined, rfl⟩⟩
      · refine ⟨type, member, typed, first, hop, takes, ?_⟩
        exact leads_snoc.2 ⟨visited, leads, mem_passable_iff.2 ⟨typedFound, joined, rfl⟩⟩
    · exact joins_setForeignKey_of_ne success differs isHolder
  · intro field isField visited leads attr
    exact agree.attrs visited
      (Registry.end_ne_of_hidden grounded member typed other hidden isField leads) attr

/-- What is rewritten is the holder, or shows it before or afterwards. -/
theorem shows_of_rewritten {owner : EntityRef}
    (rewritten : registry.Rewritten before outcome.after owner) :
    owner = holder ∨ registry.Shows before owner holder ∨
      registry.Shows outcome.after owner holder := by
  obtain ⟨type, member, typed, -, differs⟩ :=
    (rewritten_setForeignKey_iff grounded onCatalog success).1 rewritten
  by_contra none
  obtain ⟨other, hiddenBoth⟩ := not_or.1 none
  obtain ⟨hidden, hiddenAfter⟩ := not_or.1 hiddenBoth
  have unchanged := documentOf_setForeignKey_of_hidden grounded onCatalog success member typed other
    hidden hiddenAfter
  exact differs unchanged.symm

omit grounded onCatalog in
/-- A key that was not set before, or is set to what it was, takes nothing away. -/
theorem joins_of_key_free
    (free : before.keyOf holder name = none ∨ before.keyOf holder name = target)
    (relation : Relation) (source entity : EntityRef)
    (joined : before.Joins relation source entity) :
    outcome.after.Joins relation source entity := by
  have links := links_setForeignKey success
  have keeps : ∀ other key id, before.keyOf other key = some id →
      outcome.after.keyOf other key = some id := by
    intro other key id holds
    rw [keyOf_setForeignKey success]
    split
    · next written =>
      obtain ⟨rfl, rfl⟩ := written
      rcases free with unset | same
      · rw [unset] at holds
        cases holds
      · exact same.symm.trans holds
    · exact holds
  unfold Joins at joined ⊢
  cases kind : relation.kind with
  | foreignKey =>
      rw [kind] at joined
      exact keeps _ _ _ joined
  | reverseForeignKey field =>
      rw [kind] at joined
      exact keeps _ _ _ joined
  | manyToMany junction side =>
      rw [kind] at joined
      unfold linksOf at joined ⊢
      rw [links]
      exact joined

omit grounded onCatalog in
theorem shows_of_key_free
    (free : before.keyOf holder name = none ∨ before.keyOf holder name = target) {owner : EntityRef}
    (shows : registry.Shows before owner holder) : registry.Shows outcome.after owner holder := by
  obtain ⟨type, member, typed, first, hop, takes, leads⟩ := shows
  exact ⟨type, member, typed, first, hop, takes, leads_mono (joins_of_key_free success free) leads⟩

/-- Every rewritten entity has a job just if none of them loses the holder from its sight. -/
theorem covers_setForeignKey_iff {watch : Watch}
    (watching : Watch.ofRegistry registry = .ok watch) :
    watch.Covers registry before outcome ↔
      ∀ owner, registry.Rewritten before outcome.after owner → owner ≠ holder →
        registry.Shows before owner holder → registry.Shows outcome.after owner holder := by
  refine forall_congr' fun owner => forall_congr' fun rewritten => ?_
  obtain ⟨type, member, typed, -, -⟩ := id rewritten
  rw [indexed_setForeignKey_iff grounded onCatalog success watching member typed]
  constructor
  · rintro concerned other -
    exact concerned.resolve_left other
  · intro keeps
    rcases shows_of_rewritten grounded onCatalog success rewritten with same | shows | showsAfter
    · exact Or.inl same
    · by_cases same : owner = holder
      · exact Or.inl same
      · exact Or.inr (keeps same shows)
    · exact Or.inr showsAfter

theorem covers_of_key_free {watch : Watch} (watching : Watch.ofRegistry registry = .ok watch)
    (free : before.keyOf holder name = none ∨ before.keyOf holder name = target) :
    watch.Covers registry before outcome :=
  (covers_setForeignKey_iff grounded onCatalog success watching).2 fun _ _ _ =>
    shows_of_key_free success free

theorem covers_of_spares {watch : Watch} (watching : Watch.ofRegistry registry = .ok watch)
    (spares : (Write.setForeignKey holder name target).Spares registry) :
    watch.Covers registry before outcome := by
  intro owner rewritten
  by_contra noJob
  have tracked := tracked_setForeignKey grounded watching onCatalog spares success
  obtain ⟨type, member, typed, -, differs⟩ :=
    (rewritten_setForeignKey_iff grounded onCatalog success).1 rewritten
  refine differs (tracked.quiet type member owner typed ?_ none).symm
  rintro job isJob rfl
  have indexes := job_of_setForeignKey success isJob
  exact noJob ⟨none, indexes ▸ isJob⟩

end KeyMoves
end EntitySearch
