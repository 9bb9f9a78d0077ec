import EntitySearch.Proofs.Store.References
import EntitySearch.Proofs.Store.Walk

/-!
# Taking an entity out

A deletion takes one entity out of everything that a store shows and leaves the rest as it was:
relations lead where they led, in the same order, only past the deleted entity; no other entity
loses an attribute or its place among the identifiers; and nothing leads from the deleted entity.

One deletion is told over any store of a catalog whose relations can be walked back and whose
junctions belong to their relations (`reached_without`).  From it follows what deletions one after
the other do (`Sound.reached_deletions`), and that no later write brings a deleted entity back
(`deleted_stays_out`).

Main statement: `deletion_takes_out_only`.
-/
set_option autoImplicit false
namespace EntitySearch
namespace Store

variable {store : Store}

theorem ids_without (deleted : EntityRef) (type : TypeName) :
    (store.without deleted).ids type =
      (store.ids type).filter fun id => EntityRef.mk type id ≠ deleted := by
  refine (ids_ascending type).eq_of_mem_iff ((ids_ascending type).filter _) fun id => ?_
  rw [mem_ids, contains_without, List.mem_filter, mem_ids, decide_eq_true_eq]

section Without
variable (paired : store.catalog.Paired) (owned : store.catalog.JunctionsOwned)
  {deleted source : EntityRef} {relation : Relation}
  (stored : store.catalog.relation? source.typeName relation.name = some relation)
include paired owned stored

theorem reached_without (other : source ≠ deleted) :
    (store.without deleted).reached relation source =
      (store.reached relation source).filter fun entity => entity ≠ deleted := by
  apply eq_of_ascending
  · exact reached_ascending ..
  · exact (reached_ascending ..).filter _
  · intro entity
    rw [List.mem_filter, mem_reached_iff, mem_reached_iff, decide_eq_true_eq, and_assoc]
    refine and_congr_right fun typed => ?_
    rw [joins_without paired owned stored typed]
    simp [other]

theorem reached_without_self (isDeleted : source = deleted) :
    (store.without deleted).reached relation source = [] := by
  refine List.eq_nil_iff_forall_not_mem.2 fun entity member => ?_
  obtain ⟨typed, joined⟩ := mem_reached_iff.1 member
  exact ((joins_without paired owned stored typed).1 joined).2.1 isDeleted

end Without

theorem perform_delete (store : Store) (entity : EntityRef) :
    store.perform (.delete entity) =
      if store.contains entity then store.without entity else store := by
  have operation : (Write.delete entity).operation store = store.delete entity := rfl
  rw [perform, operation, delete]
  cases store.contains entity <;> rfl

section Runs
variable {catalog : Catalog} (paired : catalog.Paired) (owned : catalog.JunctionsOwned)
include paired owned

theorem Sound.reached_delete (sound : store.Sound catalog) {deleted source : EntityRef}
    {relation : Relation} (other : source ≠ deleted)
    (stored : catalog.relation? source.typeName relation.name = some relation) :
    (store.perform (.delete deleted)).reached relation source =
      (store.reached relation source).filter fun entity => entity ≠ deleted := by
  rw [← sound.onCatalog] at paired owned stored
  rw [perform_delete]
  split
  · exact reached_without paired owned stored other
  · next absent =>
    -- A deletion fails if its entity is not stored, and then the entity is in no answer anyway.
    refine (List.filter_eq_self.2 fun entity member => decide_eq_true ?_).symm
    rintro rfl
    obtain ⟨typed, joined⟩ := mem_reached_iff.1 member
    exact absent (sound.closed.joins paired owned stored typed joined).2

theorem Sound.reached_deletions (sound : store.Sound catalog) {source : EntityRef}
    {relation : Relation} (gone : List EntityRef) (kept : source ∉ gone)
    (stored : catalog.relation? source.typeName relation.name = some relation) :
    (store.run (gone.map Write.delete)).reached relation source =
      (store.reached relation source).filter fun entity => entity ∉ gone := by
  induction gone generalizing store with
  | nil => exact (List.filter_eq_self.2 fun _ _ => by simp).symm
  | cons deleted rest ih =>
      obtain ⟨other, later⟩ := List.ne_and_not_mem_of_not_mem_cons kept
      change ((store.perform (.delete deleted)).run _).reached relation source = _
      rw [ih (sound.perform paired owned _) later, sound.reached_delete paired owned other stored,
        List.filter_filter]
      refine List.filter_congr fun entity _ => ?_
      simp [Bool.and_comm]

end Runs

/-- Whatever is written after a deletion, no relation leads to or from the deleted entity. -/
theorem deleted_stays_out {catalog : Catalog} {names : List String}
    (declared : catalog.Declared names) (distinctNames : names.Nodup) (writes : List Write)
    {deleted : EntityRef} {outcome : Outcome Unit}
    (success : ((empty catalog).run writes).delete deleted = .ok outcome) (later : List Write)
    {source : EntityRef} {name : String} {relation : Relation}
    (stored : catalog.relation? source.typeName name = some relation) :
    ∃ found, (outcome.after.run later).related source name = .ok found ∧ deleted ∉ found ∧
      (source = deleted → found = []) := by
  have paired := declared.paired
  have owned := declared.junctionsOwned distinctNames
  have begun := (sound_empty catalog).run paired owned writes
  have intact := (intact_empty catalog).run paired owned (sound_empty catalog) writes
  have deletion : (Write.delete deleted).operation ((empty catalog).run writes) = .ok outcome :=
    success
  have sound := (begun.of_operation paired owned deletion).run paired owned later
  obtain ⟨retired, -⟩ := intact.retired success later
  obtain ⟨rfl, -⟩ := paired _ _ _ stored
  rw [← sound.onCatalog] at paired owned stored
  -- Relations join stored entities only, and the deleted one is not stored any more.
  have joins : ∀ entity ∈ (outcome.after.run later).reached relation source,
      source ≠ deleted ∧ entity ≠ deleted := by
    intro entity member
    obtain ⟨typed, joined⟩ := mem_reached_iff.1 member
    obtain ⟨isSource, isEntity⟩ := sound.closed.joins paired owned stored typed joined
    exact ⟨fun same => retired _ isSource (congrArg EntityRef.id same),
      fun same => retired _ isEntity (congrArg EntityRef.id same)⟩
  refine ⟨_, related_eq_reached stored, fun member => (joins deleted member).2 rfl, ?_⟩
  intro isDeleted
  exact List.eq_nil_iff_forall_not_mem.2 fun entity member => (joins entity member).1 isDeleted

/-- Whatever was written to an empty store over a declared catalog whose junctions got distinct
names: if an entity is deleted, relations lead from every other entity to where they led before, in
the same order, less the deleted one; every other entity keeps its attributes and its place among
the identifiers of its type; and no relation leads anywhere from the deleted entity. -/
theorem deletion_takes_out_only {catalog : Catalog} {names : List String}
    (declared : catalog.Declared names) (distinctNames : names.Nodup) (writes : List Write)
    {deleted : EntityRef} {outcome : Outcome Unit}
    (success : ((empty catalog).run writes).delete deleted = .ok outcome) :
    let before := (empty catalog).run writes
    (∀ source, source ≠ deleted → ∀ name relation,
      catalog.relation? source.typeName name = some relation →
        ∃ found, before.related source name = .ok found ∧
          outcome.after.related source name =
            .ok (found.filter fun entity => entity ≠ deleted)) ∧
      (∀ entity, entity ≠ deleted → ∀ attr,
        outcome.after.attr? entity attr = before.attr? entity attr) ∧
      (∀ type, outcome.after.ids type =
        (before.ids type).filter fun id => EntityRef.mk type id ≠ deleted) ∧
      ∀ name relation, catalog.relation? deleted.typeName name = some relation →
        outcome.after.related deleted name = .ok [] := by
  intro before
  have onCatalog : before.catalog = catalog := (grows_run (empty catalog) writes).catalog
  have paired := declared.paired
  have owned := declared.junctionsOwned distinctNames
  rw [← onCatalog] at paired owned
  have agree : AgreeBut deleted before (before.without deleted) := agreeBut_without deleted
  obtain ⟨-, after, -⟩ := delete_eq_ok success
  rw [after]
  refine ⟨fun source other name relation stored => ?_, agree.attrs, ids_without deleted,
    fun name relation stored => ?_⟩
  · rw [← onCatalog] at stored
    obtain ⟨rfl, -⟩ := paired _ _ _ stored
    refine ⟨_, related_eq_reached stored, ?_⟩
    rw [related_eq_reached (agree.catalog ▸ stored), reached_without paired owned stored other]
  · rw [← onCatalog] at stored
    obtain ⟨rfl, -⟩ := paired _ _ _ stored
    rw [related_eq_reached (agree.catalog ▸ stored), reached_without_self paired owned stored rfl]

end Store

namespace Library

/-- A shelf that is part of another one goes.  The other one, which is part of itself, keeps itself
as its only part; the book on the shelf loses its place and keeps its author. -/
theorem inner_shelf_taken_out :
    let store := (Store.empty catalog).run furnish
    store.related ⟨shelf, 1⟩ "parts" = .ok [⟨shelf, 1⟩, ⟨shelf, 2⟩] ∧
      store.related ⟨book, 3⟩ "place" = .ok [⟨shelf, 2⟩] ∧
      ∃ outcome, store.delete ⟨shelf, 2⟩ = .ok outcome ∧
        outcome.after.related ⟨shelf, 1⟩ "parts" = .ok [⟨shelf, 1⟩] ∧
        outcome.after.related ⟨book, 3⟩ "place" = .ok [] ∧
        outcome.after.related ⟨book, 3⟩ "authors" = .ok [⟨author, 4⟩] ∧
        outcome.after.attr? ⟨book, 3⟩ "title" = some (.text "Logic") ∧
        outcome.after.ids shelf = [1] ∧ outcome.after.related ⟨shelf, 2⟩ "books" = .ok [] := by
  intro store
  have parts : store.related ⟨shelf, 1⟩ "parts" = .ok [⟨shelf, 1⟩, ⟨shelf, 2⟩] := by decide +kernel
  have place : store.related ⟨book, 3⟩ "place" = .ok [⟨shelf, 2⟩] := by decide +kernel
  have authors : store.related ⟨book, 3⟩ "authors" = .ok [⟨author, 4⟩] := by decide +kernel
  obtain ⟨outcome, success⟩ : ∃ outcome, store.delete ⟨shelf, 2⟩ = .ok outcome :=
    Store.exists_delete (by decide +kernel)
  obtain ⟨others, attrs, ids, itself⟩ :=
    Store.deletion_takes_out_only declared (by decide) furnish success
  have after : ∀ source name found, source ≠ ⟨shelf, 2⟩ → store.related source name = .ok found →
      outcome.after.related source name = .ok (found.filter fun entity => entity ≠ ⟨shelf, 2⟩) := by
    intro source name found other led
    obtain ⟨relation, looked, -⟩ := map_eq_ok led
    obtain ⟨_, before, after⟩ := others source other name relation (Store.relation_eq_ok looked)
    cases before.symm.trans led
    exact after
  refine ⟨parts, place, outcome, success, ?_, ?_, ?_, ?_, ?_, ?_⟩
  · exact after _ _ _ (by decide) parts
  · exact after _ _ _ (by decide) place
  · exact after _ _ _ (by decide) authors
  · exact (attrs ⟨book, 3⟩ (by decide) "title").trans rfl
  · exact (ids shelf).trans (by decide +kernel)
  · exact itself _ ⟨"books", book, .reverseForeignKey "place", "place"⟩ (by decide +kernel)

end Library
end EntitySearch
