import EntitySearch.Proofs.Index.KeyMoves
import EntitySearch.Proofs.Service.Following

/-!
# Services and foreign keys that are moved or cleared

When a foreign key is set, a service stays coherent just if every entity whose document changes has
a job, and that is so just if none of these entities loses the holder of the key from its sight.

Main statement: `covers_after_run_iff`.
-/
set_option autoImplicit false
namespace EntitySearch
namespace Service

variable {registry : Registry} {service : Service}

theorem coherent_setForeignKey_iff (grounded : registry.Grounded) (prompt : service.Prompt registry)
    (onCatalog : service.store.catalog = registry.catalog) (coherent : service.Coherent)
    {holder : EntityRef} {name : String} {target : Option Nat} {outcome : Outcome Unit}
    (success : service.store.setForeignKey holder name target = .ok outcome) :
    (service.write (·.setForeignKey holder name target)).2.Coherent ↔
      service.watch.Covers registry service.store outcome := by
  have afterOnCatalog := (Store.agreeBut_setForeignKey success).catalog.trans onCatalog
  obtain ⟨-, -, -, -, -, -, -, noticed⟩ := Store.setForeignKey_eq_ok success
  obtain ⟨promptAfter, sameStore, settles⟩ := settles_follow grounded afterOnCatalog prompt noticed
  rw [Coherent, indexer, prompt.seeing, coherentWith_iff grounded onCatalog] at coherent
  have written : (service.write (·.setForeignKey holder name target)).2 =
      service.follow outcome := by
    simp [write, success]
  rw [written, Coherent, indexer, promptAfter.seeing, sameStore,
    coherentWith_iff grounded afterOnCatalog]
  have indexes : ∀ job ∈ service.watch.jobsFor outcome.notice?,
      job = .index job.entity none :=
    fun job isJob => job_of_setForeignKey success isJob
  unfold Watch.Covers
  rw [noticed] at indexes ⊢
  constructor
  · intro mirrors owner rewritten
    obtain ⟨type, member, typed, -, differs⟩ :=
      (rewritten_setForeignKey_iff grounded onCatalog success).1 rewritten
    -- Without a job, what is held is still the document that the entity had before.
    by_contra noJob
    have others : ∀ job ∈ service.watch.jobsFor (some ⟨.entity holder .updated, outcome.after⟩),
        job.entity ≠ owner := by
      rintro job isJob rfl
      exact noJob ⟨none, indexes job isJob ▸ isJob⟩
    have unchanged := settles.held member typed
      (fun job isJob isOwner => absurd isOwner (others job isJob)) fun _ => rfl
    rw [mirrors type member owner typed, coherent type member owner typed] at unchanged
    exact differs unchanged.symm
  · intro indexed type member owner typed
    refine settles.held member typed ?_ ?_
    · rintro job isJob rfl
      rw [indexes job isJob]
      rfl
    · intro others
      rw [coherent type member owner typed]
      by_contra differs
      obtain ⟨exclude, isJob⟩ := indexed owner
        (rewritten_of_ne grounded onCatalog success member typed differs)
      exact others _ isJob rfl

theorem Following.follow_first_key (grounded : registry.Grounded)
    (following : service.Following registry) {holder : EntityRef} {name : String}
    {target : Option Nat} {outcome : Outcome Unit}
    (success : service.store.setForeignKey holder name target = .ok outcome)
    (unset : service.store.keyOf holder name = none) :
    (service.follow outcome).Following registry := by
  have onCatalog := following.sound.onCatalog
  have performed : (Write.setForeignKey holder name target).operation service.store =
      .ok outcome := success
  have sound := following.sound.of_operation grounded.paired grounded.owned performed
  obtain ⟨-, -, -, -, -, -, -, noticed⟩ := Store.setForeignKey_eq_ok success
  obtain ⟨prompt, sameStore, -⟩ := settles_follow grounded sound.onCatalog following.prompt noticed
  have covers :=
    covers_of_key_free grounded onCatalog success following.prompt.watching (.inl unset)
  have coherent := (coherent_setForeignKey_iff grounded following.prompt onCatalog
    (following.coherent grounded) success).2 covers
  rw [Service.write, success, Coherent, indexer, prompt.seeing, sameStore] at coherent
  refine ⟨prompt, sameStore ▸ sound, ?_⟩
  rw [sameStore]
  exact (coherentWith_iff grounded sound.onCatalog _).1 coherent

/-- In every store that writes lead to, a foreign key that is set, moved or cleared has all
rewritten entities indexed just if none of them loses the holder from its sight, which none does
where the key was not set before, is not moved, or no field steps back along it; and just then does
a coherent index stay coherent. -/
theorem covers_after_run_iff {catalog : Catalog} {names : List String} {types : List EntityType}
    {registry : Registry} (declared : catalog.Declared names) (distinctNames : names.Nodup)
    (registered : Registry.ofTypes catalog types = .ok registry) {watch : Watch}
    (watching : Watch.ofRegistry registry = .ok watch) (writes : List Write) {holder : EntityRef}
    {name : String} {target : Option Nat} {outcome : Outcome Unit}
    (success : ((Store.empty catalog).run writes).setForeignKey holder name target = .ok outcome) :
    let before := (Store.empty catalog).run writes
    (watch.Covers registry before outcome ↔
      ∀ owner, registry.Rewritten before outcome.after owner → owner ≠ holder →
        registry.Shows before owner holder → registry.Shows outcome.after owner holder) ∧
    (before.keyOf holder name = none ∨ before.keyOf holder name = target ∨
        (Write.setForeignKey holder name target).Spares registry →
      watch.Covers registry before outcome) ∧
    ∀ service : Service, service.Prompt registry → service.store = before → service.Coherent →
      ((service.write (·.setForeignKey holder name target)).2.Coherent ↔
        watch.Covers registry before outcome) := by
  intro before
  obtain ⟨grounded, onCatalog⟩ := Registry.grounded_of_ofTypes declared distinctNames registered
  have sound : before.Sound registry.catalog := by
    rw [onCatalog]
    exact (Store.sound_empty catalog).run declared.paired (declared.junctionsOwned distinctNames)
      writes
  refine ⟨covers_setForeignKey_iff grounded sound.onCatalog success watching, ?_, ?_⟩
  · rintro (unset | same | spares)
    · exact covers_of_key_free grounded sound.onCatalog success watching (Or.inl unset)
    · exact covers_of_key_free grounded sound.onCatalog success watching (Or.inr same)
    · exact covers_of_spares grounded sound.onCatalog success watching spares
  · intro service prompt same coherent
    have sameWatch : service.watch = watch :=
      Except.ok.inj (prompt.watching.symm.trans watching)
    rw [← sameWatch, ← same]
    exact coherent_setForeignKey_iff grounded prompt (same ▸ sound.onCatalog) coherent
      (same ▸ success)

/-- A shelf that becomes part of another one is seen from there. -/
theorem covers_when_part_placed :
    let before := (Store.empty Library.catalog).run
      [.insert Library.shelf [("code", .text "A")], .insert Library.shelf [("code", .text "B")]]
    ∃ watch outcome, Watch.ofRegistry Library.registry = .ok watch ∧
      before.setForeignKey ⟨Library.shelf, 2⟩ "whole" (some 1) = .ok outcome ∧
        watch.Covers Library.registry before outcome := by
  intro before
  obtain ⟨watch, watching⟩ : ∃ watch, Watch.ofRegistry Library.registry = .ok watch := ⟨_, rfl⟩
  obtain ⟨outcome, placed⟩ : ∃ outcome,
      before.setForeignKey ⟨Library.shelf, 2⟩ "whole" (some 1) = .ok outcome := ⟨_, rfl⟩
  have covered := covers_after_run_iff Library.declared (by decide) Library.registered watching _
    placed
  exact ⟨watch, outcome, watching, placed, covered.2.1 (Or.inl (by decide +kernel))⟩

/-- A shelf that is no part of another one any more is still found there. -/
theorem not_covers_when_part_taken :
    let before := (Store.empty Library.catalog).run
      [.insert Library.shelf [("code", .text "A")], .insert Library.shelf [("code", .text "B")],
        .setForeignKey ⟨Library.shelf, 2⟩ "whole" (some 1)]
    ∃ watch outcome, Watch.ofRegistry Library.registry = .ok watch ∧
      before.setForeignKey ⟨Library.shelf, 2⟩ "whole" none = .ok outcome ∧
        ¬ watch.Covers Library.registry before outcome := by
  refine ⟨_, _, rfl, rfl, fun covers => ?_⟩
  obtain ⟨exclude, isJob⟩ := covers ⟨Library.shelf, 1⟩
    ⟨Library.registry.entityTypes[1], List.getElem_mem _, rfl, by decide +kernel,
      by decide +kernel⟩
  revert isJob
  rw [show Watch.jobsFor _ _ = [.index ⟨Library.shelf, 2⟩ none] by decide +kernel]
  simp

end Service
end EntitySearch
