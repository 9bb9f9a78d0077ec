import EntitySearch.Proofs.Index.Concerned
import EntitySearch.Proofs.Index.Tracking
import EntitySearch.Proofs.Store.LinkEvents

/-!
# Links from either end

A link can be made or undone through either of the two accessors of its relation.  Whichever is
taken, on either side of the junction, the store gets the same links, observers are told of the same
link or of none, and a watch enqueues the same jobs, which pass over the same link.

Main statements: `perm_jobsOn_link`, `links_from_either_end`.
-/
set_option autoImplicit false
namespace EntitySearch

@[simp] theorem Side.other_other (side : Side) : side.other.other = side := by
  cases side <;> rfl

namespace Watch
variable {view : StoreView} {change : LinkChange} {side : Side} {anchor other : EntityRef}

theorem linkExclusion_other (junction : String) :
    linkExclusion junction change side.other other [anchor] =
      linkExclusion junction change side anchor [other] := by
  cases change with
  | added => rfl
  | removed => simp [linkExclusion, Link.ofSide_other]

theorem mem_ownersOfLinks_other {owner : EntityRef} {watched : WatchedJunction} :
    .ok owner ∈ ownersOfLinks view side.other other [anchor] watched ↔
      .ok owner ∈ ownersOfLinks view side anchor [other] watched := by
  -- The two ends of the link are visited in the other order, each still from its own side.
  have sameEnds : ∀ endSide found,
      ((endSide = side.other ∧ found = other) ∨ (endSide = side.other.other ∧ found ∈ [anchor])) ↔
        ((endSide = side ∧ found = anchor) ∨ (endSide = side.other ∧ found ∈ [other])) := by
    intro endSide found
    rw [Side.other_other, List.mem_singleton, List.mem_singleton]
    exact or_comm
  simp only [mem_ownersOfLinks, sameEnds]

theorem nodup_jobsOn_link (watch : Watch) (view : StoreView) (junction : String)
    (change : LinkChange) (side : Side) (anchor : EntityRef) (linked : List EntityRef) :
    (watch.jobsOn view (.link junction change side anchor linked)).Nodup :=
  (nodup_jobs_reactions (fun _ => rfl) _).of_map

theorem perm_jobsOn_link (watch : Watch) (view : StoreView) (junction : String)
    (change : LinkChange) (side : Side) (anchor other : EntityRef) :
    (watch.jobsOn view (.link junction change side anchor [other])).Perm
      (watch.jobsOn view (.link junction change side.other other [anchor])) := by
  refine (List.perm_ext_iff_of_nodup (watch.nodup_jobsOn_link ..)
    (watch.nodup_jobsOn_link ..)).2 fun job => ?_
  simp only [mem_jobsOn, onChange, onLinks, mem_reactions, List.mem_flatMap, linkExclusion_other,
    mem_ownersOfLinks_other]

end Watch

/-! ## Writes -/

/-- Two writes differ in nothing but the end that a link was changed from. -/
structure Outcome.Agrees (watch : Watch) (one other : Outcome Unit) : Prop where
  after : one.after = other.after
  told : (one.notice?.map fun notice => (notice.event.links, notice.seen)) =
    other.notice?.map fun notice => (notice.event.links, notice.seen)
  jobs : (watch.jobsFor one.notice?).Perm (watch.jobsFor other.notice?)

theorem Outcome.agrees_of_ends {one other : Outcome Unit} {unchanged : Prop} [Decidable unchanged]
    {junction : String} {change : LinkChange} {side : Side} {x y : EntityRef} {seen : Store}
    (after : one.after = other.after)
    (told : one.notice? =
      if unchanged then none else some ⟨.link junction change side x [y], seen⟩)
    (toldOther : other.notice? =
      if unchanged then none else some ⟨.link junction change side.other y [x], seen⟩)
    (watch : Watch) : one.Agrees watch other := by
  by_cases nothing : unchanged
  · rw [if_pos nothing] at told toldOther
    refine ⟨after, ?_, ?_⟩
    · rw [told, toldOther]
    · rw [told, toldOther]
  · rw [if_neg nothing] at told toldOther
    refine ⟨after, ?_, ?_⟩
    · rw [told, toldOther]
      simp [ChangeEvent.links, Link.ofSide_other]
    · rw [told, toldOther]
      exact watch.perm_jobsOn_link ..

namespace Store
variable {store : Store} {x y : EntityRef} {name junction : String} {side : Side}
  {relation : Relation}

theorem unlinkedOf_singleton {anchor id : Nat} :
    store.unlinkedOf junction side anchor [id] =
      if Link.ofSide side anchor id ∈ store.linksOf junction then [] else [id] := by
  simp only [unlinkedOf, mem_linksOf, List.filter_singleton]
  cases (store.linkSet junction).contains (Link.ofSide side anchor id) <;> rfl

theorem linkedOf_singleton {anchor id : Nat} :
    store.linkedOf junction side anchor [id] =
      if Link.ofSide side anchor id ∈ store.linksOf junction then [id] else [] := by
  simp only [linkedOf, mem_linksOf, List.filter_singleton]
  cases (store.linkSet junction).contains (Link.ofSide side anchor id) <;> rfl

section OneTarget
variable (stored : store.catalog.relation? x.typeName name = some relation)
  (through : relation.kind = .manyToMany junction side) (typed : y.typeName = relation.target)
include stored through typed

theorem link_one (present : store.contains x = true) (otherPresent : store.contains y = true) :
    ∃ outcome, store.link x name [y.id] = .ok outcome ∧
      let link := Link.ofSide side x.id y.id
      outcome.after = { store with
        links := store.links.insert junction (if link ∈ store.linksOf junction
          then store.linkSet junction else (store.linkSet junction).add link) } ∧
      outcome.notice? = if link ∈ store.linksOf junction then none else
        some ⟨.link junction .added side x [y], outcome.after⟩ := by
  have targetPresent : ∀ id ∈ [y.id], store.contains ⟨relation.target, id⟩ = true := by
    simpa [← typed] using otherPresent
  obtain ⟨outcome, success⟩ := exists_link stored through present [y.id] targetPresent
  obtain ⟨_, _, _, found, kind, -, -, after, noticed⟩ := link_eq_ok success
  cases stored.symm.trans found
  cases through.symm.trans kind
  refine ⟨outcome, success, ?_⟩
  rw [unlinkedOf_singleton] at after noticed
  by_cases linked : Link.ofSide side x.id y.id ∈ store.linksOf junction
  · simp only [if_pos linked] at after noticed ⊢
    exact ⟨after, noticed⟩
  · simp only [if_neg linked, List.map_singleton, ← typed] at after noticed ⊢
    exact ⟨after, noticed⟩

theorem unlink_one :
    ∃ outcome, store.unlink x name [y.id] = .ok outcome ∧
      let link := Link.ofSide side x.id y.id
      outcome.after = (if link ∉ store.linksOf junction then store else
        { store with
          links := store.links.insert junction ((store.linkSet junction).erase link) }) ∧
      outcome.notice? = if link ∉ store.linksOf junction then none else
        some ⟨.link junction .removed side x [y], store⟩ := by
  obtain ⟨outcome, success⟩ := exists_unlink stored through [y.id]
  obtain ⟨_, _, _, found, kind, told⟩ := unlink_eq_ok success
  cases stored.symm.trans found
  cases through.symm.trans kind
  refine ⟨outcome, success, ?_⟩
  rw [linkedOf_singleton] at told
  by_cases linked : Link.ofSide side x.id y.id ∈ store.linksOf junction
  · simp only [if_pos linked, List.map_singleton, ← typed] at told
    simp only [linked, not_true_eq_false, if_false]
    rcases told with ⟨nothing, -⟩ | ⟨-, told⟩
    · cases nothing
    · exact told
  · simp only [if_neg linked] at told
    simp only [linked, not_false_eq_true, if_true]
    rcases told with ⟨-, told⟩ | ⟨some, -⟩
    · exact told
    · exact absurd rfl some

end OneTarget
end Store

/-- Over any declared catalog, whatever names its junctions got and whatever is stored: a link can
be made from either of its ends, if both are stored, and undone from either, whatever is stored.
It makes no difference which, also where both ends are of one model; the jobs for a link that is
undone pass over that link. -/
theorem Registry.links_from_either_end {catalog : Catalog} {names : List String}
    (declared : catalog.Declared names) {types : List EntityType} {registry : Registry}
    (registered : Registry.ofTypes catalog types = .ok registry) {store : Store}
    (onCatalog : store.catalog = catalog) :
    ∃ watch, Watch.ofRegistry registry = .ok watch ∧
      ∀ (x y : EntityRef) name relation junction side,
        catalog.relation? x.typeName name = some relation →
        relation.kind = .manyToMany junction side → y.typeName = relation.target →
        (store.contains x = true → store.contains y = true →
          ∃ one other, store.link x name [y.id] = .ok one ∧
            store.link y relation.reverse [x.id] = .ok other ∧ one.Agrees watch other) ∧
        ∃ one other, store.unlink x name [y.id] = .ok one ∧
          store.unlink y relation.reverse [x.id] = .ok other ∧ one.Agrees watch other ∧
          ∀ job ∈ watch.jobsFor one.notice?, ∃ owner,
            job = .index owner (some (.links junction [Link.ofSide side x.id y.id])) := by
  obtain ⟨watch, watching⟩ := Watch.exists_ofRegistry (Registry.orderly_of_ofTypes registered).1
  refine ⟨watch, watching, ?_⟩
  intro x y name relation junction side stored through typed
  subst onCatalog
  obtain ⟨-, -, back⟩ := declared.paired _ _ _ stored
  rw [← typed] at back
  have backThrough : (relation.dual x.typeName).kind = .manyToMany junction side.other := by
    simp [Relation.dual, RelationKind.dual, through]
  refine ⟨fun present otherPresent => ?_, ?_⟩
  · obtain ⟨one, success, after, told⟩ :=
      Store.link_one stored through typed present otherPresent
    obtain ⟨other, successOther, afterOther, toldOther⟩ :=
      Store.link_one back backThrough rfl otherPresent present
    rw [Link.ofSide_other] at afterOther toldOther
    have same : one.after = other.after := after.trans afterOther.symm
    rw [← same] at toldOther
    exact ⟨one, other, success, successOther, Outcome.agrees_of_ends same told toldOther watch⟩
  · obtain ⟨one, success, after, told⟩ := Store.unlink_one stored through typed
    obtain ⟨other, successOther, afterOther, toldOther⟩ := Store.unlink_one back backThrough rfl
    rw [Link.ofSide_other] at afterOther toldOther
    have same : one.after = other.after := after.trans afterOther.symm
    refine ⟨one, other, success, successOther,
      Outcome.agrees_of_ends same told toldOther watch, fun job isJob => ?_⟩
    rw [told] at isJob
    split at isJob
    · cases isJob
    · exact Watch.exists_of_mem_jobsOn_link isJob

namespace Library

def saga : Catalog :=
  let declared := do
    let catalog ← Catalog.empty.defineModel book [("title", .text)]
    catalog.manyToMany book "sequels" book "prequels"
  (declared.map Prod.snd).toOption.getD .empty

def sequence : String := Catalog.junctionName book "sequels"

theorem saga_declared : saga.Declared [sequence] :=
  (Catalog.Declared.empty.model book [("title", .text)] rfl).manyToMany book "sequels" book
    "prequels" rfl

def sagaTypes : List EntityType :=
  [{ name := book
     fields := [field "sequels.title" ["sequels"] "title"]
     fields_ne_nil := by decide
     names_nodup := by decide }]

def sagaRegistry : Registry := (Registry.ofTypes saga sagaTypes).toOption.getD { catalog := saga }

theorem saga_registered : Registry.ofTypes saga sagaTypes = .ok sagaRegistry := rfl

def continued : List Write :=
  [.insert book [("title", .text "Logic")], .insert book [("title", .text "More logic")],
    .link ⟨book, 1⟩ "sequels" [2]]

/-- A book loses its sequel, or the sequel loses its book. -/
theorem sequel_lost_from_either_end :
    let store := (Store.empty saga).run continued
    ∃ watch one other, Watch.ofRegistry sagaRegistry = .ok watch ∧
      store.unlink ⟨book, 1⟩ "sequels" [2] = .ok one ∧
      store.unlink ⟨book, 2⟩ "prequels" [1] = .ok other ∧ one.Agrees watch other ∧
      .index ⟨book, 1⟩ (some (.links sequence [⟨1, 2⟩])) ∈ watch.jobsFor other.notice? := by
  intro store
  have onCatalog : store.catalog = saga := Store.catalog_run saga continued
  obtain ⟨watch, watching, either⟩ :=
    Registry.links_from_either_end saga_declared saga_registered onCatalog
  obtain ⟨-, one, other, success, successOther, agrees, -⟩ :=
    either ⟨book, 1⟩ ⟨book, 2⟩ "sequels" ⟨"sequels", book, .manyToMany sequence .left, "prequels"⟩
      sequence .left rfl rfl rfl
  refine ⟨watch, one, other, watching, success, successOther, agrees, agrees.jobs.subset ?_⟩
  have jobs : (Watch.ofRegistry sagaRegistry >>= fun watch =>
      (store.unlink ⟨book, 1⟩ "sequels" [2]).map fun outcome => watch.jobsFor outcome.notice?) =
        .ok [.index ⟨book, 1⟩ (some (.links sequence [⟨1, 2⟩]))] := by decide +kernel
  obtain ⟨_, started, jobs⟩ := bind_eq_ok jobs
  obtain rfl := Except.ok.inj (watching.symm.trans started)
  obtain ⟨found, foundSuccess, told⟩ := map_eq_ok jobs
  obtain rfl := Except.ok.inj (success.symm.trans foundSuccess)
  rw [told]
  exact List.mem_singleton.2 rfl

end Library
end EntitySearch
