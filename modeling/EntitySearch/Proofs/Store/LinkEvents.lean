import EntitySearch.Proofs.Store.References

/-!
# What observers are told of links

A write to a junction tells observers of the links that it adds or removes, in one event, and of
nothing if it changes nothing.  Adding lists every new link once, however often a target is named.
Removing lists a link as often as its target is named, so the list is exact just if no target that
was linked is named twice.

Main statement: `link_events_exact_iff`.
-/
set_option autoImplicit false
namespace EntitySearch

theorem Link.ofSide_injective (side : Side) (anchor : Nat) :
    Function.Injective (Link.ofSide side anchor) := by
  intro a b same
  cases side with
  | left => exact congrArg Link.right same
  | right => exact congrArg Link.left same

def ChangeEvent.links : ChangeEvent → List Link
  | .entity .. => []
  | .link _ _ side anchor linked => linked.map fun other => Link.ofSide side anchor.id other.id

theorem ChangeEvent.links_of_ids (junction : String) (change : LinkChange) (side : Side)
    (anchor : EntityRef) (target : TypeName) (ids : List Nat) :
    (ChangeEvent.link junction change side anchor (ids.map (EntityRef.mk target))).links =
      ids.map (Link.ofSide side anchor.id) := by
  simp [links]

namespace Store

def linksBeyond (store other : Store) (junction : String) : List Link :=
  (store.linksOf junction).filter fun link => link ∉ other.linksOf junction

/-- A write through an accessor on one side of a junction changed some links, and observers were
told of just these, in one event of the anchor, if there are any. -/
structure TellsLinks (junction : String) (change : LinkChange) (side : Side) (anchor : EntityRef)
    (target : TypeName) (changed : List Link) (notice? : Option Notice) : Prop where
  silent : notice? = none ↔ changed = []
  told : ∀ notice ∈ notice?, ∃ linked, notice.event = .link junction change side anchor linked ∧
    (∀ other ∈ linked, other.typeName = target) ∧
      ∀ link, link ∈ notice.event.links ↔ link ∈ changed

/-- Every changed link is listed once, and nothing else is. -/
def ListsOnce (changed : List Link) (notice? : Option Notice) : Prop :=
  ∀ notice ∈ notice?, notice.event.links.Perm changed

variable {store other : Store} {junction : String}

@[simp] theorem mem_linksBeyond {link : Link} :
    link ∈ store.linksBeyond other junction ↔
      link ∈ store.linksOf junction ∧ link ∉ other.linksOf junction := by
  simp [linksBeyond]

theorem linksBeyond_eq_nil :
    store.linksBeyond other junction = [] ↔
      ∀ link ∈ store.linksOf junction, link ∈ other.linksOf junction := by
  simp [linksBeyond, List.filter_eq_nil_iff]

theorem nodup_linksOf (store : Store) (junction : String) : (store.linksOf junction).Nodup := by
  refine (linksOf_ascending junction).imp fun {a b} below same => ?_
  have self : compare b b = .eq := Std.ReflCmp.compare_self
  rw [same, self] at below
  cases below

theorem nodup_linksBeyond (store other : Store) (junction : String) :
    (store.linksBeyond other junction).Nodup :=
  (store.nodup_linksOf junction).filter _

section Events
variable {change : LinkChange} {side : Side} {anchor : EntityRef} {target : TypeName}
  {ids : List Nat} {changed : List Link} {seen : Store} {notice? : Option Notice}
  (members : ∀ link, link ∈ changed ↔ ∃ id ∈ ids, link = Link.ofSide side anchor.id id)
  (noticed : notice? = if ids = [] then none else
    some ⟨.link junction change side anchor (ids.map (EntityRef.mk target)), seen⟩)
include members noticed

theorem tellsLinks_of_ids :
    TellsLinks junction change side anchor target changed notice? := by
  refine ⟨?_, fun notice isNotice => ?_⟩
  · have nothing : changed = [] ↔ ids = [] := by
      simp only [List.eq_nil_iff_forall_not_mem, members]
      constructor
      · intro none id member
        exact none _ ⟨id, member, rfl⟩
      · rintro none link ⟨id, member, -⟩
        exact none id member
    rw [noticed, nothing]
    split <;> simp [*]
  · rw [noticed] at isNotice
    split at isNotice
    · cases isNotice
    · cases isNotice
      refine ⟨_, rfl, by simp, fun link => ?_⟩
      rw [ChangeEvent.links_of_ids, members, List.mem_map]
      exact exists_congr fun id => and_congr_right fun _ => eq_comm

/-- The list is exact just if it has no identifier twice. -/
theorem listsOnce_iff_nodup (once : changed.Nodup) : ListsOnce changed notice? ↔ ids.Nodup := by
  have tells := tellsLinks_of_ids members noticed
  by_cases nothing : ids = []
  · rw [if_pos nothing] at noticed
    subst noticed
    simp [ListsOnce, nothing]
  · rw [if_neg nothing] at noticed
    subst noticed
    obtain ⟨_, -, -, same⟩ := tells.told _ rfl
    simp only [ListsOnce, Option.mem_def, Option.some.injEq, forall_eq']
    rw [← List.nodup_map_iff (Link.ofSide_injective side anchor.id),
      ← ChangeEvent.links_of_ids junction change side anchor target]
    constructor
    · exact fun exact_ => exact_.nodup_iff.2 once
    · exact fun nodup => (List.perm_ext_iff_of_nodup nodup once).2 same

end Events

/-! ## Linking and unlinking -/

theorem mem_unlinkedOf {side : Side} {anchor id : Nat} {targets : List Nat} :
    id ∈ store.unlinkedOf junction side anchor targets ↔
      id ∈ targets ∧ Link.ofSide side anchor id ∉ store.linksOf junction := by
  simp [unlinkedOf, mem_linksOf]

theorem mem_linkedOf {side : Side} {anchor id : Nat} {targets : List Nat} :
    id ∈ store.linkedOf junction side anchor targets ↔
      id ∈ targets ∧ Link.ofSide side anchor id ∈ store.linksOf junction := by
  simp [linkedOf, mem_linksOf]

section Changed
variable {side : Side} {anchor : Nat} {targets : List Nat}

theorem mem_linksBeyond_of_added
    (grown : ∀ link, link ∈ other.linksOf junction ↔ link ∈ store.linksOf junction ∨
      ∃ id ∈ store.unlinkedOf junction side anchor targets, link = Link.ofSide side anchor id)
    (link : Link) :
    link ∈ other.linksBeyond store junction ↔
      ∃ id ∈ store.unlinkedOf junction side anchor targets, link = Link.ofSide side anchor id := by
  rw [mem_linksBeyond, grown]
  constructor
  · rintro ⟨old | new, absent⟩
    · exact absurd old absent
    · exact new
  · rintro ⟨id, isNew, rfl⟩
    exact ⟨.inr ⟨id, isNew, rfl⟩, (mem_unlinkedOf.1 isNew).2⟩

theorem mem_linksBeyond_of_removed
    (shrunk : ∀ link, link ∈ other.linksOf junction ↔ link ∈ store.linksOf junction ∧
      ¬ ∃ id ∈ store.linkedOf junction side anchor targets, link = Link.ofSide side anchor id)
    (link : Link) :
    link ∈ store.linksBeyond other junction ↔
      ∃ id ∈ store.linkedOf junction side anchor targets, link = Link.ofSide side anchor id := by
  rw [mem_linksBeyond, shrunk]
  constructor
  · rintro ⟨old, gone⟩
    by_contra kept
    exact gone ⟨old, kept⟩
  · rintro ⟨id, isOld, rfl⟩
    exact ⟨(mem_linkedOf.1 isOld).2, fun kept => kept.2 ⟨id, isOld, rfl⟩⟩

end Changed

/-- Targets that are linked are found as often as they are named. -/
theorem nodup_linkedOf_iff {side : Side} {anchor : Nat} {targets : List Nat} :
    (store.linkedOf junction side anchor targets).Nodup ↔
      ∀ id, Link.ofSide side anchor id ∈ store.linksOf junction → targets.count id ≤ 1 := by
  rw [List.nodup_iff_count_le_one]
  refine forall_congr' fun id => ?_
  rw [mem_linksOf]
  by_cases linked : (store.linkSet junction).contains (Link.ofSide side anchor id) = true
  · have counted : (store.linkedOf junction side anchor targets).count id = targets.count id :=
      List.count_filter linked
    simp [counted, linked]
  · have absent : id ∉ store.linkedOf junction side anchor targets := by
      rw [mem_linkedOf, mem_linksOf]
      exact fun both => linked both.2
    simp [List.count_eq_zero_of_not_mem absent, linked]

theorem linksOf_insert_links_of_ne {links : SortedSet Link} {name : String}
    (differs : name ≠ junction) :
    ({ store with links := store.links.insert junction links } : Store).linksOf name =
      store.linksOf name := by
  simp only [linksOf, SortedMap.get?_insert, if_neg differs]

theorem link_adds {anchor : EntityRef} {name : String} {targets : List Nat}
    {outcome : Outcome Unit} (success : store.link anchor name targets = .ok outcome) :
    ∃ relation junction side, store.catalog.relation? anchor.typeName name = some relation ∧
      relation.kind = .manyToMany junction side ∧
      let added := store.unlinkedOf junction side anchor.id targets
      (∀ other, other ≠ junction → outcome.after.linksOf other = store.linksOf other) ∧
      (∀ link, link ∈ outcome.after.linksOf junction ↔
        link ∈ store.linksOf junction ∨ ∃ id ∈ added, link = Link.ofSide side anchor.id id) ∧
      outcome.notice? = if added = [] then none else
        some ⟨.link junction .added side anchor (added.map (EntityRef.mk relation.target)),
          outcome.after⟩ := by
  obtain ⟨relation, junction, side, stored, through, -, -, after, noticed⟩ := link_eq_ok success
  refine ⟨relation, junction, side, stored, through, fun other differs => ?_, fun link => ?_,
    noticed⟩
  · rw [after]
    exact linksOf_insert_links_of_ne differs
  · rw [after, mem_linksOf_link]
    simp

theorem unlink_removes {anchor : EntityRef} {name : String} {targets : List Nat}
    {outcome : Outcome Unit} (success : store.unlink anchor name targets = .ok outcome) :
    ∃ relation junction side, store.catalog.relation? anchor.typeName name = some relation ∧
      relation.kind = .manyToMany junction side ∧
      let removed := store.linkedOf junction side anchor.id targets
      (∀ other, other ≠ junction → outcome.after.linksOf other = store.linksOf other) ∧
      (∀ link, link ∈ outcome.after.linksOf junction ↔
        link ∈ store.linksOf junction ∧ ¬ ∃ id ∈ removed, link = Link.ofSide side anchor.id id) ∧
      outcome.notice? = if removed = [] then none else
        some ⟨.link junction .removed side anchor (removed.map (EntityRef.mk relation.target)),
          store⟩ := by
  obtain ⟨relation, junction, side, stored, through, told⟩ := unlink_eq_ok success
  refine ⟨relation, junction, side, stored, through, ?_⟩
  rcases told with ⟨nothing, after, noticed⟩ | ⟨some, after, noticed⟩
  · refine ⟨fun other _ => by rw [after], fun link => ?_, by rw [noticed, if_pos nothing]⟩
    simp [after, nothing]
  · refine ⟨fun other differs => ?_, fun link => ?_, by rw [noticed, if_neg some]⟩
    · rw [after]
      exact linksOf_insert_links_of_ne differs
    · rw [after, mem_linksOf_unlink]
      simp

/-- Whatever is stored and whichever targets are named, repeated or not: linking adds links to one
junction, tells of nothing just if there is nothing new, and else lists every new link once.
Unlinking removes links from one junction and tells of exactly these, each once just if no target
that was linked is named twice. -/
theorem link_events_exact_iff (store : Store) (anchor : EntityRef) (name : String)
    (targets : List Nat) :
    (∀ outcome, store.link anchor name targets = .ok outcome →
      ∃ relation junction side, store.catalog.relation? anchor.typeName name = some relation ∧
        relation.kind = .manyToMany junction side ∧
        let added := outcome.after.linksBeyond store junction
        store.linksBeyond outcome.after junction = [] ∧
        (∀ other, other ≠ junction → outcome.after.linksOf other = store.linksOf other) ∧
        TellsLinks junction .added side anchor relation.target added outcome.notice? ∧
        ListsOnce added outcome.notice?) ∧
    ∀ outcome, store.unlink anchor name targets = .ok outcome →
      ∃ relation junction side, store.catalog.relation? anchor.typeName name = some relation ∧
        relation.kind = .manyToMany junction side ∧
        let removed := store.linksBeyond outcome.after junction
        outcome.after.linksBeyond store junction = [] ∧
        (∀ other, other ≠ junction → outcome.after.linksOf other = store.linksOf other) ∧
        TellsLinks junction .removed side anchor relation.target removed outcome.notice? ∧
        (ListsOnce removed outcome.notice? ↔
          ∀ id, Link.ofSide side anchor.id id ∈ store.linksOf junction → targets.count id ≤ 1) := by
  refine ⟨fun outcome success => ?_, fun outcome success => ?_⟩
  · obtain ⟨relation, junction, side, stored, through, others, grown, noticed⟩ := link_adds success
    have members := mem_linksBeyond_of_added grown
    refine ⟨relation, junction, side, stored, through, ?_, others, ?_, ?_⟩
    · exact linksBeyond_eq_nil.2 fun link old => (grown link).2 (.inl old)
    · exact tellsLinks_of_ids members noticed
    · exact (listsOnce_iff_nodup members noticed (nodup_linksBeyond ..)).2 (nodup_distinct _)
  · obtain ⟨relation, junction, side, stored, through, others, shrunk, noticed⟩ :=
      unlink_removes success
    have members := mem_linksBeyond_of_removed shrunk
    refine ⟨relation, junction, side, stored, through, ?_, others, ?_, ?_⟩
    · exact linksBeyond_eq_nil.2 fun link kept => ((shrunk link).1 kept).1
    · exact tellsLinks_of_ids members noticed
    · rw [listsOnce_iff_nodup members noticed (nodup_linksBeyond ..), nodup_linkedOf_iff]

end Store

namespace Library

/-- The author loses her work, seen from her side; what was never linked is passed over. -/
theorem unlinked_work_told_once :
    let store := (Store.empty catalog).run furnish
    ∃ outcome, store.unlink ⟨author, 4⟩ "works" [3, 7, 7] = .ok outcome ∧
      Store.ListsOnce (store.linksBeyond outcome.after authorship) outcome.notice? := by
  intro store
  let anchor : EntityRef := ⟨author, 4⟩
  have stored : store.catalog.relation? anchor.typeName "works" =
      some ⟨"works", book, .manyToMany authorship .right, "authors"⟩ := by decide +kernel
  obtain ⟨outcome, success⟩ := Store.exists_unlink stored rfl [3, 7, 7]
  obtain ⟨_, _, _, found, through, -, -, -, once⟩ :=
    (Store.link_events_exact_iff store anchor "works" [3, 7, 7]).2 outcome success
  cases stored.symm.trans found
  cases through
  refine ⟨outcome, success, once.2 fun id linked => ?_⟩
  have links : store.linksOf authorship = [⟨3, 4⟩] := by decide +kernel
  rw [links, List.mem_singleton] at linked
  obtain rfl : id = 3 := congrArg Link.left linked
  decide

/-- A work that is named twice is told of twice. -/
theorem unlinked_work_told_twice :
    let store := (Store.empty catalog).run furnish
    ∃ outcome notice, store.unlink ⟨author, 4⟩ "works" [3, 3] = .ok outcome ∧
      outcome.notice? = some notice ∧
      store.linksBeyond outcome.after authorship = [⟨3, 4⟩] ∧
      notice.event.links = [⟨3, 4⟩, ⟨3, 4⟩] ∧
      ¬ Store.ListsOnce (store.linksBeyond outcome.after authorship) outcome.notice? := by
  intro store
  have told : (store.unlink ⟨author, 4⟩ "works" [3, 3]).map (fun outcome =>
      (store.linksBeyond outcome.after authorship,
        outcome.notice?.map fun notice => notice.event.links)) =
      .ok ([⟨3, 4⟩], some [⟨3, 4⟩, ⟨3, 4⟩]) := by decide +kernel
  obtain ⟨outcome, success, found⟩ := map_eq_ok told
  obtain ⟨removed, links⟩ := Prod.mk.inj found
  obtain ⟨notice, noticed, listed⟩ := Option.map_eq_some_iff.1 links
  refine ⟨outcome, notice, success, noticed, removed, listed, fun once => ?_⟩
  have length := (once notice noticed).length_eq
  rw [listed, removed] at length
  cases length

end Library
end EntitySearch
