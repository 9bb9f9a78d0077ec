import EntitySearch.Proofs.Catalog.Junctions
import EntitySearch.Proofs.Registry.Orderly
import EntitySearch.Proofs.Store.Integrity
import EntitySearch.Proofs.Store.Walk

/-!
# Relations that share a junction

A store keeps its links by the names of the junctions.  If no two many-to-many relations overlap,
each has links of its own: what is linked through one relation is not seen through another one, and
the deletion of an entity drops every link that it takes part in.  If two overlap, both fail.

The converse needs stores that show the failure.  Two entities that are linked through one relation
are enough: `coupled`.

Main statement: `junctions_identify_iff`.
-/
set_option autoImplicit false
namespace EntitySearch
namespace Store

/-- Links are not seen through relations of another declaration. -/
def LinksApart (catalog : Catalog) (linkages : List Linkage) : Prop :=
  ∀ writes, ∀ linkage ∈ linkages, ∀ anchor accessor targets,
    linkage.Owns anchor.typeName accessor →
      ∀ write ∈ [Write.link anchor accessor targets, Write.unlink anchor accessor targets],
        ∀ source name, ¬ linkage.Owns source.typeName name →
          (((empty catalog).run writes).perform write).related source name =
            ((empty catalog).run writes).related source name

/-- A deletion drops every link that the entity takes part in. -/
def DropsLinks (catalog : Catalog) (linkages : List Linkage) : Prop :=
  ∀ writes deleted outcome, ((empty catalog).run writes).delete deleted = .ok outcome →
    ∀ linkage ∈ linkages, ∀ link ∈ outcome.after.linksOf linkage.junction,
      involves linkage.entry deleted link = false

variable {store : Store}

theorem catalog_run (catalog : Catalog) (writes : List Write) :
    ((empty catalog).run writes).catalog = catalog :=
  (grows_run (empty catalog) writes).catalog

theorem perform_of_ok {write : Write} {outcome : Outcome Unit}
    (success : write.operation store = .ok outcome) : store.perform write = outcome.after := by
  unfold perform
  rw [success]

theorem perform_link_cases (store : Store) {anchor : EntityRef} {accessor : String} {targets : List Nat}
    {write : Write}
    (isLink : write ∈ [Write.link anchor accessor targets, Write.unlink anchor accessor targets]) :
    store.perform write = store ∨ ∃ relation junction side links,
      store.catalog.relation? anchor.typeName accessor = some relation ∧
        relation.kind = .manyToMany junction side ∧
          store.perform write = { store with links := store.links.insert junction links } := by
  unfold perform
  split
  · next outcome success =>
    simp only [List.mem_cons, List.not_mem_nil, or_false] at isLink
    rcases isLink with rfl | rfl
    · obtain ⟨relation, junction, side, stored, through, -, -, after, -⟩ := link_eq_ok success
      exact Or.inr ⟨relation, junction, side, _, stored, through, after⟩
    · obtain ⟨relation, junction, side, stored, through, ⟨-, after, -⟩ | ⟨-, after, -⟩⟩ :=
        unlink_eq_ok success
      · exact Or.inl after
      · exact Or.inr ⟨relation, junction, side, _, stored, through, after⟩
  · exact Or.inl rfl

/-- The links of a junction matter to the relations only that go through it. -/
theorem related_insert_links {junction : String} {links : SortedSet Link} {source : EntityRef}
    {name : String}
    (apart : ∀ relation side, store.catalog.relation? source.typeName name = some relation →
      relation.kind ≠ .manyToMany junction side) :
    ({ store with links := store.links.insert junction links } : Store).related source name =
      store.related source name := by
  unfold related Store.relation
  cases stored : store.catalog.relation? source.typeName name with
  | none => rfl
  | some relation =>
      have ids : ({ store with links := store.links.insert junction links } : Store).relatedIds
          source relation = store.relatedIds source relation := by
        unfold relatedIds
        cases through : relation.kind with
        | foreignKey => rfl
        | reverseForeignKey field => rfl
        | manyToMany other side =>
            have differs : other ≠ junction := by
              rintro rfl
              exact apart relation side stored through
            simp only [linksOf, SortedMap.get?_insert, if_neg differs]
      simp only [Except.map, ids]

theorem perform_insert (store : Store) {type : TypeName} {model : Model}
    (known : store.catalog.model? type = some model) :
    (store.perform (.insert type [])).contains ⟨type, store.nextId⟩ = true ∧
      (∀ entity, store.contains entity = true →
        (store.perform (.insert type [])).contains entity = true) ∧
      (store.perform (.insert type [])).nextId = store.nextId + 1 ∧
      (store.perform (.insert type [])).links = store.links := by
  obtain ⟨outcome, success⟩ := exists_insert known
  have operated : (Write.insert type []).operation store = .ok outcome.forget := by
    change (store.insert type []).map Outcome.forget = _
    rw [success]
    rfl
  have performed : store.perform (.insert type []) = outcome.after := perform_of_ok operated
  obtain ⟨attributes, -, -, after, -⟩ := insert_eq_ok success
  have stored : outcome.after.contains ⟨type, store.nextId⟩ = true := by
    rw [after]
    exact contains_putRecord ⟨type, store.nextId⟩ { attributes }
  rw [performed]
  refine ⟨stored, contains_of_agreeBut (agreeBut_insert success) stored, ?_,
    links_insert success⟩
  rw [after]

theorem perform_link (anchor : EntityRef) {relation : Relation} {junction : String} {side : Side}
    {id : Nat} (stored : store.catalog.relation? anchor.typeName relation.name = some relation)
    (through : relation.kind = .manyToMany junction side) (present : store.contains anchor = true)
    (target : store.contains ⟨relation.target, id⟩ = true) :
    Link.ofSide side anchor.id id ∈
        (store.perform (.link anchor relation.name [id])).linksOf junction ∧
      (store.perform (.link anchor relation.name [id])).records = store.records := by
  obtain ⟨outcome, success⟩ := exists_link stored through present [id] (by simpa)
  have performed : store.perform (.link anchor relation.name [id]) = outcome.after :=
    perform_of_ok success
  obtain ⟨found, through', side', isFound, kind, -, -, after, -⟩ := link_eq_ok success
  obtain rfl : relation = found := Option.some.inj (stored.symm.trans isFound)
  obtain ⟨rfl, rfl⟩ := RelationKind.manyToMany.inj (through.symm.trans kind)
  rw [performed, after]
  refine ⟨(mem_linksOf_link junction _).2 ?_, rfl⟩
  by_cases old : (store.linkSet junction).contains (Link.ofSide side anchor.id id) = true
  · exact Or.inl (mem_linksOf.2 old)
  · refine Or.inr ⟨rfl, id, mem_distinct.2 (List.mem_filter.2 ⟨List.mem_singleton.2 rfl, ?_⟩), rfl⟩
    simp [old]

variable {catalog : Catalog} {linkages : List Linkage} (linked : catalog.Linked linkages)
include linked

theorem coupled {linkage : Linkage} (member : linkage ∈ linkages) :
    let store := (empty catalog).run [.insert linkage.source [], .insert linkage.target []]
    let write := Write.link ⟨linkage.source, 1⟩ linkage.name [2]
    store.links = .empty ∧ ⟨1, 2⟩ ∈ (store.perform write).linksOf linkage.junction ∧
      (store.perform write).contains ⟨linkage.source, 1⟩ = true := by
  have stored := linked.stored linkage member
  obtain ⟨-, -, back⟩ := linked.declared.paired _ _ _ stored
  obtain ⟨source, isSource⟩ := Catalog.model_of_relation stored
  obtain ⟨target, isTarget⟩ := Catalog.model_of_relation back
  let first := (empty catalog).perform (.insert linkage.source [])
  have firstGrows : Grows (empty catalog) first := grows_perform ..
  let second := first.perform (.insert linkage.target [])
  have secondGrows : Grows first second := grows_perform ..
  obtain ⟨anchorStored, -, next, noLinks⟩ := perform_insert (empty catalog) isSource
  have stillTarget : first.catalog.model? linkage.target = some target := by
    rw [firstGrows.catalog]
    exact isTarget
  obtain ⟨targetStored, kept, -, sameLinks⟩ := perform_insert first stillTarget
  have anchorKept : second.contains ⟨linkage.source, 1⟩ = true := kept _ anchorStored
  rw [show first.nextId = 2 from next] at targetStored
  have stillStored : second.catalog.relation? linkage.source linkage.relation.name =
      some linkage.relation := by
    rw [secondGrows.catalog, firstGrows.catalog]
    exact stored
  obtain ⟨joined, records⟩ := perform_link ⟨linkage.source, 1⟩ stillStored rfl anchorKept
    targetStored
  refine ⟨sameLinks.trans noLinks, joined, ?_⟩
  change (second.perform _).records.contains _ = true
  exact records.symm ▸ anchorKept

/-! ## When links stay apart -/

theorem linksApart_of_toldApart (apart : ToldApart linkages) : LinksApart catalog linkages := by
  intro writes linkage member anchor accessor targets owns write isLink source name foreign
  have onCatalog := catalog_run catalog writes
  rcases perform_link_cases ((empty catalog).run writes) isLink with
    same | ⟨relation, junction, side, links, stored, through, after⟩
  · rw [same]
  · rw [after]
    refine related_insert_links fun seen seenSide isSeen goes => ?_
    rw [onCatalog] at stored isSeen
    obtain ⟨owned, _, isOwned, kind, -⟩ := linked.relation_of_owns member owns
    obtain rfl := Option.some.inj (stored.symm.trans isOwned)
    obtain ⟨rfl, rfl⟩ := RelationKind.manyToMany.inj (through.symm.trans kind)
    -- What is seen belongs to a declaration with the same junction, so to the one written through.
    obtain ⟨other, isOther, named, ownsSeen⟩ := linked.exists_owner isSeen goes
    have same := List.inj_on_of_nodup_map (linked.nodup_iff.2 apart) isOther member named
    exact foreign (same ▸ ownsSeen)

theorem toldApart_of_linksApart (separate : LinksApart catalog linkages) :
    ToldApart linkages := by
  intro a isFirst b isSecond overlaps
  obtain ⟨noLinks, joined, -⟩ := coupled linked isFirst
  let writes : List Write := [.insert a.source [], .insert a.target []]
  let store := (empty catalog).run writes
  let write := Write.link ⟨a.source, 1⟩ a.name [2]
  have stored := linked.stored b isSecond
  have foreign : ¬ a.Owns b.source b.name := linked.not_owns isFirst isSecond overlaps.source_ne
  have unseen := separate writes a isFirst ⟨a.source, 1⟩ a.name [2] (Or.inl ⟨rfl, rfl⟩) write
    (List.mem_cons_self ..) ⟨b.source, 1⟩ b.name foreign
  have before : store.catalog = catalog := catalog_run catalog writes
  have after : (store.perform write).catalog = catalog :=
    (grows_perform store write).catalog.trans before
  rw [related_eq_reached (after ▸ stored), related_eq_reached (before ▸ stored)] at unseen
  have seen : (⟨b.target, 2⟩ : EntityRef) ∈ (store.perform write).reached b.relation
      ⟨b.source, 1⟩ := by
    refine mem_reached_iff.2 ⟨rfl, ?_⟩
    change ⟨1, 2⟩ ∈ (store.perform write).linksOf b.junction
    rw [← overlaps.junction_eq]
    exact joined
  rw [Except.ok.inj unseen] at seen
  have member : ⟨1, 2⟩ ∈ store.linksOf b.junction := (mem_reached_iff.1 seen).2
  rw [linksOf, show store.links = .empty from noLinks] at member
  cases member

theorem dropsLinks_of_junctionsOwned (owned : catalog.JunctionsOwned) :
    DropsLinks catalog linkages := by
  intro writes deleted outcome success linkage member link kept
  obtain ⟨-, after, -⟩ := delete_eq_ok success
  rw [after] at kept
  obtain ⟨-, free⟩ := (mem_linksOf_without deleted linkage.junction link).1 kept
  rw [catalog_run] at free
  exact free linkage.entry (linked.entry_of_junctionsOwned owned member)

/-- A junction that is kept for another relation hides who takes part in the links of this one. -/
theorem junctionsOwned_of_dropsLinks (drops : DropsLinks catalog linkages) :
    catalog.JunctionsOwned := by
  refine linked.junctionsOwned_of_entries fun linkage member => ?_
  obtain ⟨keeper, found⟩ : ∃ keeper,
      linkages.find? (fun other => other.junction = linkage.junction) = some keeper := by
    rw [← Option.isSome_iff_exists, List.find?_isSome]
    exact ⟨linkage, member, decide_eq_true rfl⟩
  have entry := linked.entries linkage.junction
  rw [found] at entry
  have isKeeper := List.mem_of_find?_eq_some found
  have named : keeper.junction = linkage.junction := by simpa using List.find?_some found
  by_contra differ
  have another : keeper ≠ linkage := by
    rintro rfl
    exact differ entry
  have otherSource : keeper.source ≠ linkage.source := by
    rcases (linked.junction_eq_iff isKeeper member another).1 named with forth | back
    · exact forth.source_ne
    · exact back.source_ne.symm
  obtain ⟨-, joined, present⟩ := coupled linked member
  let writes : List Write := [.insert linkage.source [], .insert linkage.target [],
    .link ⟨linkage.source, 1⟩ linkage.name [2]]
  let store := (empty catalog).run writes
  have onCatalog : store.catalog = catalog := catalog_run catalog writes
  have success : store.delete ⟨linkage.source, 1⟩ = .ok _ := if_pos present
  have dropped := drops writes ⟨linkage.source, 1⟩ _ success linkage member ⟨1, 2⟩
  have kept : ⟨1, 2⟩ ∈ (store.without ⟨linkage.source, 1⟩).linksOf linkage.junction := by
    refine (mem_linksOf_without ..).2 ⟨joined, fun junction isEntry => ?_⟩
    rw [onCatalog, entry] at isEntry
    obtain rfl := Option.some.inj isEntry
    simp [involves, Linkage.entry, otherSource]
  have free := dropped kept
  simp [involves, Linkage.entry] at free

end Store

/-- Over every catalog that declarations build: the junctions got distinct names, the entry of
every junction is that of its relations, links of one relation are not seen through others, and
deletions drop all links of an entity.  Each of these holds just if no two relations overlap. -/
theorem junctions_identify_iff {declarations : List Declaration} {catalog : Catalog}
    (declared : Catalog.empty.declareAll declarations = .ok catalog) :
    let linkages := linkagesOf declarations
    ((linkages.map Linkage.junction).Nodup ↔ ToldApart linkages) ∧
      (catalog.JunctionsOwned ↔ ToldApart linkages) ∧
      (Store.LinksApart catalog linkages ↔ ToldApart linkages) ∧
      (Store.DropsLinks catalog linkages ↔ ToldApart linkages) := by
  have linked := Catalog.linked_of_declareAll declared
  refine ⟨linked.nodup_iff, linked.junctionsOwned_iff, ⟨?_, ?_⟩, ⟨?_, ?_⟩⟩
  · exact Store.toldApart_of_linksApart linked
  · exact Store.linksApart_of_toldApart linked
  · intro drops
    exact linked.junctionsOwned_iff.1 (Store.junctionsOwned_of_dropsLinks linked drops)
  · intro apart
    exact Store.dropsLinks_of_junctionsOwned linked (linked.junctionsOwned_iff.2 apart)

namespace Library

def reader : TypeName := ⟨"library", "reader", by decide⟩

def bookLoan : TypeName := ⟨"library", "book_loan", by decide⟩

def borrowed : Linkage := ⟨book, "readers", reader, "books"⟩

def loaned : Linkage := ⟨bookLoan, "readers", reader, "loans"⟩

/-- Books are lent to readers, and so is each copy of a book. -/
def borrowing : List Declaration :=
  [.model book [], .model bookLoan [], .model reader [], .manyToMany borrowed, .manyToMany loaned]

def borrowingCatalog : Catalog := (Catalog.empty.declareAll borrowing).toOption.getD .empty

theorem junctions_identify :
    Catalog.empty.declareAll borrowing = .ok borrowingCatalog ∧
      linkagesOf borrowing = [loaned, borrowed] ∧
      ([loaned, borrowed].map Linkage.junction).Nodup ∧ borrowingCatalog.JunctionsOwned ∧
      Store.LinksApart borrowingCatalog [loaned, borrowed] ∧
      Store.DropsLinks borrowingCatalog [loaned, borrowed] := by
  have declared : Catalog.empty.declareAll borrowing = .ok borrowingCatalog := rfl
  have apart : ToldApart (linkagesOf borrowing) := Linkage.toldApart_of_clear (by decide)
  obtain ⟨names, entries, links, deletions⟩ := junctions_identify_iff declared
  exact ⟨declared, rfl, names.2 apart, entries.2 apart, links.2 apart, deletions.2 apart⟩

/-- Under this name the relation shares its junction with that of the loans. -/
def lent : Linkage := ⟨book, "loan_readers", reader, "books"⟩

def lending : List Declaration :=
  [.model book [], .model bookLoan [], .model reader [], .manyToMany lent, .manyToMany loaned]

def lendingCatalog : Catalog := (Catalog.empty.declareAll lending).toOption.getD .empty

/-- A book that is lent to a reader shows as a loan of the reader, and stays with the reader when it
is deleted. -/
theorem lent_book_outlives_deletion :
    Catalog.empty.declareAll lending = .ok lendingCatalog ∧
      linkagesOf lending = [loaned, lent] ∧ lent ≠ loaned ∧ lent.junction = loaned.junction ∧
      lendingCatalog.junction? lent.junction = some loaned.entry ∧
      let store := (Store.empty lendingCatalog).run [.insert book [], .insert reader []]
      let linked := store.perform (.link ⟨book, 1⟩ "loan_readers" [2])
      store.related ⟨reader, 2⟩ "loans" = .ok [] ∧
        linked.related ⟨reader, 2⟩ "loans" = .ok [⟨bookLoan, 1⟩] ∧
        ∃ outcome, linked.delete ⟨book, 1⟩ = .ok outcome ∧
          outcome.after.related ⟨reader, 2⟩ "books" = .ok [⟨book, 1⟩] := by
  refine ⟨rfl, rfl, by decide, by decide, by decide +kernel, by decide +kernel, by decide +kernel,
    ?_⟩
  exact ⟨_, if_pos (by decide +kernel), by decide +kernel⟩

end Library
end EntitySearch
