import EntitySearch.Index.Job
import EntitySearch.Proofs.Index.Building
import EntitySearch.Proofs.Store.Integrity

/-!
# Exclusions and what they anticipate

A job about something that is to go carries an exclusion.  Built past the exclusion, a document is
what it will be once the thing is gone; and once it is gone the exclusion makes no difference any
more, unless the thing comes back.

Main statements: `documentOf_before_without`, `documentOf_before_unlink`, `documentOf_of_idle`.
-/
set_option autoImplicit false
namespace EntitySearch

open Catalog (Hop)

def IndexJob.result (job : IndexJob) (store : Store) (type : EntityType) : Option Document :=
  match job with
  | .index entity exclude => store.documentOf type entity exclude
  | .deindex _ => none

/-- An exclusion names nothing that a store holds. -/
def Exclusion.Idle (store : Store) : Exclusion → Prop
  | .instance entity => store.contains entity = false
  | .links junction pairs => ∀ link ∈ pairs, link ∉ store.linksOf junction

namespace Store

variable {store : Store} {registry : Registry} {type : EntityType} {owner : EntityRef}

theorem passesOver_instance {relation : Relation} {source entity deleted : EntityRef} :
    Document.passesOver (some (.instance deleted)) relation source entity = false ↔
      entity ≠ deleted := by
  unfold Document.passesOver
  cases relation.junction? with
  | none => simp [Exclusion.excludesInstance, eq_comm]
  | some found => simp [Exclusion.excludesInstance, Exclusion.excludesLink, eq_comm]

theorem passesOver_links {relation : Relation} {source entity : EntityRef} {junction : String}
    {pairs : List Link} :
    Document.passesOver (some (.links junction pairs)) relation source entity = false ↔
      ∀ side, relation.kind = .manyToMany junction side →
        Link.ofSide side source.id entity.id ∉ pairs := by
  unfold Document.passesOver Relation.junction?
  cases relation.kind with
  | foreignKey => simp [Exclusion.excludesInstance]
  | reverseForeignKey field => simp [Exclusion.excludesInstance]
  | manyToMany through side =>
      simp [Exclusion.excludesInstance, Exclusion.excludesLink]
      grind

theorem passesOver_none {relation : Relation} {source entity : EntityRef} :
    Document.passesOver none relation source entity = false := rfl

theorem leads_ne {exclude : Option Exclusion} {deleted source goal : EntityRef} {steps : List Hop}
    (never : ∀ relation source, deleted ∉ store.passable exclude relation source)
    (other : source ≠ deleted) (leads : store.Leads exclude steps source goal) :
    goal ≠ deleted := by
  induction steps generalizing source with
  | nil =>
      obtain rfl : source = goal := leads
      exact other
  | cons hop rest ih =>
      obtain ⟨next, member, later⟩ := leads
      refine ih ?_ later
      rintro rfl
      exact never _ _ member

/-- Past an entity that is to be deleted, a document is what it will be without that entity. -/
theorem documentOf_before_without (grounded : registry.Grounded)
    (onCatalog : store.catalog = registry.catalog) (member : type ∈ registry.entityTypes)
    (typed : owner.typeName = type.name) {deleted : EntityRef} (other : owner ≠ deleted) :
    store.documentOf type owner (some (.instance deleted)) =
      (store.without deleted).documentOf type owner none := by
  have agree : AgreeBut deleted store (store.without deleted) := agreeBut_without deleted
  have never : ∀ relation source,
      deleted ∉ store.passable (some (.instance deleted)) relation source := by
    intro relation source inside
    exact passesOver_instance.1 (mem_passable_iff.1 inside).2.2 rfl
  have paired := grounded.paired
  have owned := grounded.owned
  rw [← onCatalog] at paired owned
  refine (documentOf_eq_of_joins grounded onCatalog (agree.catalog.trans onCatalog) member typed
    (agree.contains owner other) ?_ ?_).symm
  · intro first hop takes visited leads _ stored found typedFound
    have visitedKept := leads_ne never other leads
    rw [← onCatalog] at stored
    rw [joins_without paired owned stored typedFound, passesOver_instance]
    simp [visitedKept, passesOver_none]
  · intro field isField visited leads attr
    exact agree.attrs visited (leads_ne never other leads) attr

/-- Past links that are to be removed, a document is what it will be without those links. -/
theorem documentOf_before_unlink (grounded : registry.Grounded)
    (onCatalog : store.catalog = registry.catalog) (member : type ∈ registry.entityTypes)
    (typed : owner.typeName = type.name) {after : Store} {junction : String} {pairs : List Link}
    (catalog : after.catalog = store.catalog) (records : after.records = store.records)
    (removed : ∀ name link, link ∈ after.linksOf name ↔
      link ∈ store.linksOf name ∧ ¬ (name = junction ∧ link ∈ pairs)) :
    store.documentOf type owner (some (.links junction pairs)) =
      after.documentOf type owner none := by
  have sameCatalog := catalog.trans onCatalog
  refine (documentOf_eq_of_joins grounded onCatalog sameCatalog member typed ?_ ?_ ?_).symm
  · rw [contains, contains, records]
  · intro first hop takes visited leads _ stored found typedFound
    rw [passesOver_links]
    unfold Joins keyOf
    rw [records]
    cases hop.relation.kind with
    | foreignKey => simp [passesOver_none]
    | reverseForeignKey field => simp [passesOver_none]
    | manyToMany through side =>
        simp only [passesOver_none, removed]
        grind
  · intro field isField visited leads attr
    rw [attr?, attr?, records]

theorem documentOf_of_idle (grounded : registry.Grounded) (sound : store.Sound registry.catalog)
    (member : type ∈ registry.entityTypes) (typed : owner.typeName = type.name)
    {exclusion : Exclusion} (idle : exclusion.Idle store) :
    store.documentOf type owner (some exclusion) = store.documentOf type owner none := by
  refine documentOf_eq_of_joins grounded sound.onCatalog sound.onCatalog member typed rfl ?_
    fun _ _ _ _ _ => rfl
  intro first hop takes visited leads _ stored found typedFound
  refine and_congr_right fun joined => iff_of_true ?_ passesOver_none
  cases exclusion with
  | «instance» gone =>
      have paired := grounded.paired
      have owned := grounded.owned
      rw [← sound.onCatalog] at stored paired owned
      rw [passesOver_instance]
      rintro rfl
      have present := (sound.closed.joins paired owned stored typedFound joined).2
      rw [show store.contains found = false from idle] at present
      cases present
  | links junction pairs =>
      rw [passesOver_links]
      intro side through inPairs
      rw [Joins, through] at joined
      exact idle _ inPairs joined

end Store
end EntitySearch
