import EntitySearch.Index.Document
import EntitySearch.Proofs.Catalog.Paths
import EntitySearch.Proofs.Data.Fallible
import EntitySearch.Proofs.Store.Relations

/-!
# Walking through a store

Over a store of a catalog, following a relation of that catalog cannot fail.  `Store.walk` follows
steps without the checks that `StoreView.resolve` and `Document.reach` make, and passes over what an
exclusion names; `Store.Leads` says that the walk finds an entity.

Main statements: `resolve_eq_walk` and `reach_eq_walk` (the checked walks give these answers),
`leads_backward` (an entity is found along some steps just if it leads back along the reversed
ones) and `walk_congr` (a walk depends on what the steps show from the entities it visits).
-/
set_option autoImplicit false
namespace EntitySearch

namespace Store

open Catalog (Hop backward)

/-- The entities a relation leads to, less those passed over. -/
def passable (store : Store) (exclude : Option Exclusion) (relation : Relation)
    (source : EntityRef) : List EntityRef :=
  (store.reached relation source).filter fun entity =>
    !Document.passesOver exclude relation source entity

def walk (store : Store) (exclude : Option Exclusion) : List Hop → List EntityRef → List EntityRef
  | [], sources => sources
  | hop :: rest, sources =>
      walk store exclude rest (distinct (sources.flatMap (store.passable exclude hop.relation)))

def Leads (store : Store) (exclude : Option Exclusion) : List Hop → EntityRef → EntityRef → Prop
  | [], source, goal => source = goal
  | hop :: rest, source, goal =>
      ∃ next ∈ store.passable exclude hop.relation source, Leads store exclude rest next goal

variable {store : Store} {exclude : Option Exclusion}

@[simp] theorem passable_none (relation : Relation) (source : EntityRef) :
    store.passable none relation source = store.reached relation source := by
  simp [passable, Document.passesOver]

theorem mem_reached_of_mem_passable {relation : Relation} {source entity : EntityRef}
    (member : entity ∈ store.passable exclude relation source) :
    entity ∈ store.reached relation source :=
  (List.mem_filter.1 member).1

theorem mem_passable_iff {relation : Relation} {source entity : EntityRef} :
    entity ∈ store.passable exclude relation source ↔ entity.typeName = relation.target ∧
      store.Joins relation source entity ∧
        Document.passesOver exclude relation source entity = false := by
  simp [passable, mem_reached_iff, and_assoc]

theorem passable_congr {other : Store} {otherExclude : Option Exclusion} {relation : Relation}
    {source : EntityRef}
    (same : ∀ entity, entity.typeName = relation.target →
      ((other.Joins relation source entity ∧
          Document.passesOver otherExclude relation source entity = false) ↔
        (store.Joins relation source entity ∧
          Document.passesOver exclude relation source entity = false))) :
    other.passable otherExclude relation source = store.passable exclude relation source := by
  apply eq_of_ascending
  · exact (other.reached_ascending relation source).filter _
  · exact (store.reached_ascending relation source).filter _
  · intro entity
    rw [mem_passable_iff, mem_passable_iff]
    exact and_congr_right fun typed => same entity typed

theorem leads_append {first rest : List Hop} {source goal : EntityRef} :
    store.Leads exclude (first ++ rest) source goal ↔
      ∃ middle, store.Leads exclude first source middle ∧ store.Leads exclude rest middle goal := by
  induction first generalizing source with
  | nil => simp [Leads]
  | cons hop first ih =>
      simp only [List.cons_append, Leads, ih]
      constructor
      · rintro ⟨next, member, middle, before, after⟩
        exact ⟨middle, ⟨next, member, before⟩, after⟩
      · rintro ⟨middle, ⟨next, member, before⟩, after⟩
        exact ⟨next, member, middle, before, after⟩

theorem leads_snoc {first : List Hop} {hop : Hop} {source goal : EntityRef} :
    store.Leads exclude (first ++ [hop]) source goal ↔
      ∃ middle, store.Leads exclude first source middle ∧
        goal ∈ store.passable exclude hop.relation middle := by
  simp [leads_append, Leads]

/-- What is found past an exclusion is found without it. -/
theorem leads_none_of_leads {steps : List Hop} {source goal : EntityRef}
    (leads : store.Leads exclude steps source goal) : store.Leads none steps source goal := by
  induction steps generalizing source with
  | nil => exact leads
  | cons hop rest ih =>
      obtain ⟨next, member, later⟩ := leads
      refine ⟨next, ?_, ih later⟩
      rw [passable_none]
      exact mem_reached_of_mem_passable member

theorem leads_mono {other : Store}
    (joins : ∀ relation source entity, store.Joins relation source entity →
      other.Joins relation source entity)
    {steps : List Hop} {source goal : EntityRef} (leads : store.Leads exclude steps source goal) :
    other.Leads exclude steps source goal := by
  induction steps generalizing source with
  | nil => exact leads
  | cons hop rest ih =>
      obtain ⟨next, member, later⟩ := leads
      obtain ⟨typed, joined, passes⟩ := mem_passable_iff.1 member
      exact ⟨next, mem_passable_iff.2 ⟨typed, joins _ _ _ joined, passes⟩, ih later⟩

theorem mem_walk {steps : List Hop} {sources : List EntityRef} {goal : EntityRef} :
    goal ∈ store.walk exclude steps sources ↔
      ∃ source ∈ sources, store.Leads exclude steps source goal := by
  induction steps generalizing sources with
  | nil => simp [walk, Leads]
  | cons hop rest ih =>
      simp only [walk, ih, mem_distinct, List.mem_flatMap, Leads]
      constructor
      · rintro ⟨next, ⟨source, member, passes⟩, later⟩
        exact ⟨source, member, next, passes, later⟩
      · rintro ⟨source, member, next, passes, later⟩
        exact ⟨next, ⟨source, member, passes⟩, later⟩

theorem walk_nil (steps : List Hop) : store.walk exclude steps [] = [] := by
  induction steps with
  | nil => rfl
  | cons hop rest ih => simpa [walk, distinct] using ih

theorem typeName_of_leads {catalog : Catalog} {steps : List Hop} {target : TypeName}
    {source goal : EntityRef} (connects : catalog.Connects source.typeName steps target)
    (leads : store.Leads exclude steps source goal) : goal.typeName = target := by
  induction steps generalizing source with
  | nil =>
      obtain rfl : source = goal := leads
      exact connects
  | cons hop rest ih =>
      obtain ⟨-, -, later⟩ := connects
      obtain ⟨next, member, leads⟩ := leads
      have typed := (mem_reached_iff.1 (mem_reached_of_mem_passable member)).1
      exact ih (typed ▸ later) leads

/-- A walk depends on what its steps show from the entities it visits. -/
theorem walk_congr {other : Store} {otherExclude : Option Exclusion} {steps : List Hop}
    {sources : List EntityRef}
    (same : ∀ first hop rest, steps = first ++ hop :: rest → ∀ source ∈ sources, ∀ visited,
      store.Leads exclude first source visited →
        other.passable otherExclude hop.relation visited =
          store.passable exclude hop.relation visited) :
    other.walk otherExclude steps sources = store.walk exclude steps sources := by
  induction steps generalizing sources with
  | nil => rfl
  | cons hop rest ih =>
      have here : sources.flatMap (other.passable otherExclude hop.relation) =
          sources.flatMap (store.passable exclude hop.relation) := by
        refine List.flatMap_congr fun source member => ?_
        exact same [] hop rest rfl source member source rfl
      unfold walk
      rw [here]
      apply ih
      intro first later rest' split next member visited leads
      obtain ⟨source, inSources, passes⟩ := List.mem_flatMap.1 (mem_distinct.1 member)
      refine same (hop :: first) later rest' ?_ source inSources visited ⟨next, passes, leads⟩
      rw [split]
      rfl

/-- An entity is found along some steps just if it leads back along the reversed ones. -/
theorem leads_backward {catalog : Catalog} (paired : catalog.Paired) {steps : List Hop}
    {target : TypeName} {source goal : EntityRef}
    (connects : catalog.Connects source.typeName steps target) (typed : goal.typeName = target) :
    store.Leads none (backward steps) goal source ↔ store.Leads none steps source goal := by
  induction steps generalizing source with
  | nil => exact eq_comm
  | cons hop rest ih =>
      obtain ⟨rfl', stored, later⟩ := connects
      obtain ⟨-, kindOk, -⟩ := paired _ _ _ stored
      rw [Catalog.backward_cons, leads_snoc]
      simp only [passable_none, Leads]
      constructor
      · rintro ⟨next, leads, member⟩
        have typedNext : next.typeName = hop.relation.target :=
          typeName_of_leads (typed ▸ Catalog.connects_backward paired later) leads
        refine ⟨next, ?_, (ih (typedNext ▸ later)).1 leads⟩
        rw [Hop.back, rfl'] at member
        exact (mem_reached_dual kindOk typedNext).1 member
      · rintro ⟨next, member, leads⟩
        have typedNext : next.typeName = hop.relation.target := (mem_reached_iff.1 member).1
        refine ⟨next, (ih (typedNext ▸ later)).2 leads, ?_⟩
        rw [Hop.back, rfl']
        exact (mem_reached_dual kindOk typedNext).2 member

/-! ## The checked walks -/

theorem related_eq_reached {source : EntityRef} {name : String} {relation : Relation}
    (stored : store.catalog.relation? source.typeName name = some relation) :
    store.related source name = .ok (store.reached relation source) := by
  simp [related, Store.relation, stored, reached, Except.map]

theorem follow_eq {sources : List EntityRef} {model : TypeName} {name : String}
    {relation : Relation} (stored : store.catalog.relation? model name = some relation)
    (typed : ∀ source ∈ sources, source.typeName = model) :
    store.view.follow sources name = .ok (distinct (sources.flatMap (store.reached relation))) := by
  have each : ∀ source ∈ sources,
      store.view.related source name = .ok (store.reached relation source) := by
    intro source member
    exact related_eq_reached (typed source member ▸ stored)
  rw [StoreView.follow, mapM_eq_ok each, List.flatMap_def]
  rfl

theorem typed_of_mem_step {sources : List EntityRef} {relation : Relation} {entity : EntityRef}
    (member : entity ∈ distinct (sources.flatMap (store.passable exclude relation))) :
    entity.typeName = relation.target := by
  obtain ⟨source, -, passes⟩ := List.mem_flatMap.1 (mem_distinct.1 member)
  exact (mem_reached_iff.1 (mem_reached_of_mem_passable passes)).1

theorem foldlM_follow_eq_walk {steps : List Hop} {model target : TypeName}
    {sources : List EntityRef} (connects : store.catalog.Connects model steps target)
    (typed : ∀ source ∈ sources, source.typeName = model) :
    (steps.map fun hop => hop.relation.name).foldlM store.view.follow sources =
      .ok (store.walk none steps sources) := by
  induction steps generalizing model sources with
  | nil => rfl
  | cons hop rest ih =>
      obtain ⟨-, stored, later⟩ := connects
      have step : distinct (sources.flatMap (store.reached hop.relation)) =
          distinct (sources.flatMap (store.passable none hop.relation)) := by
        congr 1
        exact List.flatMap_congr fun source _ => (passable_none ..).symm
      rw [List.map_cons, List.foldlM_cons, follow_eq stored typed, step]
      exact ih later fun entity member => typed_of_mem_step member

theorem resolve_eq_walk {entity : EntityRef} {steps : List Hop} {target : TypeName}
    (connects : store.catalog.Connects entity.typeName steps target) :
    store.view.resolve entity (steps.map fun hop => hop.relation.name) =
      .ok (store.walk none steps [entity]) :=
  foldlM_follow_eq_walk connects fun _ member => List.mem_singleton.1 member ▸ rfl

theorem step_eq {sources : List EntityRef} {model : TypeName} {name : String}
    {relation : Relation} (stored : store.catalog.relation? model name = some relation)
    (typed : ∀ source ∈ sources, source.typeName = model) :
    Document.step store.view exclude relation name sources =
      .ok (distinct (sources.flatMap (store.passable exclude relation))) := by
  have each : ∀ source ∈ sources,
      ((store.view.related source name).map fun found => found.filter fun entity =>
        !Document.passesOver exclude relation source entity) =
          .ok (store.passable exclude relation source) := by
    intro source member
    have found := related_eq_reached (typed source member ▸ stored)
    change (store.related source name).map _ = _
    rw [found]
    rfl
  rw [Document.step, mapM_eq_ok each, List.flatMap_def]
  rfl

/-- The path of a field that the catalog knows is walked to its end. -/
theorem reach_eq_walk {owner model target : TypeName} {field : Field} {steps : List Hop}
    {sources : List EntityRef} (connects : store.catalog.Connects model steps target)
    (typed : ∀ source ∈ sources, source.typeName = model) :
    Document.reach store.catalog store.view exclude owner field model sources
        (steps.map fun hop => hop.relation.name) =
      .ok (store.walk exclude steps sources) := by
  induction steps generalizing model sources with
  | nil => rfl
  | cons hop rest ih =>
      obtain ⟨-, stored, later⟩ := connects
      simp only [List.map_cons, Document.reach, stored, step_eq stored typed]
      split
      · next empty =>
        rw [walk, List.isEmpty_iff.1 empty, walk_nil]
      · exact ih later fun entity member => typed_of_mem_step member

end Store
end EntitySearch
