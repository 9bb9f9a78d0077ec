import EntitySearch.Proofs.Catalog.Declared
import Mathlib.Data.List.Nodup

/-!
# What a junction tells of its relation

A junction is named after the model and the name of its relation, `space.kind_name`, and both may
hold the separator.  Two relations get one junction just if they overlap: the kind of one goes on
into what the other has in its name.  The catalog then keeps the entry of the last one, so the
entry of every junction is that of its relations just if no two of them overlap.

`Linked` is what all declarations keep; `Linked.declare` is one declaration, `linked_of_declareAll`
all of them.

Main statements: `Linkage.junction_eq_iff`, `Linked.nodup_iff`, `Linked.junctionsOwned_iff`.
-/
set_option autoImplicit false
namespace EntitySearch

/-- A many-to-many relation as it is declared. -/
structure Linkage where
  source : TypeName
  name : String
  target : TypeName
  reverse : String
deriving DecidableEq

namespace Linkage

def junction (linkage : Linkage) : String := Catalog.junctionName linkage.source linkage.name

def relation (linkage : Linkage) : Relation :=
  ⟨linkage.name, linkage.target, .manyToMany linkage.junction .left, linkage.reverse⟩

def entry (linkage : Linkage) : Junction :=
  ⟨linkage.junction, linkage.source, linkage.target, linkage.name, linkage.reverse⟩

def Owns (linkage : Linkage) (model : TypeName) (name : String) : Prop :=
  (model = linkage.source ∧ name = linkage.name) ∨
    (model = linkage.target ∧ name = linkage.reverse)

/-- The kind of the other source goes on with a separator into the name of this relation. -/
def Overlaps (linkage other : Linkage) : Prop :=
  linkage.source.space = other.source.space ∧
    ∃ middle, other.source.kind = linkage.source.kind ++ "_" ++ middle ∧
      linkage.name = middle ++ "_" ++ other.name

end Linkage

inductive Declaration where
  | model (name : TypeName) (attributes : List (String × ValueKind))
  | foreignKey (source : TypeName) (name : String) (target : TypeName) (reverse : String)
  | manyToMany (linkage : Linkage)

namespace Declaration

def declare (catalog : Catalog) : Declaration → Except SearchError Catalog
  | .model name attributes => catalog.defineModel name attributes
  | .foreignKey source name target reverse => catalog.foreignKey source name target reverse
  | .manyToMany linkage =>
    (catalog.manyToMany linkage.source linkage.name linkage.target linkage.reverse).map Prod.snd

def linkage? : Declaration → Option Linkage
  | .manyToMany linkage => some linkage
  | _ => none

end Declaration

def Catalog.declareAll (catalog : Catalog) (declarations : List Declaration) :
    Except SearchError Catalog :=
  declarations.foldlM Declaration.declare catalog

/-- The many-to-many relations that are declared, the last one first. -/
def linkagesOf (declarations : List Declaration) : List Linkage :=
  (declarations.filterMap Declaration.linkage?).reverse

def ToldApart (linkages : List Linkage) : Prop :=
  ∀ a ∈ linkages, ∀ b ∈ linkages, ¬ a.Overlaps b

namespace TypeName

theorem toList_text (name : TypeName) :
    name.text.toList = name.space.toList ++ '.' :: name.kind.toList := by
  simp [text, String.toList_append]

end TypeName

theorem parts_eq_of_marked {α : Type} {first second : List α} {mark : α} {rest others : List α}
    (clear : mark ∉ first) (alsoClear : mark ∉ second)
    (same : first ++ mark :: rest = second ++ mark :: others) : first = second ∧ rest = others := by
  induction first generalizing second with
  | nil =>
      cases second with
      | nil => exact ⟨rfl, (List.cons.inj same).2⟩
      | cons a second =>
          obtain ⟨rfl, -⟩ := List.cons.inj same
          exact absurd (List.mem_cons_self ..) alsoClear
  | cons a first ih =>
      cases second with
      | nil =>
          obtain ⟨rfl, -⟩ := List.cons.inj same
          exact absurd (List.mem_cons_self ..) clear
      | cons b second =>
          obtain ⟨heads, tails⟩ := List.cons.inj same
          obtain ⟨firsts, rests⟩ := ih (List.not_mem_of_not_mem_cons clear)
            (List.not_mem_of_not_mem_cons alsoClear) tails
          exact ⟨by rw [heads, firsts], rests⟩

namespace Linkage
variable {a b : Linkage}

theorem toList_junction (linkage : Linkage) :
    linkage.junction.toList = linkage.source.space.toList ++
      '.' :: (linkage.source.kind.toList ++ '_' :: linkage.name.toList) := by
  simp [junction, Catalog.junctionName, TypeName.text, String.toList_append]

theorem junction_eq_iff_glued :
    a.junction = b.junction ↔ a.source.space = b.source.space ∧
      a.source.kind.toList ++ '_' :: a.name.toList =
        b.source.kind.toList ++ '_' :: b.name.toList := by
  rw [← String.toList_inj, toList_junction, toList_junction]
  constructor
  · intro same
    -- A space holds no dot, so the first dot ends it; separators may stand anywhere.
    obtain ⟨spaces, glued⟩ := parts_eq_of_marked a.source.partsOk.2.2.1 b.source.partsOk.2.2.1 same
    exact ⟨String.toList_inj.1 spaces, glued⟩
  · rintro ⟨spaces, glued⟩
    rw [spaces, glued]

theorem Overlaps.junction_eq (overlaps : a.Overlaps b) : a.junction = b.junction := by
  obtain ⟨spaces, middle, kinds, names⟩ := overlaps
  refine junction_eq_iff_glued.2 ⟨spaces, ?_⟩
  simp [kinds, names, String.toList_append]

/-- Where the kind of one source is the beginning of that of the other, either nothing is left of
the other or the relations overlap. -/
theorem overlaps_of_split {rest : List Char} (spaces : a.source.space = b.source.space)
    (kinds : b.source.kind.toList = a.source.kind.toList ++ rest)
    (names : '_' :: a.name.toList = rest ++ '_' :: b.name.toList) :
    (a.source = b.source ∧ a.name = b.name) ∨ a.Overlaps b := by
  cases rest with
  | nil =>
      refine Or.inl ⟨TypeName.text_injective ?_, ?_⟩
      · rw [← String.toList_inj, TypeName.toList_text, TypeName.toList_text, spaces, kinds,
          List.append_nil]
      · exact String.toList_inj.1 (List.cons.inj names).2
  | cons c rest =>
      obtain ⟨separator, names⟩ := List.cons.inj names
      subst separator
      refine Or.inr ⟨spaces, String.ofList rest, ?_, ?_⟩
      · rw [← String.toList_inj, kinds]
        simp [String.toList_append]
      · rw [← String.toList_inj]
        simpa [String.toList_append] using names

theorem junction_eq_iff (differ : ¬ (a.source = b.source ∧ a.name = b.name)) :
    a.junction = b.junction ↔ a.Overlaps b ∨ b.Overlaps a := by
  constructor
  · intro same
    obtain ⟨spaces, glued⟩ := junction_eq_iff_glued.1 same
    rcases List.append_eq_append_iff.1 glued with ⟨rest, kinds, names⟩ | ⟨rest, kinds, names⟩
    · exact Or.inl ((overlaps_of_split spaces kinds names).resolve_left differ)
    · refine Or.inr ((overlaps_of_split spaces.symm kinds names).resolve_left ?_)
      exact fun both => differ ⟨both.1.symm, both.2.symm⟩
  · rintro (overlaps | overlaps)
    · exact overlaps.junction_eq
    · exact overlaps.junction_eq.symm

theorem Overlaps.source_ne (overlaps : a.Overlaps b) : a.source ≠ b.source := by
  intro same
  obtain ⟨-, middle, kinds, -⟩ := overlaps
  rw [same] at kinds
  have lengths := congrArg (fun kind : String => kind.toList.length) kinds
  simp [String.toList_append] at lengths

theorem toldApart_of_clear {linkages : List Linkage}
    (clear : ∀ linkage ∈ linkages, '_' ∉ linkage.name.toList) : ToldApart linkages := by
  intro a member b _ overlaps
  obtain ⟨-, middle, -, names⟩ := overlaps
  refine clear a member ?_
  simp [names, String.toList_append]

end Linkage

namespace Catalog

/-! ## What declarations keep -/

/-- A catalog holds some many-to-many relations, the last one first: each is stored, there are no
others, and a junction has the entry of the last relation that got its name. -/
structure Linked (catalog : Catalog) (linkages : List Linkage) : Prop where
  declared : catalog.Declared (linkages.map Linkage.junction)
  stored : ∀ linkage ∈ linkages,
    catalog.relation? linkage.source linkage.name = some linkage.relation
  owned : ∀ model name relation junction side, catalog.relation? model name = some relation →
    relation.kind = .manyToMany junction side →
      ∃ linkage ∈ linkages, relation.table model junction side = linkage.entry
  entries : ∀ name, catalog.junction? name =
    (linkages.find? fun linkage => linkage.junction = name).map Linkage.entry
  differ : linkages.Pairwise fun a b => ¬ (a.source = b.source ∧ a.name = b.name)

theorem linked_empty : Catalog.empty.Linked [] := by
  refine ⟨Declared.empty, ?_, ?_, ?_, List.Pairwise.nil⟩
  · intro linkage member
    cases member
  · intro model name relation junction side stored
    cases stored
  · intro name
    rfl

variable {catalog grown : Catalog} {linkages : List Linkage}

theorem manyToMany_eq_ok_junction {linkage : Linkage} {junction : String}
    (success : catalog.manyToMany linkage.source linkage.name linkage.target linkage.reverse =
      .ok (junction, grown)) : junction = linkage.junction := by
  obtain ⟨_, -, success⟩ := bind_eq_ok success
  cases success
  rfl

theorem manyToMany_of_declare {linkage : Linkage}
    (success : (Declaration.manyToMany linkage).declare catalog = .ok grown) :
    ∃ junction, catalog.manyToMany linkage.source linkage.name linkage.target linkage.reverse =
      .ok (junction, grown) := by
  obtain ⟨⟨junction, _⟩, made, rfl⟩ := map_eq_ok success
  exact ⟨junction, made⟩

theorem model_of_relation {model : TypeName} {name : String} {relation : Relation}
    (stored : catalog.relation? model name = some relation) :
    ∃ definition, catalog.model? model = some definition := by
  obtain ⟨definition, known, -⟩ := Option.bind_eq_some_iff.1 stored
  exact ⟨definition, known⟩

theorem relation?_putPair_self {source : TypeName} {relation : Relation}
    (declarable : catalog.Declarable source relation) :
    (catalog.putPair source relation).relation? source relation.name = some relation := by
  rw [relation?_putPair declarable, if_neg declarable.notOwnReverse, if_pos ⟨rfl, rfl⟩]

namespace Linked

theorem model (linked : catalog.Linked linkages) {name : TypeName}
    {attributes : List (String × ValueKind)}
    (success : catalog.defineModel name attributes = .ok grown) : grown.Linked linkages := by
  have relations := relation?_defineModel success
  refine ⟨linked.declared.model name attributes success, ?_, ?_, ?_, linked.differ⟩
  · intro linkage member
    rw [relations]
    exact linked.stored linkage member
  · intro model member relation junction side stored
    rw [relations] at stored
    exact linked.owned model member relation junction side stored
  · intro junction
    rw [junction?_defineModel success]
    exact linked.entries junction

theorem stored_putPair (linked : catalog.Linked linkages) {source : TypeName} {relation : Relation}
    (declarable : catalog.Declarable source relation) {linkage : Linkage}
    (member : linkage ∈ linkages) :
    (catalog.putPair source relation).relation? linkage.source linkage.name =
      some linkage.relation := by
  have stored := linked.stored linkage member
  rw [relation?_putPair declarable, if_neg, if_neg, stored]
  · rintro ⟨sameSource, sameName⟩
    rw [sameSource, sameName, declarable.nameFree] at stored
    cases stored
  · rintro ⟨sameSource, sameName⟩
    rw [sameSource, sameName, declarable.reverseFree] at stored
    cases stored

theorem foreignKey (linked : catalog.Linked linkages) {source target : TypeName}
    {name reverse : String} (success : catalog.foreignKey source name target reverse = .ok grown) :
    grown.Linked linkages := by
  have declared := linked.declared.foreignKey source name target reverse success
  obtain ⟨declarable, rfl⟩ := foreignKey_eq_ok success
  refine ⟨declared, ?_, ?_, ?_, linked.differ⟩
  · intro linkage member
    exact linked.stored_putPair declarable member
  · intro model member relation junction side stored through
    rcases relation_of_putPair declarable stored with ⟨-, -, rfl⟩ | ⟨-, -, rfl⟩ | earlier
    · cases through
    · cases through
    · exact linked.owned model member relation junction side earlier through
  · intro junction
    rw [junction?_putPair]
    exact linked.entries junction

theorem manyToMany (linked : catalog.Linked linkages) {linkage : Linkage} {junction : String}
    (success : catalog.manyToMany linkage.source linkage.name linkage.target linkage.reverse =
      .ok (junction, grown)) : grown.Linked (linkage :: linkages) := by
  have declared := linked.declared.manyToMany linkage.source linkage.name linkage.target
    linkage.reverse success
  obtain rfl := manyToMany_eq_ok_junction success
  obtain ⟨declarable, models, junctions⟩ := manyToMany_eq_ok success
  change catalog.Declarable linkage.source linkage.relation at declarable
  change grown.models = (catalog.putPair linkage.source linkage.relation).models at models
  refine ⟨declared, ?_, ?_, ?_, List.pairwise_cons.2 ⟨?_, linked.differ⟩⟩
  · intro other member
    rw [relation?_eq_of_models_eq models]
    rcases List.mem_cons.1 member with rfl | earlier
    · exact relation?_putPair_self declarable
    · exact linked.stored_putPair declarable earlier
  · intro model member relation through side stored kind
    rw [relation?_eq_of_models_eq models] at stored
    rcases relation_of_putPair declarable stored with ⟨rfl, -, rfl⟩ | ⟨rfl, -, rfl⟩ | earlier
    · cases kind
      exact ⟨linkage, List.mem_cons_self .., rfl⟩
    · cases kind
      exact ⟨linkage, List.mem_cons_self .., rfl⟩
    · obtain ⟨other, isOther, entry⟩ :=
        linked.owned model member relation through side earlier kind
      exact ⟨other, List.mem_cons_of_mem _ isOther, entry⟩
  · intro name
    unfold junction?
    rw [junctions, SortedMap.get?_insert, List.find?_cons]
    -- An older entry of the same name is lost here.
    by_cases same : name = linkage.junction
    · subst same
      rw [if_pos rfl, decide_eq_true rfl]
      rfl
    · rw [if_neg same, decide_eq_false (Ne.symm same)]
      have kept := junction?_putPair catalog linkage.source linkage.relation name
      exact kept.trans (linked.entries name)
  · rintro other member ⟨sameSource, sameName⟩
    have stored := linked.stored other member
    have free : catalog.relation? linkage.source linkage.name = none := declarable.nameFree
    rw [← sameSource, ← sameName, free] at stored
    cases stored

theorem declare (linked : catalog.Linked linkages) {declaration : Declaration}
    (success : declaration.declare catalog = .ok grown) :
    grown.Linked (declaration.linkage?.toList ++ linkages) := by
  cases declaration with
  | model name attributes => exact linked.model success
  | foreignKey source name target reverse => exact linked.foreignKey success
  | manyToMany linkage =>
      obtain ⟨junction, made⟩ := manyToMany_of_declare success
      exact linked.manyToMany made

theorem declareAll (linked : catalog.Linked linkages) {declarations : List Declaration}
    (success : catalog.declareAll declarations = .ok grown) :
    grown.Linked (linkagesOf declarations ++ linkages) := by
  induction declarations generalizing catalog linkages with
  | nil =>
      cases success
      exact linked
  | cons declaration rest ih =>
      obtain ⟨next, made, success⟩ := bind_eq_ok success
      have order : linkagesOf (declaration :: rest) ++ linkages =
          linkagesOf rest ++ (declaration.linkage?.toList ++ linkages) := by
        cases declaration with
        | model name attributes => rfl
        | foreignKey source name target reverse => rfl
        | manyToMany linkage => simp [linkagesOf, Declaration.linkage?]
      rw [order]
      exact ih (linked.declare made) success

/-! ## When junctions tell relations apart -/

theorem eq_of_source (linked : catalog.Linked linkages) {a b : Linkage} (isFirst : a ∈ linkages)
    (isSecond : b ∈ linkages) (same : a.source = b.source ∧ a.name = b.name) : a = b := by
  have first := linked.stored a isFirst
  have second := linked.stored b isSecond
  rw [same.1, same.2, second] at first
  have relations : b.relation = a.relation := Option.some.inj first
  obtain ⟨source, name, target, reverse⟩ := a
  obtain ⟨source', name', target', reverse'⟩ := b
  obtain ⟨rfl, rfl⟩ : source = source' ∧ name = name' := same
  obtain ⟨-, rfl, -, rfl⟩ := Relation.mk.inj relations
  rfl

theorem junction_eq_iff (linked : catalog.Linked linkages) {a b : Linkage} (isFirst : a ∈ linkages)
    (isSecond : b ∈ linkages) (differ : a ≠ b) :
    a.junction = b.junction ↔ a.Overlaps b ∨ b.Overlaps a :=
  Linkage.junction_eq_iff fun same => differ (linked.eq_of_source isFirst isSecond same)

/-- No two relations share a junction just if no two overlap. -/
theorem nodup_iff (linked : catalog.Linked linkages) :
    (linkages.map Linkage.junction).Nodup ↔ ToldApart linkages := by
  constructor
  · intro nodup a isFirst b isSecond overlaps
    have same := List.inj_on_of_nodup_map nodup isFirst isSecond overlaps.junction_eq
    exact overlaps.source_ne (congrArg Linkage.source same)
  · intro apart
    have nodup : linkages.Nodup := by
      refine linked.differ.imp ?_
      rintro a b differ rfl
      exact differ ⟨rfl, rfl⟩
    refine nodup.map_on fun a isFirst b isSecond same => ?_
    by_contra differ
    rcases (linked.junction_eq_iff isFirst isSecond differ).1 same with forth | back
    · exact apart a isFirst b isSecond forth
    · exact apart b isSecond a isFirst back

theorem exists_owner (linked : catalog.Linked linkages) {model : TypeName} {name junction : String}
    {relation : Relation} {side : Side} (stored : catalog.relation? model name = some relation)
    (through : relation.kind = .manyToMany junction side) :
    ∃ linkage ∈ linkages, linkage.junction = junction ∧ linkage.Owns model name := by
  obtain ⟨linkage, member, entry⟩ := linked.owned model name relation junction side stored through
  obtain ⟨rfl, -⟩ := linked.declared.paired model name relation stored
  refine ⟨linkage, member, ?_⟩
  cases side with
  | left =>
      obtain ⟨named, source, -, accessor, -⟩ := Junction.mk.inj entry
      exact ⟨named.symm, Or.inl ⟨source, accessor⟩⟩
  | right =>
      obtain ⟨named, -, target, -, accessor⟩ := Junction.mk.inj entry
      exact ⟨named.symm, Or.inr ⟨target, accessor⟩⟩

theorem relation_of_owns (linked : catalog.Linked linkages) {linkage : Linkage}
    (member : linkage ∈ linkages) {model : TypeName} {name : String}
    (owns : linkage.Owns model name) :
    ∃ relation side, catalog.relation? model name = some relation ∧
      relation.kind = .manyToMany linkage.junction side ∧
        relation.table model linkage.junction side = linkage.entry := by
  have stored := linked.stored linkage member
  rcases owns with ⟨rfl, rfl⟩ | ⟨rfl, rfl⟩
  · exact ⟨_, .left, stored, rfl, rfl⟩
  · obtain ⟨-, -, back⟩ := linked.declared.paired _ _ _ stored
    exact ⟨_, .right, back, rfl, rfl⟩

theorem not_owns (linked : catalog.Linked linkages) {a b : Linkage} (isFirst : a ∈ linkages)
    (isSecond : b ∈ linkages) (differ : a.source ≠ b.source) : ¬ a.Owns b.source b.name := by
  intro owns
  have stored := linked.stored b isSecond
  obtain ⟨relation, side, found, through, entry⟩ := linked.relation_of_owns isFirst owns
  obtain rfl := Option.some.inj (stored.symm.trans found)
  obtain ⟨-, rfl⟩ := RelationKind.manyToMany.inj through
  exact differ (Junction.mk.inj entry).2.1.symm

theorem junctionsOwned_of_entries (linked : catalog.Linked linkages)
    (entries : ∀ linkage ∈ linkages,
      catalog.junction? linkage.junction = some linkage.entry) : catalog.JunctionsOwned := by
  intro model name relation junction side stored through
  obtain ⟨linkage, member, entry⟩ := linked.owned model name relation junction side stored through
  have named : junction = linkage.junction := by
    cases side with
    | left => exact (Junction.mk.inj entry).1
    | right => exact (Junction.mk.inj entry).1
  rw [named] at entry ⊢
  rw [entry]
  exact entries linkage member

theorem entry_of_junctionsOwned (linked : catalog.Linked linkages)
    (owned : catalog.JunctionsOwned) {linkage : Linkage} (member : linkage ∈ linkages) :
    catalog.junction? linkage.junction = some linkage.entry :=
  owned _ _ _ _ _ (linked.stored linkage member) rfl

theorem junctionsOwned_iff (linked : catalog.Linked linkages) :
    catalog.JunctionsOwned ↔ ToldApart linkages := by
  constructor
  · intro owned a isFirst b isSecond overlaps
    have first := linked.entry_of_junctionsOwned owned isFirst
    have second := linked.entry_of_junctionsOwned owned isSecond
    rw [overlaps.junction_eq, second] at first
    exact overlaps.source_ne (Junction.mk.inj (Option.some.inj first)).2.1.symm
  · intro apart
    exact linked.declared.junctionsOwned (linked.nodup_iff.2 apart)

end Linked

theorem linked_of_declareAll {declarations : List Declaration}
    (success : Catalog.empty.declareAll declarations = .ok catalog) :
    catalog.Linked (linkagesOf declarations) := by
  have linked := linked_empty.declareAll success
  rwa [List.append_nil] at linked

end Catalog
end EntitySearch
