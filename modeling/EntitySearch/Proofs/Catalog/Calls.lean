import EntitySearch.Proofs.Catalog.Junctions

/-!
# Calls on a catalog

A caller keeps one catalog and declares one thing after the other in it; a call that is refused is
answered with its error, and the caller goes on.  `Declaration.edit` is such a call as it changes the
catalog in place, check by check and write by write.  All its checks come before its first write, so
it changes the catalog as `Declaration.declare` says, or not at all (`edit_eq`).

Whatever calls are made, every relation can be walked back, and the members of a model have proper
names of their own.

Main statement: `wellLinked_of_calls`.
-/
set_option autoImplicit false
namespace EntitySearch

def Relation.Opposes (relation opposite : Relation) : Prop :=
  match relation.kind with
  | .foreignKey => opposite.kind = .reverseForeignKey relation.name
  | .reverseForeignKey field => opposite.name = field ∧ opposite.kind = .foreignKey
  | .manyToMany junction side => opposite.kind = .manyToMany junction side.other

namespace Catalog

/-- Every relation leads to a model that has a relation back, and the members of a model have
proper names of their own. -/
structure WellLinked (catalog : Catalog) : Prop where
  named : ∀ model definition name relation, catalog.model? model = some definition →
    definition.relations.get? name = some relation → relation.name = name
  opposite : ∀ model definition name relation, catalog.model? model = some definition →
    definition.relations.get? name = some relation →
      ∃ target opposite, catalog.model? relation.target = some target ∧
        target.relations.get? relation.reverse = some opposite ∧ opposite.target = model ∧
          opposite.reverse = relation.name ∧ relation.Opposes opposite
  apart : ∀ model definition name, catalog.model? model = some definition →
    ¬ (definition.attributes.contains name = true ∧ definition.relations.contains name = true)
  proper : ∀ model definition name, catalog.model? model = some definition →
    definition.hasMember name = true → name ≠ "" ∧ '.' ∉ name.toList

/-! ## Editing in place -/

/-- A change of a catalog in place; a failure leaves what was written before it. -/
abbrev Edit := EStateM SearchError Catalog

def require (check : Catalog → Except SearchError Unit) : Edit Unit := fun catalog =>
  match check catalog with
  | .ok _ => .ok () catalog
  | .error e => .error e catalog

def takeAttributes (name : TypeName) : List (String × ValueKind) → Model → Edit Model
  | [], model => pure model
  | (attr, kind) :: rest, model =>
    if isMemberName attr then
      takeAttributes name rest { model with attributes := model.attributes.insert attr kind }
    else throw (.schema (.invalidAttribute attr name))

def editModel (name : TypeName) (attributes : List (String × ValueKind)) : Edit Unit := do
  require fun catalog =>
    if catalog.models.contains name then .error (.schema (.modelExists name)) else .ok ()
  let model ← takeAttributes name attributes {}
  modify fun catalog => { catalog with models := catalog.models.insert name model }

def editPair (source : TypeName) (relation : Relation) : Edit Unit := do
  require fun catalog => catalog.checkFree source relation.name
  require fun catalog => catalog.checkFree relation.target relation.reverse
  if source = relation.target ∧ relation.name = relation.reverse then
    throw (.schema (.selfReverse relation.name source))
  modify fun catalog => catalog.putRelation source relation
  modify fun catalog => catalog.putRelation relation.target (relation.dual source)

end Catalog

def Declaration.edit : Declaration → Catalog.Edit Unit
  | .model name attributes => Catalog.editModel name attributes
  | .foreignKey source name target reverse =>
    Catalog.editPair source ⟨name, target, .foreignKey, reverse⟩
  | .manyToMany linkage => do
    Catalog.editPair linkage.source linkage.relation
    modify fun catalog =>
      { catalog with junctions := catalog.junctions.insert linkage.junction linkage.entry }

namespace Catalog

def afterCall (catalog : Catalog) (call : Declaration) : Catalog :=
  match call.edit catalog with
  | .ok _ after => after
  | .error _ after => after

def afterCalls (catalog : Catalog) (calls : List Declaration) : Catalog :=
  calls.foldl afterCall catalog

/-- What an edit answers and leaves if it does what a declaration says, or nothing. -/
def settle (catalog : Catalog) : Except SearchError Catalog → EStateM.Result SearchError Catalog Unit
  | .ok grown => .ok () grown
  | .error e => .error e catalog

theorem require_of_ok {check : Catalog → Except SearchError Unit} {catalog : Catalog}
    (passed : check catalog = .ok ()) : require check catalog = .ok () catalog := by
  rw [require, passed]

theorem require_of_error {check : Catalog → Except SearchError Unit} {catalog : Catalog}
    {e : SearchError} (failed : check catalog = .error e) :
    require check catalog = .error e catalog := by
  rw [require, failed]

theorem takeAttributes_eq (name : TypeName) (attributes : List (String × ValueKind))
    (model : Model) (catalog : Catalog) :
    takeAttributes name attributes model catalog =
      match attributes.find? fun a => !isMemberName a.1 with
      | some (attr, _) => .error (.schema (.invalidAttribute attr name)) catalog
      | none => .ok { model with
          attributes := attributes.foldl (fun taken a => taken.insert a.1 a.2) model.attributes }
        catalog := by
  induction attributes generalizing model with
  | nil => rfl
  | cons a rest ih =>
      obtain ⟨attr, kind⟩ := a
      unfold takeAttributes
      rw [List.find?_cons]
      cases proper : isMemberName attr with
      | true => exact ih _
      | false => rfl

theorem editPair_eq (source : TypeName) (relation : Relation) (catalog : Catalog) :
    editPair source relation catalog = settle catalog
      ((catalog.checkRelation source relation.name relation.target relation.reverse).map
        fun _ => catalog.putPair source relation) := by
  unfold editPair checkRelation
  -- Check by check: a refusal ends both with the catalog as it was.
  cases nameFree : catalog.checkFree source relation.name with
  | error e => exact bind_of_error (require_of_error nameFree)
  | ok _ =>
      rw [bind_of_ok (require_of_ok nameFree)]
      cases reverseFree : catalog.checkFree relation.target relation.reverse with
      | error e => exact bind_of_error (require_of_error reverseFree)
      | ok _ =>
          rw [bind_of_ok (require_of_ok reverseFree)]
          by_cases own : source = relation.target ∧ relation.name = relation.reverse
          · simp only [bind, Except.bind, if_pos own]
            rfl
          · simp only [bind, Except.bind, if_neg own]
            rfl

theorem editModel_eq (name : TypeName) (attributes : List (String × ValueKind))
    (catalog : Catalog) :
    editModel name attributes catalog = settle catalog (catalog.defineModel name attributes) := by
  unfold editModel defineModel
  cases known : catalog.models.contains name with
  | true => exact bind_of_error (require_of_error (by rw [known]; rfl))
  | false =>
      rw [bind_of_ok (require_of_ok (by rw [known]; rfl))]
      have taken := takeAttributes_eq name attributes {} catalog
      cases refused : attributes.find? fun a => !isMemberName a.1 with
      | some a =>
          rw [refused] at taken
          exact bind_of_error taken
      | none =>
          rw [refused] at taken
          exact bind_of_ok taken

/-- A call changes the catalog as its declaration says, or not at all. -/
theorem edit_eq (call : Declaration) (catalog : Catalog) :
    call.edit catalog = settle catalog (call.declare catalog) := by
  cases call with
  | model name attributes => exact editModel_eq name attributes catalog
  | foreignKey source name target reverse =>
      have edited := editPair_eq source ⟨name, target, .foreignKey, reverse⟩ catalog
      refine edited.trans ?_
      change _ = settle catalog (catalog.foreignKey source name target reverse)
      unfold Catalog.foreignKey
      cases catalog.checkRelation source name target reverse <;> rfl
  | manyToMany linkage =>
      have edited := editPair_eq linkage.source linkage.relation catalog
      -- The junction is written last, when nothing can be refused any more.
      change (editPair linkage.source linkage.relation >>= _) catalog = settle catalog
        ((catalog.manyToMany linkage.source linkage.name linkage.target linkage.reverse).map
          Prod.snd)
      unfold Catalog.manyToMany
      change _ = settle catalog (Except.map Prod.snd ((catalog.checkRelation linkage.source
        linkage.relation.name linkage.relation.target linkage.relation.reverse) >>= _))
      cases checked : catalog.checkRelation linkage.source linkage.relation.name
          linkage.relation.target linkage.relation.reverse with
      | error e =>
          rw [checked] at edited
          exact bind_of_error edited
      | ok _ =>
          rw [checked] at edited
          exact bind_of_ok edited

def Tidy (catalog : Catalog) : Prop :=
  ∀ model definition, catalog.model? model = some definition → ∀ name,
    (definition.hasMember name = true → isMemberName name = true) ∧
      ¬ (definition.attributes.contains name = true ∧ definition.relations.contains name = true)

variable {catalog grown : Catalog} {source target : TypeName} {name reverse : String}

theorem hasMember_insert (definition : Model) (relation : Relation) (name : String) :
    ({ definition with
        relations := definition.relations.insert relation.name relation } : Model).hasMember name =
      (decide (name = relation.name) || definition.hasMember name) := by
  simp only [Model.hasMember, SortedMap.contains, SortedMap.get?_insert]
  by_cases same : name = relation.name
  · simp [same]
  · simp [same]

theorem Vacant.putRelation (vacant : catalog.Vacant target reverse) {relation : Relation}
    (known : ∃ definition, catalog.model? source = some definition)
    (other : ¬ (target = source ∧ reverse = relation.name)) :
    (catalog.putRelation source relation).Vacant target reverse := by
  obtain ⟨definition, isTarget, free⟩ := vacant.free
  obtain ⟨_, known⟩ := known
  refine ⟨vacant.proper, ?_⟩
  rw [model?_putRelation known]
  by_cases same : target = source
  · subst same
    obtain rfl := Option.some.inj (isTarget.symm.trans known)
    refine ⟨_, if_pos rfl, ?_⟩
    have differs : reverse ≠ relation.name := fun sameName => other ⟨rfl, sameName⟩
    rw [hasMember_insert, decide_eq_false differs, free]
    rfl
  · exact ⟨definition, by rw [if_neg same, isTarget], free⟩

theorem Tidy.putRelation (tidy : catalog.Tidy) {relation : Relation}
    (vacant : catalog.Vacant source relation.name) :
    (catalog.putRelation source relation).Tidy := by
  obtain ⟨definition, known, free⟩ := vacant.free
  intro model found stored name
  rw [model?_putRelation known] at stored
  split at stored
  · next same =>
    obtain rfl := Option.some.inj stored
    obtain ⟨proper, apart⟩ := tidy source definition known name
    by_cases isNew : name = relation.name
    · subst isNew
      refine ⟨fun _ => vacant.proper, ?_⟩
      rintro ⟨isAttribute, -⟩
      rw [Model.hasMember, isAttribute] at free
      cases free
    · refine ⟨?_, ?_⟩
      · rw [hasMember_insert, decide_eq_false isNew, Bool.false_or]
        exact proper
      · rw [SortedMap.contains, SortedMap.contains, SortedMap.get?_insert, if_neg isNew]
        exact apart
  · exact tidy model found stored name

theorem Tidy.putPair (tidy : catalog.Tidy) {relation : Relation}
    (passed : catalog.checkRelation source relation.name relation.target relation.reverse = .ok ()) :
    (catalog.putPair source relation).Tidy := by
  obtain ⟨nameVacant, reverseVacant, notOwn⟩ := checkRelation_eq_ok passed
  have stillVacant := reverseVacant.putRelation nameVacant.known fun same =>
    notOwn ⟨same.1.symm, same.2.symm⟩
  exact (tidy.putRelation nameVacant).putRelation stillVacant

theorem Tidy.defineModel (tidy : catalog.Tidy) {attributes : List (String × ValueKind)}
    (success : catalog.defineModel source attributes = .ok grown) : grown.Tidy := by
  unfold Catalog.defineModel at success
  split at success
  · cases success
  · split at success
    · cases success
    · next proper =>
      cases success
      intro model found stored name
      rw [model?, SortedMap.get?_insert] at stored
      split at stored
      · obtain rfl := Option.some.inj stored
        refine ⟨fun isMember => ?_, fun both => Bool.noConfusion both.2⟩
        rw [Model.hasMember, Bool.or_eq_true] at isMember
        rcases isMember with isAttribute | isRelation
        · obtain ⟨kind, written⟩ := Option.isSome_iff_exists.1 isAttribute
          rcases SortedMap.mem_or_get?_of_foldl_insert written with given | none
          · simpa using List.find?_eq_none.1 proper _ given
          · cases none
        · cases isRelation
      · exact tidy model found stored name

theorem Tidy.of_models_eq (tidy : catalog.Tidy) (same : grown.models = catalog.models) :
    grown.Tidy := by
  intro model definition stored
  rw [model?, same] at stored
  exact tidy model definition stored

theorem Declared.tidy {names : List String} (declared : catalog.Declared names) :
    catalog.Tidy := by
  induction declared with
  | empty =>
      intro model definition stored
      cases stored
  | model name attributes _ success ih => exact ih.defineModel success
  | foreignKey source name target reverse _ success ih =>
      obtain ⟨_, passed, -⟩ := bind_eq_ok success
      obtain ⟨-, rfl⟩ := foreignKey_eq_ok success
      exact ih.putPair passed
  | manyToMany source name target reverse _ success ih =>
      obtain ⟨_, passed, -⟩ := bind_eq_ok success
      obtain ⟨-, models, -⟩ := manyToMany_eq_ok success
      exact (ih.putPair passed).of_models_eq models

/-! ## Calls -/

theorem Declared.declare {names : List String} (declared : catalog.Declared names)
    {call : Declaration} (success : call.declare catalog = .ok grown) :
    ∃ later, grown.Declared later := by
  cases call with
  | model name attributes => exact ⟨names, declared.model name attributes success⟩
  | foreignKey source name target reverse =>
      exact ⟨names, declared.foreignKey source name target reverse success⟩
  | manyToMany linkage =>
      obtain ⟨junction, made⟩ := manyToMany_of_declare success
      exact ⟨junction :: names, declared.manyToMany _ _ _ _ made⟩

theorem Declared.afterCall {names : List String} (declared : catalog.Declared names)
    (call : Declaration) : ∃ later, (catalog.afterCall call).Declared later := by
  unfold Catalog.afterCall
  rw [edit_eq]
  cases made : call.declare catalog with
  | error e => exact ⟨names, declared⟩
  | ok grown => exact declared.declare made

theorem Declared.afterCalls {names : List String} (declared : catalog.Declared names)
    (calls : List Declaration) : ∃ later, (catalog.afterCalls calls).Declared later := by
  induction calls generalizing catalog names with
  | nil => exact ⟨names, declared⟩
  | cons call rest ih =>
      obtain ⟨_, next⟩ := declared.afterCall call
      exact ih next

theorem relation?_of_model {model : TypeName} {definition : Model} {relation : Relation}
    (known : catalog.model? model = some definition)
    (stored : definition.relations.get? name = some relation) :
    catalog.relation? model name = some relation := by
  rw [relation?, known]
  exact stored

theorem opposes_dual (source : TypeName) {relation : Relation} (kindOk : relation.KindOk) :
    relation.Opposes (relation.dual source) := by
  unfold Relation.Opposes
  cases kind : relation.kind with
  | foreignKey => simp [Relation.dual, kind, RelationKind.dual]
  | reverseForeignKey field =>
      exact ⟨(kindOk field kind).symm, by simp [Relation.dual, kind, RelationKind.dual]⟩
  | manyToMany junction side => simp [Relation.dual, kind, RelationKind.dual]

theorem Declared.wellLinked {names : List String} (declared : catalog.Declared names) :
    catalog.WellLinked := by
  have paired := declared.paired
  have tidy := declared.tidy
  refine ⟨?_, ?_, ?_, ?_⟩
  · intro model definition name relation known stored
    exact (paired model name relation (relation?_of_model known stored)).1
  · intro model definition name relation known stored
    obtain ⟨-, kindOk, back⟩ := paired model name relation (relation?_of_model known stored)
    obtain ⟨target, isTarget, isOpposite⟩ := Option.bind_eq_some_iff.1 back
    exact ⟨target, relation.dual model, isTarget, isOpposite, rfl, rfl, opposes_dual model kindOk⟩
  · intro model definition name known
    exact (tidy model definition known name).2
  · intro model definition name known isMember
    have proper := (tidy model definition known name).1 isMember
    simpa [isMemberName] using proper

/-- Whatever is called on an empty catalog, with success or not: every relation can be walked back,
and members have proper names of their own.  A further call that succeeds does what its declaration
says, and one that fails leaves the catalog as it was. -/
theorem wellLinked_of_calls (calls : List Declaration) :
    let catalog := Catalog.empty.afterCalls calls
    catalog.WellLinked ∧ ∀ call : Declaration,
      (∀ after, call.edit catalog = .ok () after → call.declare catalog = .ok after) ∧
        ∀ e after, call.edit catalog = .error e after →
          call.declare catalog = .error e ∧ after = catalog := by
  intro catalog
  obtain ⟨names, declared⟩ := Declared.empty.afterCalls calls
  refine ⟨declared.wellLinked, fun call => ?_⟩
  rw [edit_eq]
  cases declares : call.declare catalog with
  | ok grown =>
      refine ⟨fun after edited => ?_, fun e after edited => ?_⟩
      · cases edited
        rfl
      · cases edited
  | error refused =>
      refine ⟨fun after edited => ?_, fun e after edited => ?_⟩
      · cases edited
      · cases edited
        exact ⟨rfl, rfl⟩

end Catalog
end EntitySearch
