import EntitySearch.Proofs.Registry.Orderly
import EntitySearch.Search.Engine

/-!
# What names stand for

A caller keeps one registry and registers one type after the other in it; a call that is refused is
answered with its error, and the caller goes on.  `Registry.enter` is such a call as it changes the
registry in place: name, model, further names and fields are checked one by one, then the further
names are written one by one, and the type at last.  It leaves what `Registry.register` says, or the
registry as it was (`enter_eq`).

Whatever calls are made, a name that stands for a type stands for it ever after, and a search under
a further name answers what one under the type's own name does.

Main statement: `names_resolve_stably`.
-/
set_option autoImplicit false
namespace EntitySearch

namespace Registry

/-- Own names and further names are apart, and the further names are those that types list. -/
structure NamesApart (registry : Registry) : Prop where
  apart : ∀ name, ¬ (registry.types.contains name = true ∧ registry.others.contains name = true)
  listed : ∀ other name, registry.others.get? other = some name ↔
    ∃ type, registry.types.get? name = some type ∧ other ∈ type.others

end Registry

namespace EntityType

abbrev Entry := EStateM SearchError Registry

def checkName (type : EntityType) : Entry Unit := fun registry =>
  if registry.isTaken type.name then .error (.schema (.alreadyRegistered type.name)) registry
  else if (registry.catalog.model? type.name).isNone then
    .error (.schema (.noModel type.name)) registry
  else .ok () registry

def checkOther (type : EntityType) (other : TypeName) : Entry Unit := fun registry =>
  if registry.isTaken other || other = type.name then
    .error (.schema (.aliasTaken other type.name)) registry
  else .ok () registry

def checkPath (type : EntityType) (field : Field) : Entry Unit := fun registry =>
  match registry.checkField type.name field with
  | .ok _ => .ok () registry
  | .error e => .error e registry

def writeOther (type : EntityType) (other : TypeName) : Entry Unit :=
  modify fun registry => { registry with others := registry.others.insert other type.name }

def enter (type : EntityType) : Entry Unit := do
  type.checkName
  type.others.forM type.checkOther
  type.fields.forM type.checkPath
  type.others.forM type.writeOther
  modify fun registry => { registry with types := registry.types.insert type.name type }

theorem checkOthers_eq (type : EntityType) (others : List TypeName) (registry : Registry) :
    others.forM type.checkOther registry =
      match others.find? fun other => registry.isTaken other || other = type.name with
      | some other => .error (.schema (.aliasTaken other type.name)) registry
      | none => .ok () registry := by
  induction others with
  | nil => rfl
  | cons other rest ih =>
      rw [List.forM_eq_forM, List.forM_cons, List.find?_cons]
      by_cases clash : (registry.isTaken other || decide (other = type.name)) = true
      · have refused : type.checkOther other registry = _ := if_pos clash
        rw [clash]
        exact bind_of_error refused
      · have passed : type.checkOther other registry = _ := if_neg clash
        rw [bind_of_ok passed, Bool.eq_false_iff.2 clash]
        exact ih

theorem checkPaths_eq (type : EntityType) (fields : List Field) (registry : Registry) :
    fields.forM type.checkPath registry =
      match fields.forM (registry.checkField type.name) with
      | .ok _ => .ok () registry
      | .error e => .error e registry := by
  induction fields with
  | nil => rfl
  | cons field rest ih =>
      rw [List.forM_eq_forM, List.forM_cons, List.forM_eq_forM, List.forM_cons]
      cases checked : registry.checkField type.name field with
      | error e =>
          have refused : type.checkPath field registry = .error e registry := by
            rw [checkPath, checked]
          exact bind_of_error refused
      | ok _ =>
          have passed : type.checkPath field registry = .ok () registry := by
            rw [checkPath, checked]
          rw [bind_of_ok passed]
          exact ih

theorem writeOthers_eq (type : EntityType) (others : List TypeName) (registry : Registry) :
    others.forM type.writeOther registry =
      .ok () { registry with
        others := others.foldl (fun others other => others.insert other type.name)
          registry.others } := by
  induction others generalizing registry with
  | nil => rfl
  | cons other rest ih =>
      rw [List.forM_eq_forM, List.forM_cons, List.foldl_cons]
      exact ih { registry with others := registry.others.insert other type.name }

theorem enter_eq (type : EntityType) (registry : Registry) :
    type.enter registry =
      match registry.register type with
      | .ok grown => .ok () grown
      | .error e => .error e registry := by
  unfold enter Registry.register
  by_cases taken : registry.isTaken type.name = true
  · have refused : type.checkName registry = _ := if_pos taken
    rw [if_pos taken]
    exact bind_of_error refused
  have named : type.checkName registry = _ := if_neg taken
  rw [if_neg taken]
  by_cases unknown : (registry.catalog.model? type.name).isNone = true
  · rw [if_pos unknown] at named ⊢
    exact bind_of_error named
  rw [if_neg unknown] at named ⊢
  rw [bind_of_ok named]
  have others := checkOthers_eq type type.others registry
  cases clash : type.others.find? fun other => registry.isTaken other || other = type.name with
  | some other =>
      rw [clash] at others
      exact bind_of_error others
  | none =>
      rw [clash] at others
      rw [bind_of_ok others]
      have paths := checkPaths_eq type type.fields registry
      cases checked : type.fields.forM (registry.checkField type.name) with
      | error e =>
          rw [checked] at paths
          exact bind_of_error paths
      | ok _ =>
          rw [checked] at paths
          rw [bind_of_ok paths, bind_of_ok (writeOthers_eq type type.others registry)]
          rfl

end EntityType

namespace Registry
def afterCall (registry : Registry) (type : EntityType) : Registry :=
  match type.enter registry with
  | .ok _ after => after
  | .error _ after => after

def afterCalls (registry : Registry) (calls : List EntityType) : Registry :=
  calls.foldl afterCall registry

theorem afterCall_cases (registry : Registry) (type : EntityType) :
    registry.register type = .ok (registry.afterCall type) ∨ registry.afterCall type = registry := by
  unfold afterCall
  rw [EntityType.enter_eq]
  cases registry.register type with
  | ok grown => exact Or.inl rfl
  | error e => exact Or.inr rfl

variable {registry grown : Registry} {type : EntityType}

theorem NamesApart.of_mem (names : registry.NamesApart) {other name : TypeName}
    (stands : registry.others.get? other = some name) : registry.types.contains name = true := by
  obtain ⟨type, stored, -⟩ := (names.listed other name).1 stands
  rw [SortedMap.contains, stored]
  rfl

theorem lookup_eq_none {name : TypeName} (free : registry.isTaken name = false) :
    registry.lookup name = none := by
  obtain ⟨noType, noOther⟩ := isTaken_eq_false.1 free
  rw [lookup, noOther]
  exact noType

theorem lookup_register (names : registry.NamesApart)
    (success : registry.register type = .ok grown) (name : TypeName) :
    grown.lookup name =
      if name = type.name ∨ name ∈ type.others then some type else registry.lookup name := by
  have free : registry.isTaken type.name = false := isTaken_of_new success (Or.inl rfl)
  rw [lookup, get?_types_register success, get?_others_register success]
  by_cases isOther : name ∈ type.others
  · simp [isOther]
  · rw [if_neg isOther]
    by_cases isOwn : name = type.name
    · subst isOwn
      simp [(isTaken_eq_false.1 free).2]
    · have old : (registry.others.get? name).getD name ≠ type.name := by
        cases stands : registry.others.get? name with
        | none => exact isOwn
        | some own =>
            rintro rfl
            have known := names.of_mem stands
            rw [SortedMap.contains, (isTaken_eq_false.1 free).1] at known
            cases known
      simp [isOther, isOwn, old, lookup]

theorem NamesApart.register (names : registry.NamesApart)
    (success : registry.register type = .ok grown) : grown.NamesApart := by
  have free : ∀ name, name = type.name ∨ name ∈ type.others →
      registry.types.get? name = none ∧ registry.others.get? name = none :=
    fun name new => isTaken_eq_false.1 (isTaken_of_new success new)
  obtain ⟨-, othersFree, -, -⟩ := register_eq_ok success
  have types := get?_types_register success
  have others := get?_others_register success
  refine ⟨?_, ?_⟩
  · rintro name ⟨isType, isOther⟩
    simp only [SortedMap.contains, types, others] at isType isOther
    by_cases member : name ∈ type.others
    · rw [if_neg (othersFree name member).2, (free name (Or.inr member)).1] at isType
      cases isType
    · rw [if_neg member] at isOther
      split at isType
      · next isOwn =>
        rw [(free name (Or.inl isOwn)).2] at isOther
        cases isOther
      · exact names.apart name ⟨isType, isOther⟩
  · intro other name
    rw [others]
    constructor
    · intro stands
      split at stands
      · next member =>
        cases stands
        exact ⟨type, by rw [types, if_pos rfl], member⟩
      · obtain ⟨found, stored, member⟩ := (names.listed other name).1 stands
        refine ⟨found, ?_, member⟩
        rw [types, if_neg, stored]
        rintro rfl
        rw [(free type.name (Or.inl rfl)).1] at stored
        cases stored
    · rintro ⟨found, stored, member⟩
      rw [types] at stored
      split at stored
      · next isOwn =>
        cases stored
        rw [if_pos member, isOwn]
      · have stands := (names.listed other name).2 ⟨found, stored, member⟩
        rw [if_neg, stands]
        intro new
        rw [(free other (Or.inr new)).2] at stands
        cases stands

theorem mem_entityTypes_register (orderly : registry.Orderly)
    (success : registry.register type = .ok grown) {found : EntityType} :
    found ∈ grown.entityTypes ↔ found = type ∨ found ∈ registry.entityTypes := by
  rw [(orderly_register success orderly).mem_entityTypes, orderly.mem_entityTypes,
    get?_types_register success]
  by_cases same : found.name = type.name
  · have free := (isTaken_eq_false.1 (isTaken_of_new success (Or.inl rfl))).1
    rw [if_pos same, same, free]
    simp [eq_comm]
  · rw [if_neg same]
    constructor
    · exact Or.inr
    · rintro (rfl | stored)
      · exact absurd rfl same
      · exact stored

theorem lookup_afterCall (names : registry.NamesApart) (type : EntityType) {name : TypeName}
    {found : EntityType} (resolves : registry.lookup name = some found) :
    (registry.afterCall type).lookup name = some found := by
  rcases registry.afterCall_cases type with success | same
  · rw [lookup_register names success, if_neg, resolves]
    intro new
    rw [lookup_eq_none (isTaken_of_new success new)] at resolves
    cases resolves
  · rw [same, resolves]

/-! ## All calls -/

theorem NamesApart.afterCall (names : registry.NamesApart) (type : EntityType) :
    (registry.afterCall type).NamesApart := by
  rcases registry.afterCall_cases type with success | same
  · exact names.register success
  · rw [same]
    exact names

theorem NamesApart.afterCalls (names : registry.NamesApart) (calls : List EntityType) :
    (registry.afterCalls calls).NamesApart := by
  induction calls generalizing registry with
  | nil => exact names
  | cons type rest ih => exact ih (names.afterCall type)

theorem Orderly.afterCalls (orderly : registry.Orderly) (calls : List EntityType) :
    (registry.afterCalls calls).Orderly := by
  induction calls generalizing registry with
  | nil => exact orderly
  | cons type rest ih =>
      refine ih ?_
      rcases registry.afterCall_cases type with success | same
      · exact orderly_register success orderly
      · rw [same]
        exact orderly

/-- A name that stands for a type stands for it ever after. -/
theorem lookup_afterCalls (names : registry.NamesApart) (calls : List EntityType) {name : TypeName}
    {found : EntityType} (resolves : registry.lookup name = some found) :
    (registry.afterCalls calls).lookup name = some found := by
  induction calls generalizing registry with
  | nil => exact resolves
  | cons type rest ih => exact ih (names.afterCall type) (lookup_afterCall names type resolves)

theorem lookup_other (orderly : registry.Orderly) (names : registry.NamesApart)
    (member : type ∈ registry.entityTypes) {other : TypeName} (listed : other ∈ type.others) :
    registry.lookup other = some type := by
  have stored := orderly.mem_entityTypes.1 member
  rw [lookup, (names.listed other type.name).2 ⟨type, stored, listed⟩]
  exact stored

end Registry

/-! ## Searches -/

def SearchOutcome.silently (outcome : SearchOutcome) :
    Except SearchError Hits × Bool × SearchIndex :=
  (outcome.answer, outcome.restricted, outcome.index)

/-- Only reports tell by which of its names a type is searched. -/
theorem Engine.silently_search_of_get (engine : Engine) (search : Search) {name other : TypeName}
    (same : engine.registry.get name = engine.registry.get other) (now : Nat)
    (index : SearchIndex) :
    (engine.search { search with typeName := name } now index).silently =
      (engine.search { search with typeName := other } now index).silently := by
  unfold Engine.search
  simp only [same]
  split
  · rfl
  · split
    · rfl
    · split
      · rfl
      · unfold Engine.conclude
        dsimp only
        split
        · rfl
        · split <;> rfl

namespace Registry

theorem namesApart_empty (catalog : Catalog) : ({ catalog } : Registry).NamesApart := by
  refine ⟨?_, ?_⟩
  · rintro name ⟨isType, -⟩
    cases isType
  · intro other name
    constructor
    · intro stands
      cases stands
    · rintro ⟨type, stored, -⟩
      cases stored

theorem namesApart_of_ofTypes {catalog : Catalog} {types : List EntityType} {registry : Registry}
    (registered : ofTypes catalog types = .ok registry) : registry.NamesApart :=
  foldlM_keeps NamesApart.register (namesApart_empty catalog) registered

theorem get_of_named {catalog : Catalog} {types : List EntityType} {registry : Registry}
    (registered : ofTypes catalog types = .ok registry) {type : EntityType}
    (member : type ∈ registry.entityTypes) {name : TypeName}
    (named : name = type.name ∨ name ∈ type.others) : registry.get name = .ok type := by
  obtain ⟨orderly, -⟩ := orderly_of_ofTypes registered
  have looked : registry.lookup name = some type := by
    rcases named with rfl | listed
    · exact orderly.lookup_name member
    · exact lookup_other orderly (namesApart_of_ofTypes registered) member listed
  rw [Registry.get, looked]

/-- Whatever is registered over a catalog, with success or not: own names and further names are
apart, and names stand for what they stood for after any further calls.  A call that fails leaves
the registry as it was, and one that succeeds makes the names of its type stand for it, which stood
for nothing before.  A search under a further name does what one under the own name does. -/
theorem names_resolve_stably (catalog : Catalog) (calls : List EntityType) :
    let registry := ({ catalog } : Registry).afterCalls calls
    registry.NamesApart ∧
    (∀ name found, registry.lookup name = some found →
      ∀ later, (registry.afterCalls later).lookup name = some found) ∧
    (∀ (type : EntityType) e after, type.enter registry = .error e after →
      registry.register type = .error e ∧ after = registry) ∧
    (∀ (type : EntityType) after, type.enter registry = .ok () after →
      registry.register type = .ok after ∧
      (∀ found, found ∈ after.entityTypes ↔ found = type ∨ found ∈ registry.entityTypes) ∧
      ∀ name,
        (name = type.name ∨ name ∈ type.others →
          registry.lookup name = none ∧ after.lookup name = some type) ∧
        (¬ (name = type.name ∨ name ∈ type.others) → after.lookup name = registry.lookup name)) ∧
    ∀ type ∈ registry.entityTypes, ∀ other ∈ type.others,
      ∀ config view permissions (search : Search) now index,
        let engine : Engine := ⟨registry, config, view, permissions⟩
        (engine.search { search with typeName := other } now index).silently =
          (engine.search { search with typeName := type.name } now index).silently := by
  intro registry
  have orderly : registry.Orderly := (orderly_empty catalog).afterCalls calls
  have names : registry.NamesApart := (namesApart_empty catalog).afterCalls calls
  refine ⟨names, ?_, ?_, ?_, ?_⟩
  · intro name found resolves later
    exact lookup_afterCalls names later resolves
  · intro type e after refused
    rw [type.enter_eq] at refused
    cases registers : registry.register type with
    | ok grown =>
        rw [registers] at refused
        cases refused
    | error reason =>
        rw [registers] at refused
        cases refused
        exact ⟨rfl, rfl⟩
  · intro type after entered
    rw [type.enter_eq] at entered
    cases registers : registry.register type with
    | error reason =>
        rw [registers] at entered
        cases entered
    | ok grown =>
        rw [registers] at entered
        cases entered
        refine ⟨rfl, fun found => ?_, fun name => ⟨fun new => ⟨?_, ?_⟩, fun old => ?_⟩⟩
        · exact mem_entityTypes_register orderly registers
        · exact lookup_eq_none (isTaken_of_new registers new)
        · rw [lookup_register names registers, if_pos new]
        · rw [lookup_register names registers, if_neg old]
  · intro type member other listed config view permissions search now index engine
    refine engine.silently_search_of_get search ?_ now index
    change registry.get other = registry.get type.name
    rw [Registry.get, Registry.get, lookup_other orderly names member listed,
      orderly.lookup_name member]

end Registry

namespace Library

def volume : TypeName := ⟨"library", "volume", by decide⟩

/-- Books, which can be searched as volumes too. -/
def volumes : EntityType where
  name := book
  fields := [field "title" [] "title"]
  others := [volume]
  fields_ne_nil := by decide
  names_nodup := by decide

theorem volumes_stand_for_books :
    let registry := ({ catalog } : Registry).afterCalls [volumes]
    (∃ e, volumes.enter registry = .error e registry ∧ registry.register volumes = .error e) ∧
      (registry.afterCalls [volumes]).lookup volume = some volumes ∧
        ∀ config view permissions (search : Search) now index,
          let engine : Engine := ⟨registry, config, view, permissions⟩
          (engine.search { search with typeName := volume } now index).silently =
            (engine.search { search with typeName := book } now index).silently := by
  intro registry
  obtain ⟨-, stable, refused, -, searches⟩ := Registry.names_resolve_stably catalog [volumes]
  refine ⟨⟨_, rfl, (refused volumes _ _ rfl).1⟩, stable volume volumes rfl [volumes], ?_⟩
  exact searches volumes (List.mem_cons_self ..) volume (List.mem_cons_self ..)

end Library
end EntitySearch
