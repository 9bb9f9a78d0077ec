import EntitySearch.Proofs.Store.LinkEvents

/-!
# Writes in place

A store is one value that all calls change, and observers subscribe to it.  `Write.enact` is a call
as it changes the store in place: attributes and targets are checked one by one, links are made and
taken away one by one, and observers are told at the point where the call tells them.  What was
written and told before a failure would stay.

All checks of a call come before its first write and before observers are told, so `Write.enact`
does what `Write.operation` says, or nothing (`enact_eq`).  Which calls are refused can be told from
the catalog and from what is stored (`exists_operation_iff`).

Main statement: `calls_all_or_nothing`.
-/
set_option autoImplicit false
namespace EntitySearch

/-- A store with its observers. -/
structure Observed where
  store : Store
  heard : List (List Notice)

namespace Observed

def tell (site : Observed) (event : ChangeEvent) : Observed :=
  { site with heard := site.heard.map fun told => told ++ [⟨event, site.store⟩] }

/-- A change of a store with observers; a failure leaves what was done before it. -/
abbrev Edit := EStateM SearchError Observed

def look {α : Type} (view : Store → α) : Edit α := fun site => .ok (view site.store) site

def read {α : Type} (view : Store → Except SearchError α) : Edit α := fun site =>
  match view site.store with
  | .ok a => .ok a site
  | .error e => .error e site

def put (change : Store → Store) : Edit Unit :=
  modify fun site => { site with store := change site.store }

def announce (event : ChangeEvent) : Edit Unit := modify fun site => site.tell event

def nextId : Edit Nat := fun site =>
  .ok site.store.nextId { site with store := { site.store with nextId := site.store.nextId + 1 } }

def modelOf (type : TypeName) (store : Store) : Except SearchError Model :=
  match store.catalog.model? type with
  | some model => .ok model
  | none => .error (.storage (.unknownModel type))

def takeAttributes (type : TypeName) (model : Model) :
    List (String × Value) → SortedMap String Value → Edit (SortedMap String Value)
  | [], taken => pure taken
  | (attr, value) :: rest, taken =>
    if model.attributes.contains attr then takeAttributes type model rest (taken.insert attr value)
    else throw (.storage (.unknownAttribute type attr))

def checkAttributes (type : TypeName) (attributes : List (String × Value)) :
    Edit (SortedMap String Value) := do
  let model ← read (modelOf type)
  takeAttributes type model attributes .empty

def require (entity : EntityRef) (missing : SearchError) : Edit Unit := read fun store =>
  if store.contains entity then .ok () else .error missing

def putLinks (junction : String) (links : SortedSet Link) : Edit Unit := put fun store =>
  { store with links := store.links.insert junction links }

def addLink (junction : String) (link : Link) : Edit Bool := do
  let links ← look fun store => store.linkSet junction
  if links.contains link then return false
  putLinks junction (links.add link)
  return true

def addLinks (junction : String) (side : Side) (anchor : Nat) : List Nat → Edit (List Nat)
  | [] => pure []
  | id :: rest => do
    let isNew ← addLink junction (Link.ofSide side anchor id)
    let added ← addLinks junction side anchor rest
    return if isNew then id :: added else added

def dropLink (junction : String) (link : Link) : Edit Unit := do
  let links ← look fun store => store.linkSet junction
  putLinks junction (links.erase link)

def insert (type : TypeName) (attributes : List (String × Value)) : Edit EntityRef := do
  let attributes ← checkAttributes type attributes
  let id ← nextId
  put fun store => { store.putRecord ⟨type, id⟩ { attributes } with
    tables := SortedSet.add store.tables type }
  announce (.entity ⟨type, id⟩ .created)
  return ⟨type, id⟩

def update (entity : EntityRef) (attributes : List (String × Value)) : Edit Unit := do
  let attributes ← checkAttributes entity.typeName attributes
  let record ← read fun store => store.record entity
  put fun store => store.putRecord entity
    { record with attributes := record.attributes.insertAll attributes }
  announce (.entity entity .updated)

def setForeignKey (entity : EntityRef) (name : String) (target : Option Nat) : Edit Unit := do
  let relation ← read fun store => store.relation entity.typeName name
  if relation.kind ≠ .foreignKey then throw (.storage (.notForeignKey name entity.typeName))
  match target with
  | none => pure ()
  | some id => require ⟨relation.target, id⟩ (.storage (.missingKeyTarget ⟨relation.target, id⟩))
  let record ← read fun store => store.record entity
  put fun store => store.putRecord entity
    { record with foreignKeys := Store.withKey record.foreignKeys name target }
  announce (.entity entity .updated)

def delete (entity : EntityRef) : Edit Unit := do
  require entity (.notFound (.entity entity))
  announce (.entity entity .deleted)
  put fun store => { store with
    records := (store.records.erase entity).map
      (Store.clearKeys (store.keysToward entity.typeName) entity.id) }
  put fun store => { store with links := store.dropLinks entity }

def link (entity : EntityRef) (name : String) (targets : List Nat) : Edit Unit := do
  let (junction, side, type) ← read fun store => store.junctionOf entity name
  require entity (.notFound (.entity entity))
  targets.forM fun id => require ⟨type, id⟩ (.storage (.missingLinkTarget ⟨type, id⟩))
  let links ← look fun store => store.linkSet junction
  putLinks junction links
  let added ← addLinks junction side entity.id targets
  if added ≠ [] then
    announce (.link junction .added side entity (added.map (EntityRef.mk type)))

def unlink (entity : EntityRef) (name : String) (targets : List Nat) : Edit Unit := do
  let (junction, side, type) ← read fun store => store.junctionOf entity name
  let existing ← look fun store => store.linkedOf junction side entity.id targets
  if existing = [] then return
  announce (.link junction .removed side entity (existing.map (EntityRef.mk type)))
  existing.forM fun id => dropLink junction (Link.ofSide side entity.id id)

end Observed

def Write.enact : Write → Observed.Edit Unit
  | .insert type attributes => do let _ ← Observed.insert type attributes
  | .update entity attributes => Observed.update entity attributes
  | .setForeignKey entity name target => Observed.setForeignKey entity name target
  | .delete entity => Observed.delete entity
  | .link entity name targets => Observed.link entity name targets
  | .unlink entity name targets => Observed.unlink entity name targets

namespace Observed

def heardAfter (site : Observed) : Option Notice → List (List Notice)
  | none => site.heard
  | some notice => site.heard.map fun told => told ++ [notice]

/-- What a call answers and leaves if it does all that an outcome says, or nothing. -/
def settle {α : Type} (site : Observed) :
    Except SearchError (Outcome α) → EStateM.Result SearchError Observed α
  | .ok outcome => .ok outcome.answer ⟨outcome.after, site.heardAfter outcome.notice?⟩
  | .error e => .error e site

def afterCall (site : Observed) (call : Write) : Observed :=
  match call.enact site with
  | .ok _ after => after
  | .error _ after => after

def afterCalls (site : Observed) (calls : List Write) : Observed := calls.foldl afterCall site

variable {site : Observed}

/-! ## What the steps do -/

theorem read_of_ok {α : Type} {view : Store → Except SearchError α} {a : α}
    (found : view site.store = .ok a) : read view site = .ok a site := by
  rw [read, found]

theorem read_of_error {α : Type} {view : Store → Except SearchError α} {e : SearchError}
    (failed : view site.store = .error e) : read view site = .error e site := by
  rw [read, failed]

theorem require_of_contains {entity : EntityRef} (present : site.store.contains entity = true)
    (missing : SearchError) : require entity missing site = .ok () site :=
  read_of_ok (if_pos present)

theorem require_of_absent {entity : EntityRef} (absent : ¬ site.store.contains entity = true)
    (missing : SearchError) : require entity missing site = .error missing site :=
  read_of_error (if_neg absent)

theorem takeAttributes_eq (type : TypeName) (model : Model) (attributes : List (String × Value))
    (taken : SortedMap String Value) (site : Observed) :
    takeAttributes type model attributes taken site =
      match attributes.find? fun a => !model.attributes.contains a.1 with
      | some (attr, _) => .error (.storage (.unknownAttribute type attr)) site
      | none => .ok (attributes.foldl (fun taken a => taken.insert a.1 a.2) taken) site := by
  induction attributes generalizing taken with
  | nil => rfl
  | cons a rest ih =>
      obtain ⟨attr, value⟩ := a
      unfold takeAttributes
      rw [List.find?_cons]
      cases declared : model.attributes.contains attr with
      | true => exact ih _
      | false => rfl

theorem checkAttributes_eq (type : TypeName) (attributes : List (String × Value))
    (site : Observed) :
    checkAttributes type attributes site =
      read (fun store => store.checkAttributes type attributes) site := by
  cases known : site.store.catalog.model? type with
  | none =>
      have failed : read (modelOf type) site = .error (.storage (.unknownModel type)) site :=
        read_of_error (by rw [modelOf, known])
      have refused : site.store.checkAttributes type attributes =
          .error (.storage (.unknownModel type)) := by
        rw [Store.checkAttributes, known]
      rw [checkAttributes, bind_of_error failed, read_of_error refused]
  | some model =>
      have found : read (modelOf type) site = .ok model site :=
        read_of_ok (by rw [modelOf, known])
      rw [checkAttributes, bind_of_ok found, takeAttributes_eq, read, Store.checkAttributes, known]
      cases undeclared : attributes.find? fun a => !model.attributes.contains a.1 with
      | none => simp only [undeclared, SortedMap.ofList]
      | some a => simp only [undeclared]

theorem requireAll_eq (type : TypeName) (targets : List Nat) (site : Observed) :
    (targets.forM fun id => require ⟨type, id⟩ (.storage (.missingLinkTarget ⟨type, id⟩))) site =
      match targets.find? fun id => !site.store.contains ⟨type, id⟩ with
      | some id => .error (.storage (.missingLinkTarget ⟨type, id⟩)) site
      | none => .ok () site := by
  induction targets with
  | nil => rfl
  | cons id rest ih =>
      rw [List.forM_eq_forM, List.forM_cons, List.find?_cons]
      by_cases present : site.store.contains ⟨type, id⟩ = true
      · rw [bind_of_ok (require_of_contains present _), present]
        exact ih
      · rw [bind_of_error (require_of_absent present _), Bool.eq_false_iff.2 present]
        rfl

def withLinks (site : Observed) (junction : String) (links : SortedSet Link) : Observed :=
  { site with store := { site.store with links := site.store.links.insert junction links } }

theorem linkSet_withLinks (junction : String) (links : SortedSet Link) :
    (site.withLinks junction links).store.linkSet junction = links := by
  exact (Store.linkSet_insert junction junction links).trans (if_pos rfl)

theorem opened_of_linkedOf {junction : String} {side : Side} {anchor : Nat} {targets : List Nat}
    (linked : site.store.linkedOf junction side anchor targets ≠ []) :
    ∃ links, site.store.links.get? junction = some links := by
  obtain ⟨id, member⟩ := List.exists_mem_of_ne_nil _ linked
  have held := (List.mem_filter.1 member).2
  unfold Store.linkSet at held
  cases opened : site.store.links.get? junction with
  | some links => exact ⟨links, rfl⟩
  | none =>
      rw [opened] at held
      cases held

theorem withLinks_linkSet {junction : String}
    (opened : ∃ links, site.store.links.get? junction = some links) :
    site.withLinks junction (site.store.linkSet junction) = site := by
  obtain ⟨links, opened⟩ := opened
  have same : site.store.links.insert junction (site.store.linkSet junction) = site.store.links := by
    refine SortedMap.ext_get? fun name => ?_
    rw [SortedMap.get?_insert, Store.linkSet, opened]
    split
    · next own => rw [own, opened, Option.getD_some]
    · rfl
  unfold withLinks
  rw [same]

theorem withLinks_withLinks (junction : String) (old new : SortedSet Link) :
    (site.withLinks junction old).withLinks junction new = site.withLinks junction new := by
  have same : (site.store.links.insert junction old).insert junction new =
      site.store.links.insert junction new := by
    refine SortedMap.ext_get? fun name => ?_
    simp only [SortedMap.get?_insert]
    split <;> rfl
  unfold withLinks
  simp only [same]

theorem putLinks_withLinks (junction : String) (old new : SortedSet Link) :
    putLinks junction new (site.withLinks junction old) = .ok () (site.withLinks junction new) :=
  congrArg (EStateM.Result.ok ()) (withLinks_withLinks junction old new)

theorem contains_add (links : SortedSet Link) (link other : Link) :
    (links.add link).contains other = (decide (other = link) || links.contains other) := by
  unfold SortedSet.add SortedMap.contains
  rw [SortedMap.get?_insert]
  by_cases same : other = link <;> simp [same]

/-- Links are added one by one as the store adds them at once. -/
theorem addLinks_eq (junction : String) (side : Side) (anchor : Nat) (targets : List Nat)
    (site : Observed) (links : SortedSet Link) :
    let before := site.withLinks junction links
    let added := before.store.unlinkedOf junction side anchor targets
    addLinks junction side anchor targets before =
      .ok added (site.withLinks junction
        (added.foldl (fun links id => links.add (Link.ofSide side anchor id)) links)) := by
  induction targets generalizing links with
  | nil => rfl
  | cons id rest ih =>
      intro before added
      have held : before.store.linkSet junction = links := linkSet_withLinks junction links
      have looked : look (fun store => store.linkSet junction) before = .ok links before :=
        congrArg (EStateM.Result.ok · before) held
      rw [addLinks]
      by_cases old : links.contains (Link.ofSide side anchor id) = true
      · have kept : addLink junction (Link.ofSide side anchor id) before = .ok false before := by
          rw [addLink, bind_of_ok looked, if_pos old]
          rfl
        have same : added = before.store.unlinkedOf junction side anchor rest := by
          simp only [added, Store.unlinkedOf, held, List.filter_cons, old]
          rfl
        rw [bind_of_ok kept, bind_of_ok (ih links), ← same]
        rfl
      · let grown := links.add (Link.ofSide side anchor id)
        have made : addLink junction (Link.ofSide side anchor id) before =
            .ok true (site.withLinks junction grown) := by
          rw [addLink, bind_of_ok looked, if_neg old, bind_of_ok (putLinks_withLinks junction links _)]
          rfl
        have split : added = id :: (site.withLinks junction grown).store.unlinkedOf junction side
            anchor rest := by
          have later : (site.withLinks junction grown).store.unlinkedOf junction side anchor rest =
              distinct ((rest.filter fun b => !links.contains (Link.ofSide side anchor b)).filter
                fun b => decide (b ≠ id)) := by
            rw [Store.unlinkedOf, linkSet_withLinks, List.filter_filter]
            congr 2
            funext b
            simp only [grown, contains_add, (Link.ofSide_injective side anchor).eq_iff]
            by_cases same : b = id <;> simp [same]
          rw [later, distinct_filter]
          simp only [added, Store.unlinkedOf, held, List.filter_cons, Bool.eq_false_iff.2 old,
            Bool.not_false, if_true, distinct]
        rw [bind_of_ok made, bind_of_ok (ih grown), split]
        rfl

theorem dropLinks_eq (junction : String) (side : Side) (anchor : Nat) (ids : List Nat)
    (site : Observed) (links : SortedSet Link) :
    (ids.forM fun id => dropLink junction (Link.ofSide side anchor id))
        (site.withLinks junction links) =
      .ok () (site.withLinks junction
        (ids.foldl (fun links id => links.erase (Link.ofSide side anchor id)) links)) := by
  induction ids generalizing links with
  | nil => rfl
  | cons id rest ih =>
      have dropped : dropLink junction (Link.ofSide side anchor id) (site.withLinks junction links) =
          .ok () (site.withLinks junction (links.erase (Link.ofSide side anchor id))) := by
        have looked : look (fun store => store.linkSet junction) (site.withLinks junction links) =
            .ok links (site.withLinks junction links) :=
          congrArg (EStateM.Result.ok · _) (linkSet_withLinks junction links)
        rw [dropLink, bind_of_ok looked, putLinks_withLinks]
      rw [List.forM_eq_forM, List.forM_cons, bind_of_ok dropped]
      exact ih (links.erase (Link.ofSide side anchor id))

/-! ## What the calls do -/

section Reading
variable {α β : Type} {body : α → Edit β} {next : α → Except SearchError (Outcome β)}

theorem bind_read {view : Store → Except SearchError α}
    (each : ∀ a, view site.store = .ok a → body a site = site.settle (next a)) :
    (read view >>= body) site = site.settle (view site.store >>= next) := by
  cases found : view site.store with
  | error e => exact bind_of_error (read_of_error found)
  | ok a => exact (bind_of_ok (read_of_ok found)).trans (each a found)

end Reading

section Checking
variable {α : Type} {body : SortedMap String Value → Edit α}
  {next : SortedMap String Value → Except SearchError (Outcome α)}

theorem bind_checkAttributes {type : TypeName} {attributes : List (String × Value)}
    (each : ∀ taken, body taken site = site.settle (next taken)) :
    (checkAttributes type attributes >>= body) site =
      site.settle (site.store.checkAttributes type attributes >>= next) := by
  have same : checkAttributes type attributes =
      read fun store => store.checkAttributes type attributes :=
    funext fun site => checkAttributes_eq type attributes site
  rw [same]
  exact bind_read fun taken _ => each taken

end Checking

theorem insert_eq (type : TypeName) (attributes : List (String × Value)) (site : Observed) :
    insert type attributes site = site.settle (site.store.insert type attributes) :=
  bind_checkAttributes fun _ => rfl

theorem update_eq (entity : EntityRef) (attributes : List (String × Value)) (site : Observed) :
    update entity attributes site = site.settle (site.store.update entity attributes) :=
  bind_checkAttributes fun _ => bind_read fun _ _ => rfl

theorem setForeignKey_eq (entity : EntityRef) (name : String) (target : Option Nat)
    (site : Observed) :
    setForeignKey entity name target site =
      site.settle (site.store.setForeignKey entity name target) := by
  refine bind_read fun relation _ => ?_
  by_cases other : relation.kind ≠ .foreignKey
  · simp only [if_pos other]
    rfl
  · simp only [if_neg other]
    cases target with
    | none => exact bind_read fun _ _ => rfl
    | some id =>
        by_cases present : site.store.contains ⟨relation.target, id⟩ = true
        · refine (bind_of_ok (require_of_contains present _)).trans ?_
          simp only [present]
          exact bind_read fun _ _ => rfl
        · refine (bind_of_error (require_of_absent present _)).trans ?_
          simp only [Bool.eq_false_iff.2 present]
          rfl

theorem delete_eq (entity : EntityRef) (site : Observed) :
    delete entity site = site.settle (site.store.delete entity) := by
  unfold delete Store.delete
  by_cases present : site.store.contains entity = true
  · rw [bind_of_ok (require_of_contains present _), if_pos present]
    rfl
  · rw [bind_of_error (require_of_absent present _), if_neg present]
    rfl

theorem link_eq (entity : EntityRef) (name : String) (targets : List Nat) (site : Observed) :
    link entity name targets site = site.settle (site.store.link entity name targets) := by
  refine bind_read fun accessor _ => ?_
  obtain ⟨junction, side, type⟩ := accessor
  by_cases present : site.store.contains entity = true
  · refine (bind_of_ok (require_of_contains present _)).trans ?_
    obtain ⟨record, held⟩ := Store.contains_eq_true.1 present
    have targetsChecked := requireAll_eq type targets site
    simp only [Store.record, held, bind, Except.bind]
    cases missing : targets.find? fun id => !site.store.contains ⟨type, id⟩ with
    | some id =>
        rw [missing] at targetsChecked
        exact bind_of_error targetsChecked
    | none =>
        rw [missing] at targetsChecked
        refine (bind_of_ok targetsChecked).trans ?_
        -- Opening the junction is the first write; nothing can be refused any more.
        change (addLinks junction side entity.id targets >>= _)
          (site.withLinks junction (site.store.linkSet junction)) = _
        have added := addLinks_eq junction side entity.id targets site
          (site.store.linkSet junction)
        simp only [Store.unlinkedOf, linkSet_withLinks] at added
        refine (bind_of_ok added).trans ?_
        simp only [List.isEmpty_iff]
        by_cases none : distinct (targets.filter fun id =>
            !(site.store.linkSet junction).contains (Link.ofSide side entity.id id)) = []
        · rw [if_neg (not_not.2 none), if_pos none]
          rfl
        · rw [if_pos none, if_neg none]
          rfl
  · have unheld : site.store.records.get? entity = none := by
      simpa [Store.contains, SortedMap.contains] using present
    simp only [Store.record, unheld]
    exact bind_of_error (require_of_absent present _)

theorem unlink_eq (entity : EntityRef) (name : String) (targets : List Nat) (site : Observed) :
    unlink entity name targets site = site.settle (site.store.unlink entity name targets) := by
  refine bind_read fun accessor _ => ?_
  obtain ⟨junction, side, type⟩ := accessor
  simp only [List.isEmpty_iff]
  let existing := site.store.linkedOf junction side entity.id targets
  change (ite (existing = []) (pure ()) _ : Edit Unit) site =
    site.settle (ite (existing = []) _ _)
  by_cases none : existing = []
  · rw [if_pos none, if_pos none]
    rfl
  · rw [if_neg none, if_neg none]
    let told := site.tell (.link junction .removed side entity (existing.map (EntityRef.mk type)))
    change (existing.forM fun id => dropLink junction (Link.ofSide side entity.id id)) told = _
    have unchanged : told.withLinks junction (site.store.linkSet junction) = told :=
      withLinks_linkSet (opened_of_linkedOf none)
    rw [← unchanged, dropLinks_eq]
    rfl

theorem enact_eq (call : Write) (site : Observed) :
    call.enact site = site.settle (call.operation site.store) := by
  cases call with
  | insert type attributes =>
      have inserted := insert_eq type attributes site
      change (insert type attributes >>= _) site = site.settle (Except.map _ _)
      cases success : site.store.insert type attributes with
      | error e =>
          rw [success] at inserted
          exact bind_of_error inserted
      | ok outcome =>
          rw [success] at inserted
          exact bind_of_ok inserted
  | update entity attributes => exact update_eq entity attributes site
  | setForeignKey entity name target => exact setForeignKey_eq entity name target site
  | delete entity => exact delete_eq entity site
  | link entity name targets => exact link_eq entity name targets site
  | unlink entity name targets => exact unlink_eq entity name targets site

theorem afterCall_of_ok {call : Write} {outcome : Outcome Unit}
    (success : call.operation site.store = .ok outcome) :
    site.afterCall call = ⟨outcome.after, site.heardAfter outcome.notice?⟩ := by
  rw [afterCall, enact_eq, success]
  rfl

theorem afterCall_of_error {call : Write} {e : SearchError}
    (failed : call.operation site.store = .error e) : site.afterCall call = site := by
  rw [afterCall, enact_eq, failed]
  rfl

theorem store_afterCall (site : Observed) (call : Write) :
    (site.afterCall call).store = site.store.perform call := by
  unfold Store.perform
  cases made : call.operation site.store with
  | ok outcome => rw [afterCall_of_ok made]
  | error e => rw [afterCall_of_error made]

theorem store_afterCalls (site : Observed) (calls : List Write) :
    (site.afterCalls calls).store = site.store.run calls := by
  induction calls generalizing site with
  | nil => rfl
  | cons call rest ih =>
      have later := ih (site.afterCall call)
      rw [store_afterCall] at later
      exact later

theorem length_heard_afterCall (site : Observed) (call : Write) :
    (site.afterCall call).heard.length = site.heard.length := by
  cases made : call.operation site.store with
  | error e => rw [afterCall_of_error made]
  | ok outcome =>
      rw [afterCall_of_ok made]
      cases outcome.notice? with
      | none => rfl
      | some notice => exact List.length_map _

theorem length_heard_afterCalls (site : Observed) (calls : List Write) :
    (site.afterCalls calls).heard.length = site.heard.length := by
  induction calls generalizing site with
  | nil => rfl
  | cons call rest ih => exact (ih (site.afterCall call)).trans (length_heard_afterCall site call)

end Observed

/-! ## Refusals -/

namespace Store

def Declares (store : Store) (type : TypeName) (attributes : List (String × Value)) : Prop :=
  ∃ model, store.catalog.model? type = some model ∧
    ∀ a ∈ attributes, model.attributes.contains a.1 = true

end Store

/-- A call names models, attributes and relations of the right kind, and stored entities. -/
def Write.Admitted (store : Store) : Write → Prop
  | .insert type attributes => store.Declares type attributes
  | .update entity attributes =>
    store.Declares entity.typeName attributes ∧ store.contains entity = true
  | .setForeignKey entity name target =>
    (∃ relation, store.catalog.relation? entity.typeName name = some relation ∧
      relation.kind = .foreignKey ∧ ∀ id ∈ target, store.contains ⟨relation.target, id⟩ = true) ∧
    store.contains entity = true
  | .delete entity => store.contains entity = true
  | .link entity name targets =>
    (∃ relation junction side, store.catalog.relation? entity.typeName name = some relation ∧
      relation.kind = .manyToMany junction side ∧
      ∀ id ∈ targets, store.contains ⟨relation.target, id⟩ = true) ∧
    store.contains entity = true
  -- What is not stored has no links, so there is nothing to take away.
  | .unlink entity name _ =>
    ∃ relation junction side, store.catalog.relation? entity.typeName name = some relation ∧
      relation.kind = .manyToMany junction side

namespace Store
variable {store : Store}

theorem exists_checkAttributes_iff {type : TypeName} {attributes : List (String × Value)} :
    (∃ checked, store.checkAttributes type attributes = .ok checked) ↔
      store.Declares type attributes := by
  unfold checkAttributes Declares
  cases known : store.catalog.model? type with
  | none => simp
  | some model =>
      simp only [Option.some.injEq, exists_eq_left']
      cases undeclared : attributes.find? fun a => !model.attributes.contains a.1 with
      | none => simpa using List.find?_eq_none.1 undeclared
      | some a =>
          have lacks := List.find?_some undeclared
          simp only [reduceCtorEq, exists_false, false_iff]
          intro all
          simp [all a (List.mem_of_find?_eq_some undeclared)] at lacks

theorem exists_record_iff {entity : EntityRef} :
    (∃ record, store.record entity = .ok record) ↔ store.contains entity = true := by
  rw [contains_eq_true, Store.record]
  cases store.records.get? entity <;> simp

theorem exists_insert_of_declares {type : TypeName} {attributes : List (String × Value)}
    (declared : store.Declares type attributes) :
    ∃ outcome, store.insert type attributes = .ok outcome := by
  obtain ⟨checked, check⟩ := exists_checkAttributes_iff.2 declared
  rw [Store.insert, check]
  exact ⟨_, rfl⟩

theorem exists_update {entity : EntityRef} {attributes : List (String × Value)}
    (declared : store.Declares entity.typeName attributes)
    (present : store.contains entity = true) :
    ∃ outcome, store.update entity attributes = .ok outcome := by
  obtain ⟨checked, check⟩ := exists_checkAttributes_iff.2 declared
  obtain ⟨record, held⟩ := exists_record_iff.2 present
  rw [Store.update, check]
  simp only [bind, Except.bind, held]
  exact ⟨_, rfl⟩

theorem exists_setForeignKey {entity : EntityRef} {name : String} {target : Option Nat}
    {relation : Relation} (stored : store.catalog.relation? entity.typeName name = some relation)
    (isKey : relation.kind = .foreignKey)
    (targets : ∀ id ∈ target, store.contains ⟨relation.target, id⟩ = true)
    (present : store.contains entity = true) :
    ∃ outcome, store.setForeignKey entity name target = .ok outcome := by
  obtain ⟨record, held⟩ := exists_record_iff.2 present
  have isOfKind : ¬ relation.kind ≠ .foreignKey := not_not.2 isKey
  cases target with
  | none =>
      simp only [Store.setForeignKey, Store.relation, stored, bind, Except.bind, if_neg isOfKind,
        held]
      exact ⟨_, rfl⟩
  | some id =>
      simp only [Store.setForeignKey, Store.relation, stored, bind, Except.bind, if_neg isOfKind,
        targets id rfl, held]
      exact ⟨_, rfl⟩

theorem admitted_of_operation {call : Write} {outcome : Outcome Unit}
    (success : call.operation store = .ok outcome) : call.Admitted store := by
  cases call with
  | insert type attributes =>
      obtain ⟨created, inserted, -⟩ := operation_insert_eq_ok success
      obtain ⟨checked, check, -⟩ := insert_eq_ok inserted
      exact exists_checkAttributes_iff.1 ⟨checked, check⟩
  | update entity attributes =>
      obtain ⟨record, held, checked, check, -⟩ := update_eq_ok success
      exact ⟨exists_checkAttributes_iff.1 ⟨checked, check⟩, contains_eq_true.2 ⟨record, held⟩⟩
  | setForeignKey entity name target =>
      obtain ⟨relation, stored, isKey, targets, record, held, -⟩ := setForeignKey_eq_ok success
      exact ⟨⟨relation, stored, isKey, targets⟩, contains_eq_true.2 ⟨record, held⟩⟩
  | delete entity => exact (delete_eq_ok success).1
  | link entity name targets =>
      obtain ⟨relation, junction, side, stored, through, present, all, -⟩ := link_eq_ok success
      exact ⟨⟨relation, junction, side, stored, through, all⟩, present⟩
  | unlink entity name targets =>
      obtain ⟨relation, junction, side, stored, through, -⟩ := unlink_eq_ok success
      exact ⟨relation, junction, side, stored, through⟩

theorem exists_operation_of_admitted {call : Write} (admitted : call.Admitted store) :
    ∃ outcome, call.operation store = .ok outcome := by
  cases call with
  | insert type attributes =>
      obtain ⟨outcome, success⟩ := exists_insert_of_declares admitted
      rw [Write.operation, success]
      exact ⟨_, rfl⟩
  | update entity attributes =>
      obtain ⟨declared, present⟩ := admitted
      exact exists_update declared present
  | setForeignKey entity name target =>
      obtain ⟨⟨relation, stored, isKey, targets⟩, present⟩ := admitted
      exact exists_setForeignKey stored isKey targets present
  | delete entity => exact exists_delete admitted
  | link entity name targets =>
      obtain ⟨⟨relation, junction, side, stored, through, all⟩, present⟩ := admitted
      exact exists_link stored through present targets all
  | unlink entity name targets =>
      obtain ⟨relation, junction, side, stored, through⟩ := admitted
      exact exists_unlink stored through targets

theorem exists_operation_iff {call : Write} :
    (∃ outcome, call.operation store = .ok outcome) ↔ call.Admitted store := by
  constructor
  · rintro ⟨outcome, success⟩
    exact admitted_of_operation success
  · exact exists_operation_of_admitted

end Store

/-! ## Successes -/

/-- What observers are told of a call that creates, changes or deletes an entity, with the store
they see. -/
def Write.entityNotice? (before after : Store) : Write → Option Notice
  | .insert type _ => some ⟨.entity ⟨type, before.nextId⟩ .created, after⟩
  | .update entity _ => some ⟨.entity entity .updated, after⟩
  | .setForeignKey entity _ _ => some ⟨.entity entity .updated, after⟩
  | .delete entity => some ⟨.entity entity .deleted, before⟩
  | .link .. => none
  | .unlink .. => none

theorem Store.entityNotice_of_operation {store : Store} {call : Write} {outcome : Outcome Unit}
    (success : call.operation store = .ok outcome) :
    ∀ notice ∈ call.entityNotice? store outcome.after, outcome.notice? = some notice := by
  rintro notice told
  cases call with
  | insert type attributes =>
      obtain ⟨created, inserted, rfl⟩ := operation_insert_eq_ok success
      obtain ⟨_, -, -, -, noticed⟩ := insert_eq_ok inserted
      cases told
      exact noticed
  | update entity attributes =>
      obtain ⟨_, -, _, -, -, noticed⟩ := update_eq_ok success
      cases told
      exact noticed
  | setForeignKey entity name target =>
      obtain ⟨_, -, -, -, _, -, -, noticed⟩ := setForeignKey_eq_ok success
      cases told
      exact noticed
  | delete entity =>
      obtain ⟨-, -, noticed⟩ := delete_eq_ok success
      cases told
      exact noticed
  | link entity name targets => cases told
  | unlink entity name targets => cases told

namespace Observed

/-- Whatever calls were made before on a store with observers, with success or not: a call that names
a model, an attribute, a relation of the right kind or an entity that there is not fails, and leaves
the store and what observers heard exactly as they were.  Any other call succeeds and does what its
operation says; if it creates, changes or deletes an entity, every observer is told of that once and
of nothing else. -/
theorem calls_all_or_nothing (start : Observed) (earlier : List Write) (call : Write) :
    let site := start.afterCalls earlier
    (site.store = start.store.run earlier ∧ site.heard.length = start.heard.length) ∧
      match call.enact site with
      | .error e after => ¬ call.Admitted site.store ∧ call.operation site.store = .error e ∧
          after = site
      | .ok _ after => call.Admitted site.store ∧
          (∃ outcome, call.operation site.store = .ok outcome ∧ after.store = outcome.after) ∧
          ∀ notice ∈ call.entityNotice? site.store after.store,
            after.heard = site.heard.map fun told => told ++ [notice] := by
  intro site
  refine ⟨⟨store_afterCalls .., length_heard_afterCalls ..⟩, ?_⟩
  rw [enact_eq]
  cases made : call.operation site.store with
  | error e =>
      refine ⟨fun admitted => ?_, rfl, rfl⟩
      obtain ⟨outcome, success⟩ := Store.exists_operation_iff.2 admitted
      cases made.symm.trans success
  | ok outcome =>
      refine ⟨Store.exists_operation_iff.1 ⟨outcome, made⟩, ⟨outcome, rfl, rfl⟩, ?_⟩
      intro notice told
      have noticed := Store.entityNotice_of_operation made notice told
      change site.heardAfter outcome.notice? = _
      rw [noticed]
      rfl

end Observed
end EntitySearch
