import EntitySearch.Index.Job
import EntitySearch.Schema.Registry
import EntitySearch.Store.Change

/-!
# Reactions to changes

A watch knows the models and junctions whose changes concern the documents of registered types.
Told of a change, it finds the entities concerned by walking back to the owners in the store as it
is seen then, and reacts with one job for each of them.  A way back that cannot be walked is
reported and passed over.
-/
set_option autoImplicit false
namespace EntitySearch

/-- What is watched for the documents of registered types. -/
structure Watch where
  registry : Registry
  models : List WatchedModel
  junctions : List WatchedJunction

inductive Reaction where
  | enqueue (job : IndexJob)
  | report (entry : LogEntry)
deriving DecidableEq

namespace Watch

def ofRegistry (registry : Registry) : Except SearchError Watch := do
  let models ← registry.watchedModels
  let junctions ← registry.watchedJunctions
  return { registry, models, junctions }

def watchedModels (watch : Watch) : List TypeName := distinct (watch.models.map WatchedModel.related)

def watchedJunctions (watch : Watch) : List String :=
  distinct (watch.junctions.map WatchedJunction.junction)

/-- An entity concerned by a change, or a report about some that could not be found. -/
abbrev Finding := Except LogEntry EntityRef

def sameEntity : Finding → Finding → Bool
  | .ok a, .ok b => a = b
  | _, _ => false

/-- The reactions to findings: one job for each entity, at its first finding. -/
def reactions (job : EntityRef → IndexJob) (findings : List Finding) : List Reaction :=
  (distinctBy sameEntity findings).map fun
    | .ok entity => .enqueue (job entity)
    | .error entry => .report entry

/-- The entities that lead to a changed one along a watched way. -/
def ownersOfChange (view : StoreView) (entity : EntityRef) (watched : WatchedModel) : List Finding :=
  match view.resolve entity watched.wayBack with
  | .ok owners => (owners.filter fun owner => owner ≠ entity).map .ok
  | .error e =>
    let place := watched.owner.text ++ "." ++ watched.field
    [.error (.failure s!"cannot resolve owners of {entity} for '{place}': {e}")]

def ownJob (entity : EntityRef) : EntityChange → IndexJob
  | .deleted => .deindex entity
  | .created | .updated => .index entity none

def ownerJob (entity : EntityRef) (change : EntityChange) (owner : EntityRef) : IndexJob :=
  match change with
  | .deleted => .index owner (some (.instance entity))
  | .created | .updated => .index owner none

def onEntity (watch : Watch) (view : StoreView) (entity : EntityRef) (change : EntityChange) :
    List Reaction :=
  let own := if (watch.registry.lookup entity.typeName).isSome then [Reaction.enqueue (ownJob entity change)]
    else []
  let concerned := watch.models.filter fun watched => watched.related = entity.typeName
  own ++ reactions (ownerJob entity change) (concerned.flatMap (ownersOfChange view entity))

def ownersFrom (view : StoreView) (junction : String) (wayBack : List String) (end_ : EntityRef) :
    Except LogEntry (List EntityRef) :=
  (view.resolve end_ wayBack).mapError fun e =>
    .failure s!"cannot resolve owners of {end_} via '{junction}': {e}"

/-- The findings for one watched junction: first the reports, then the owners. -/
def ownersOfLinks (view : StoreView) (side : Side) (anchor : EntityRef) (linked : List EntityRef)
    (watched : WatchedJunction) : List Finding :=
  let (anchorWay, linkedWay) := match side with
    | .left => (watched.leftWayBack, watched.rightWayBack)
    | .right => (watched.rightWayBack, watched.leftWayBack)
  let walks := ownersFrom view watched.junction anchorWay anchor ::
    linked.map (ownersFrom view watched.junction linkedWay)
  let reports := walks.filterMap fun
    | .error entry => some entry
    | .ok _ => none
  let owners := walks.flatMap fun
    | .error _ => []
    | .ok owners => owners.filter fun owner => owner.typeName = watched.owner
  reports.map .error ++ owners.map .ok

def linkExclusion (junction : String) (change : LinkChange) (side : Side) (anchor : EntityRef)
    (linked : List EntityRef) : Option Exclusion :=
  match change with
  | .added => none
  | .removed => some (.links junction (linked.map fun other => Link.ofSide side anchor.id other.id))

def onLinks (watch : Watch) (view : StoreView) (junction : String) (change : LinkChange)
    (side : Side) (anchor : EntityRef) (linked : List EntityRef) : List Reaction :=
  let concerned := watch.junctions.filter fun watched => watched.junction = junction
  reactions (fun owner => .index owner (linkExclusion junction change side anchor linked))
    (concerned.flatMap (ownersOfLinks view side anchor linked))

def onChange (watch : Watch) (view : StoreView) : ChangeEvent → List Reaction
  | .entity entity change => watch.onEntity view entity change
  | .link junction change side anchor linked =>
    watch.onLinks view junction change side anchor linked

end Watch
end EntitySearch
