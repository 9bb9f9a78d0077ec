import EntitySearch.Schema.EntityType

/-!
# The registry of entity types

A registry holds the searchable entity types over a catalog.  Registering checks that every name is
free and that every field path can be walked, so that nothing later fails on a path.

A change of a stored entity can change the documents of other entities.  `Registry.watchedModels`
and `Registry.watchedJunctions` list, for every step of every registered path, the model or the
junction that the step reaches and the relations that lead back from there to the owners of the
documents.
-/
set_option autoImplicit false
namespace EntitySearch

/-- A model on the way of a field: a change of one of its entities concerns the owners. -/
structure WatchedModel where
  owner : TypeName
  field : String
  related : TypeName
  wayBack : List String
deriving DecidableEq

/-- A junction on the way of a field: a change of its links concerns the owners. -/
structure WatchedJunction where
  junction : String
  owner : TypeName
  field : String
  left : TypeName
  right : TypeName
  leftWayBack : List String
  rightWayBack : List String
deriving DecidableEq

/-- Do two entries lead back to the same owners in the same way? -/
def WatchedModel.sameWay (a b : WatchedModel) : Bool :=
  a.owner = b.owner && a.related = b.related && a.wayBack = b.wayBack

def WatchedJunction.sameWays (a b : WatchedJunction) : Bool :=
  a.junction = b.junction && a.owner = b.owner && a.leftWayBack = b.leftWayBack &&
    a.rightWayBack = b.rightWayBack

def wayBack (steps : List Catalog.Hop) : List String := steps.reverse.map fun hop => hop.relation.reverse

structure Registry where
  catalog : Catalog
  types : SortedMap TypeName EntityType := .empty
  /-- The further names, with the names they stand for. -/
  others : SortedMap TypeName TypeName := .empty

namespace Registry

def isTaken (registry : Registry) (name : TypeName) : Bool :=
  registry.types.contains name || registry.others.contains name

def checkField (registry : Registry) (owner : TypeName) (field : Field) : Except SearchError Unit :=
  match registry.catalog.hops owner field.path.relations with
  | .error (current, hop) => .error (.schema (.unknownHop field.path.text owner current hop))
  | .ok steps =>
    let terminal := Catalog.terminal owner steps
    if (registry.catalog.attrKind? terminal field.path.attr).isSome then .ok ()
    else .error (.schema (.missingAttribute field.name owner terminal field.path.attr))

/-- Registers an entity type; a refusal leaves the registry as it is. -/
def register (registry : Registry) (type : EntityType) : Except SearchError Registry := do
  if registry.isTaken type.name then throw (.schema (.alreadyRegistered type.name))
  if (registry.catalog.model? type.name).isNone then throw (.schema (.noModel type.name))
  match type.others.find? fun other => registry.isTaken other || other = type.name with
  | some other => throw (.schema (.aliasTaken other type.name))
  | none => pure ()
  type.fields.forM (registry.checkField type.name)
  return { registry with
    types := registry.types.insert type.name type
    others := type.others.foldl (fun others other => others.insert other type.name) registry.others }

def ofTypes (catalog : Catalog) (types : List EntityType) : Except SearchError Registry :=
  types.foldlM register { catalog }

def lookup (registry : Registry) (name : TypeName) : Option EntityType :=
  registry.types.get? ((registry.others.get? name).getD name)

def get (registry : Registry) (name : TypeName) : Except SearchError EntityType :=
  match registry.lookup name with
  | some type => .ok type
  | none => .error (.notFound (.entityType name))

def isRegistered (registry : Registry) (name : TypeName) : Bool := registry.types.contains name

def entityTypes (registry : Registry) : List EntityType := registry.types.values

def steps (registry : Registry) (owner : TypeName) (field : Field) : Except SearchError (List Catalog.Hop) :=
  (registry.catalog.hops owner field.path.relations).mapError fun missing =>
    .schema (.missingRelation field.name owner missing.1 missing.2)

def stepsOf (registry : Registry) (owner : TypeName) (field : String) :
    Except SearchError (List Catalog.Hop) := do
  let type ← registry.get owner
  match type.field? field with
  | none => throw (.notFound (.field field owner))
  | some field => registry.steps type.name field

def reversePath (registry : Registry) (owner : TypeName) (field : String) :
    Except SearchError (List String) :=
  (registry.stepsOf owner field).map wayBack

def relatedType (registry : Registry) (owner : TypeName) (field : String) :
    Except SearchError (Option TypeName) :=
  (registry.stepsOf owner field).map fun steps => steps.getLast?.map fun hop => hop.relation.target

def relatedSteps (registry : Registry) : Except SearchError (List (TypeName × Field × List Catalog.Hop)) :=
  let related := registry.entityTypes.flatMap fun type => type.relatedFields.map fun field =>
    (type.name, field)
  related.mapM fun (owner, field) => (registry.steps owner field).map fun steps =>
    (owner, field, steps)

def modelsOnWay (owner : TypeName) (field : Field) (steps : List Catalog.Hop) : List WatchedModel :=
  (steps.mapIdx fun i hop =>
    { owner, field := field.name, related := hop.relation.target
      wayBack := wayBack (steps.take (i + 1)) })

/-- The entry for a step through a junction; `near` leads back from where the step starts and `far`
from where it ends. -/
def junctionOfStep (owner : TypeName) (field : Field) (hop : Catalog.Hop) (near far : List String) :
    Option WatchedJunction :=
  match hop.relation.junction? with
  | none => none
  | some (junction, .left) =>
    some { junction, owner, field := field.name, left := hop.source, right := hop.relation.target
           leftWayBack := near, rightWayBack := far }
  | some (junction, .right) =>
    some { junction, owner, field := field.name, left := hop.relation.target, right := hop.source
           leftWayBack := far, rightWayBack := near }

def junctionsOnWay (owner : TypeName) (field : Field) (steps : List Catalog.Hop) : List WatchedJunction :=
  (steps.mapIdx fun i hop =>
    junctionOfStep owner field hop (wayBack (steps.take i)) (wayBack (steps.take (i + 1)))).filterMap id

def watchedModels (registry : Registry) : Except SearchError (List WatchedModel) :=
  registry.relatedSteps.map fun found =>
    distinctBy WatchedModel.sameWay (found.flatMap fun (owner, field, steps) =>
      modelsOnWay owner field steps)

def watchedJunctions (registry : Registry) : Except SearchError (List WatchedJunction) :=
  registry.relatedSteps.map fun found =>
    distinctBy WatchedJunction.sameWays (found.flatMap fun (owner, field, steps) =>
      junctionsOnWay owner field steps)

end Registry
end EntitySearch
