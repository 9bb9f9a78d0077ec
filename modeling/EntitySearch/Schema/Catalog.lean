import EntitySearch.Data.SortedMap
import EntitySearch.Error
import EntitySearch.Schema.Link
import EntitySearch.Schema.Value

/-!
# The catalog of models

A model has attributes with their kinds and named relations to other models.  Declaring a relation
declares the accessor that leads back on the target model as well, so every step can be walked both
ways.  A foreign key is stored on its source; its other end is the list of the records that point at
a record.  A many-to-many relation goes through a junction, named after its source and its
relation; the declaring side is the left one.

A declaration that is refused leaves the catalog as it is.  `Catalog.hops` follows the relations of
a path from model to model.
-/
set_option autoImplicit false
namespace EntitySearch

/-- How a relation reaches its target. -/
inductive RelationKind where
  | foreignKey
  | reverseForeignKey (field : String)
  | manyToMany (junction : String) (side : Side)
deriving DecidableEq, Repr

structure Relation where
  name : String
  target : TypeName
  kind : RelationKind
  reverse : String
deriving DecidableEq

/-- The junction a relation goes through, and the side it is on. -/
def Relation.junction? (relation : Relation) : Option (String × Side) :=
  match relation.kind with
  | .manyToMany junction side => some (junction, side)
  | _ => none

structure Model where
  attributes : SortedMap String ValueKind := .empty
  relations : SortedMap String Relation := .empty
deriving DecidableEq

def Model.hasMember (model : Model) (name : String) : Bool :=
  model.attributes.contains name || model.relations.contains name

/-- The link table of a many-to-many relation. -/
structure Junction where
  name : String
  left : TypeName
  right : TypeName
  leftRelation : String
  rightRelation : String
deriving DecidableEq

structure Catalog where
  models : SortedMap TypeName Model := .empty
  junctions : SortedMap String Junction := .empty
deriving DecidableEq

namespace Catalog

def empty : Catalog := {}

def model? (catalog : Catalog) (name : TypeName) : Option Model := catalog.models.get? name

def relation? (catalog : Catalog) (model : TypeName) (relation : String) : Option Relation :=
  (catalog.model? model).bind fun m => m.relations.get? relation

def attrKind? (catalog : Catalog) (model : TypeName) (attr : String) : Option ValueKind :=
  (catalog.model? model).bind fun m => m.attributes.get? attr

def junction? (catalog : Catalog) (name : String) : Option Junction := catalog.junctions.get? name

def isMemberName (name : String) : Bool := name ≠ "" && !name.toList.contains '.'

/-- Declares a model with its attributes; a later attribute of one name replaces an earlier one. -/
def defineModel (catalog : Catalog) (name : TypeName) (attributes : List (String × ValueKind)) :
    Except SearchError Catalog :=
  if catalog.models.contains name then .error (.schema (.modelExists name))
  else match attributes.find? fun a => !isMemberName a.1 with
    | some (attr, _) => .error (.schema (.invalidAttribute attr name))
    | none =>
      .ok { catalog with
        models := catalog.models.insert name { attributes := SortedMap.ofList attributes } }

def checkFree (catalog : Catalog) (model : TypeName) (member : String) : Except SearchError Unit :=
  match catalog.model? model with
  | none => .error (.schema (.unknownModel model))
  | some definition =>
    if !isMemberName member then .error (.schema (.invalidRelation member model))
    else if definition.hasMember member then .error (.schema (.memberExists model member))
    else .ok ()

def checkRelation (catalog : Catalog) (source : TypeName) (name : String) (target : TypeName)
    (reverse : String) : Except SearchError Unit := do
  catalog.checkFree source name
  catalog.checkFree target reverse
  if source = target ∧ name = reverse then throw (.schema (.selfReverse name source))

def putRelation (catalog : Catalog) (model : TypeName) (relation : Relation) : Catalog :=
  match catalog.model? model with
  | none => catalog
  | some definition =>
    let relations := definition.relations.insert relation.name relation
    { catalog with models := catalog.models.insert model { definition with relations := relations } }

/-- Declares a foreign key `source.name` to `target` with the reverse accessor `target.reverse`. -/
def foreignKey (catalog : Catalog) (source : TypeName) (name : String) (target : TypeName)
    (reverse : String) : Except SearchError Catalog := do
  catalog.checkRelation source name target reverse
  return (catalog.putRelation source ⟨name, target, .foreignKey, reverse⟩).putRelation target
    ⟨reverse, source, .reverseForeignKey name, name⟩

def junctionName (source : TypeName) (name : String) : String := source.text ++ "_" ++ name

def manyToMany (catalog : Catalog) (source : TypeName) (name : String) (target : TypeName)
    (reverse : String) : Except SearchError (String × Catalog) := do
  catalog.checkRelation source name target reverse
  let junction := junctionName source name
  let linked := (catalog.putRelation source ⟨name, target, .manyToMany junction .left, reverse⟩).putRelation
    target ⟨reverse, source, .manyToMany junction .right, name⟩
  return (junction,
    { linked with
      junctions := linked.junctions.insert junction ⟨junction, source, target, name, reverse⟩ })

structure Hop where
  source : TypeName
  relation : Relation
deriving DecidableEq

/-- The steps of a path of relations; fails with the model and the name of a missing relation. -/
def hops (catalog : Catalog) (current : TypeName) : List String → Except (TypeName × String) (List Hop)
  | [] => .ok []
  | name :: rest =>
    match catalog.relation? current name with
    | none => .error (current, name)
    | some relation => (catalog.hops relation.target rest).map (⟨current, relation⟩ :: ·)

def terminal (owner : TypeName) (steps : List Hop) : TypeName :=
  match steps.getLast? with
  | none => owner
  | some hop => hop.relation.target

end Catalog
end EntitySearch
