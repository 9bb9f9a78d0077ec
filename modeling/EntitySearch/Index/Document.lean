import EntitySearch.Index.Job
import EntitySearch.Schema.Registry

/-!
# Indexed documents

The document of an entity holds, for every field of its type, the texts that the entity is found
by.  `Document.build` follows the path of each field from the entity, passing over what an exclusion
names, and takes the texts of the attribute at its end.
-/
set_option autoImplicit false
namespace EntitySearch

structure Document where
  entity : EntityRef
  fields : SortedMap String (List String) := .empty
deriving DecidableEq

namespace Document

def texts (document : Document) (field : String) : List String :=
  (document.fields.get? field).getD []

def withField (document : Document) (field : String) (texts : List String) : Document :=
  { document with fields := document.fields.insert field texts }

def extend (document : Document) (field : String) (texts : List String) : Document :=
  document.withField field (document.texts field ++ texts)

/-- Is the step along a relation from one entity to another passed over? -/
def passesOver (exclude : Option Exclusion) (relation : Relation) (source reached : EntityRef) :
    Bool :=
  match exclude with
  | none => false
  | some exclusion =>
    exclusion.excludesInstance reached ||
      match relation.junction? with
      | none => false
      | some (junction, side) =>
        exclusion.excludesLink junction (Link.ofSide side source.id reached.id)

def step (view : StoreView) (exclude : Option Exclusion) (relation : Relation) (name : String)
    (sources : List EntityRef) : Except SearchError (List EntityRef) :=
  (sources.mapM fun source => (view.related source name).map fun reached =>
    reached.filter fun entity => !passesOver exclude relation source entity).map fun found =>
      distinct found.flatten

/-- The entities the rest of a field's path leads to; the path is given up where it reaches none. -/
def reach (catalog : Catalog) (view : StoreView) (exclude : Option Exclusion) (owner : TypeName)
    (field : Field) (current : TypeName) (sources : List EntityRef) :
    List String → Except SearchError (List EntityRef)
  | [] => .ok sources
  | name :: rest =>
    match catalog.relation? current name with
    | none => .error (.index field.name owner current name)
    | some relation =>
      match step view exclude relation name sources with
      | .error e => .error e
      | .ok reached =>
        if reached.isEmpty then .ok []
        else reach catalog view exclude owner field relation.target reached rest

def textsAt (view : StoreView) (field : Field) (entity : EntityRef) : List String :=
  match view.attr? entity field.path.attr with
  | none => []
  | some value => if value.isNull then [] else field.indexTexts value

def fieldTexts (catalog : Catalog) (view : StoreView) (exclude : Option Exclusion)
    (owner : TypeName) (entity : EntityRef) (field : Field) : Except SearchError (List String) :=
  (reach catalog view exclude owner field owner [entity] field.path.relations).map fun reached =>
    reached.flatMap (textsAt view field)

/-- The document of an entity; `none` if the entity does not exist. -/
def build (catalog : Catalog) (view : StoreView) (type : EntityType) (entity : EntityRef)
    (exclude : Option Exclusion) : Except SearchError (Option Document) :=
  if view.contains entity then
    (type.fields.mapM fun field =>
      (fieldTexts catalog view exclude type.name entity field).map fun texts =>
        (field.name, texts)).map fun fields => some { entity, fields := SortedMap.ofList fields }
  else .ok none

end Document
end EntitySearch
