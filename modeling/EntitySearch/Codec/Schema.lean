import EntitySearch.Json.Fields
import EntitySearch.Schema.Registry

/-!
# Documents for names, references and the schema

Names of entity types are written as texts and references as records of a name and an identifier;
both can be read back.  Kinds of attributes can be read; models, relations, junctions and what is
watched can be written.
-/
set_option autoImplicit false
namespace EntitySearch

namespace TypeName

def toJson (name : TypeName) : Json := .string name.text

def ofText? (text : String) : Option TypeName := (parse text).toOption

def ofJson? (j : Json) : Option TypeName := j.string?.bind ofText?

theorem ofJson?_toJson (name : TypeName) : ofJson? name.toJson = some name := by
  simp [ofJson?, toJson, Json.string?, ofText?, parse_text, Except.toOption]

end TypeName

namespace EntityRef

def toJson (entity : EntityRef) : Json :=
  .object [("entity_type", entity.typeName.toJson), ("id", .nat entity.id)]

/-- The reference a document stands for; identifiers have at most 64 bits. -/
def ofJson? (j : Json) : Option EntityRef :=
  match j.fields? [("entity_type", .refuse), ("id", .refuse)] with
  | some [some name, some id] => do
    let typeName ← TypeName.ofJson? name
    let id ← id.unsigned?
    return ⟨typeName, id⟩
  | _ => none

end EntityRef

def ValueKind.ofJson? (j : Json) : Option ValueKind := (j.word? false).bind ofWord?

def RelationKind.toJson : RelationKind → Json
  | .foreignKey => .string "foreign_key"
  | .reverseForeignKey field =>
    .object [("reverse_foreign_key", .object [("field", .string field)])]
  | .manyToMany junction side =>
    .object [("many_to_many", .object [("junction", .string junction), ("side", .string side.word)])]

def Relation.toJson (relation : Relation) : Json :=
  .object [("name", .string relation.name), ("target", relation.target.toJson),
    ("kind", relation.kind.toJson), ("reverse", .string relation.reverse)]

def Model.toJson (model : Model) : Json :=
  .object [("attributes", .ofMap (model.attributes.map fun _ kind => .string kind.word)),
    ("relations", .ofMap (model.relations.map fun _ relation => relation.toJson))]

def Junction.toJson (junction : Junction) : Json :=
  .object [("name", .string junction.name), ("left", junction.left.toJson),
    ("right", junction.right.toJson), ("left_relation", .string junction.leftRelation),
    ("right_relation", .string junction.rightRelation)]

def WatchedModel.toJson (watched : WatchedModel) : Json :=
  .object [("owner", watched.owner.toJson), ("field", .string watched.field),
    ("related", watched.related.toJson), ("reverse_path", .strings watched.wayBack)]

def WatchedJunction.toJson (watched : WatchedJunction) : Json :=
  .object [("junction", .string watched.junction), ("owner", watched.owner.toJson),
    ("field", .string watched.field), ("left", watched.left.toJson),
    ("right", watched.right.toJson), ("left_to_owner", .strings watched.leftWayBack),
    ("right_to_owner", .strings watched.rightWayBack)]

end EntitySearch
