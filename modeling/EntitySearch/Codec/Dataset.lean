import EntitySearch.Codec.Schema
import EntitySearch.Dataset.Basic
import EntitySearch.Json.Reader

/-!
# Documents for datasets

A dataset is written as a record in which every field has a default; so is a record of it, apart
from its key and its model.  A description that is left out is the same as one that is `null`.
-/
set_option autoImplicit false
namespace EntitySearch.Dataset

namespace RelationType

def word : RelationType → String
  | foreignKey => "foreign_key"
  | manyToMany => "many_to_many"

def ofJson? (j : Json) : Option RelationType :=
  (j.word? false).bind fun word => [foreignKey, manyToMany].find? fun type => type.word == word

end RelationType

namespace Transform

def word : Transform → String
  | uuid => "uuid"
  | lowercase => "lowercase"

def ofJson? (j : Json) : Option Transform :=
  (j.word? false).bind fun word => [uuid, lowercase].find? fun transform => transform.word == word

end Transform

namespace RelationEntry

def fieldSpecs : List Json.FieldSpec :=
  [("type", .refuse), ("source", .refuse), ("name", .refuse), ("target", .refuse),
   ("reverse", .refuse)]

def ofJson? (j : Json) : Option RelationEntry :=
  match j.fields? fieldSpecs with
  | some [some type, some source, some name, some target, some reverse] => do
    let type ← RelationType.ofJson? type
    let source ← TypeName.ofJson? source
    let name ← name.string?
    let target ← TypeName.ofJson? target
    let reverse ← reverse.string?
    return { type, source, name, target, reverse }
  | _ => none

def toJson (entry : RelationEntry) : Json :=
  .object [("type", .string entry.type.word), ("source", entry.source.toJson),
    ("name", .string entry.name), ("target", entry.target.toJson),
    ("reverse", .string entry.reverse)]

end RelationEntry

namespace FieldEntry

def maxRank : Nat := 4294967295

def fieldSpecs : List Json.FieldSpec :=
  [("path", .refuse), ("label", .default), ("free_text_rank", .default),
   ("term_transform", .default), ("value_transform", .default)]

def ofJson? (j : Json) : Option FieldEntry :=
  match j.fields? fieldSpecs with
  | some [some path, label, rank, terms, values] => do
    let path ← path.string?
    let label? ← Json.orDefault none (Json.nullable? Json.string?) label
    let rank? ← Json.orDefault none (Json.nullable? (Json.natUpTo? maxRank)) rank
    let terms? ← Json.orDefault none (Json.nullable? Transform.ofJson?) terms
    let values? ← Json.orDefault none (Json.nullable? Transform.ofJson?) values
    return { path, label?, rank?, terms?, values? }
  | _ => none

def toJson (entry : FieldEntry) : Json :=
  let named := fun transform? => Json.stringOrNull (Option.map Transform.word transform?)
  .object [("path", .string entry.path), ("label", .stringOrNull entry.label?),
    ("free_text_rank", .orNull (entry.rank?.map .nat)), ("term_transform", named entry.terms?),
    ("value_transform", named entry.values?)]

end FieldEntry

namespace TypeEntry

def fieldSpecs : List Json.FieldSpec :=
  [("name", .refuse), ("permission", .default), ("aliases", .default), ("fields", .refuse)]

def shape : Json.Shape :=
  .ofFields fieldSpecs [("fields", .list (.ofFields FieldEntry.fieldSpecs []))]

def ofJson? (j : Json) : Option TypeEntry :=
  match j.fields? fieldSpecs with
  | some [some name, permission, others, some fields] => do
    let name ← TypeName.ofJson? name
    let permission? ← Json.orDefault none (Json.nullable? Json.string?) permission
    let others ← Json.orDefault [] (Json.list? TypeName.ofJson?) others
    let fields ← fields.list? FieldEntry.ofJson?
    return { name, permission?, others, fields }
  | _ => none

def toJson (entry : TypeEntry) : Json :=
  .object [("name", entry.name.toJson), ("permission", .stringOrNull entry.permission?),
    ("aliases", .array (entry.others.map TypeName.toJson)),
    ("fields", .array (entry.fields.map FieldEntry.toJson))]

end TypeEntry

namespace RecordEntry

def fieldSpecs : List Json.FieldSpec :=
  [("key", .refuse), ("model", .refuse), ("attributes", .default), ("foreign_keys", .default),
   ("links", .default)]

def ofJson? (j : Json) : Option RecordEntry :=
  match j.fields? fieldSpecs with
  | some [some key, some model, attributes, keys, links] => do
    let key ← key.string?
    let model ← TypeName.ofJson? model
    let attributes ← Json.orDefault .empty
      (Json.map? some fun value => some value.canonical) attributes
    let foreignKeys ← Json.orDefault .empty (Json.map? some Json.string?) keys
    let links ← Json.orDefault .empty (Json.map? some (Json.list? Json.string?)) links
    return { key, model, attributes, foreignKeys, links }
  | _ => none

def toJson (entry : RecordEntry) : Json :=
  .object [("key", .string entry.key), ("model", entry.model.toJson),
    ("attributes", .ofMap entry.attributes),
    ("foreign_keys", .ofMap (entry.foreignKeys.map fun _ key => .string key)),
    ("links", .ofMap (entry.links.map fun _ keys => .strings keys))]

end RecordEntry

namespace GrantEntry

def fieldSpecs : List Json.FieldSpec :=
  [("actor", .refuse), ("permission", .refuse), ("objects", .default)]

def ofJson? (j : Json) : Option GrantEntry :=
  match j.fields? fieldSpecs with
  | some [some actor, some permission, objects] => do
    let actor ← actor.string?
    let permission ← permission.string?
    let objects? ← Json.orDefault none (Json.nullable? (Json.list? Json.string?)) objects
    return { actor, permission, objects? }
  | _ => none

def toJson (entry : GrantEntry) : Json :=
  .object [("actor", .string entry.actor), ("permission", .string entry.permission),
    ("objects", .orNull (entry.objects?.map .strings))]

end GrantEntry

/-- The models a document declares: by name, the kinds of their attributes. -/
def modelsOfJson? : Json → Option (SortedMap TypeName (SortedMap String ValueKind)) :=
  Json.map? TypeName.ofText? (Json.map? some ValueKind.ofJson?)

def fieldSpecs : List Json.FieldSpec :=
  ["models", "relations", "entity_types", "records", "grants"].map fun key => (key, .default)

def shape : Json.Shape :=
  .ofFields fieldSpecs
    [("relations", .list (.ofFields RelationEntry.fieldSpecs [])),
     ("entity_types", .list TypeEntry.shape),
     ("records", .list (.ofFields RecordEntry.fieldSpecs [])),
     ("grants", .list (.ofFields GrantEntry.fieldSpecs []))]

def ofJson? (j : Json) : Option Dataset :=
  match j.fields? fieldSpecs with
  | some [models, relations, types, records, grants] => do
    let models ← Json.orDefault .empty modelsOfJson? models
    let relations ← Json.orDefault [] (Json.list? RelationEntry.ofJson?) relations
    let types ← Json.orDefault [] (Json.list? TypeEntry.ofJson?) types
    let records ← Json.orDefault [] (Json.list? RecordEntry.ofJson?) records
    let grants ← Json.orDefault [] (Json.list? GrantEntry.ofJson?) grants
    return { models, relations, types, records, grants }
  | _ => none

def modelsJson (dataset : Dataset) : Json :=
  .object (dataset.models.entries.map fun (name, attributes) =>
    (name.text, .ofMap (attributes.map fun _ kind => .string kind.word)))

def toJson (dataset : Dataset) : Json :=
  .object [("models", dataset.modelsJson),
    ("relations", .array (dataset.relations.map RelationEntry.toJson)),
    ("entity_types", .array (dataset.types.map TypeEntry.toJson)),
    ("records", .array (dataset.records.map RecordEntry.toJson)),
    ("grants", .array (dataset.grants.map GrantEntry.toJson))]

def ofText (text : String) : Except SearchError Dataset :=
  match (Json.parseAs shape text).bind ofJson? with
  | some dataset => .ok dataset
  | none => .error .json

end EntitySearch.Dataset
