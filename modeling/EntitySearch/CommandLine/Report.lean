import EntitySearch.Dataset.Loaded
import EntitySearch.Json.Basic

/-!
# Reports

What the program answers: the hits of a search with their keys and labels, or the entity types of a
dataset with their fields and the junctions they depend on.  A report can be written as a document,
with its members in the order of its fields.
-/
set_option autoImplicit false
namespace EntitySearch.CommandLine

structure HitRow where
  id : Nat
  key? : Option String
  label? : Option String
deriving DecidableEq, Repr

structure SearchReport where
  typeName : String
  actor : String
  duration : Nat
  rows : List HitRow
deriving DecidableEq, Repr

def HitRow.toJson (row : HitRow) : Json :=
  .object [("id", .nat row.id), ("key", .stringOrNull row.key?),
    ("label", .stringOrNull row.label?)]

def SearchReport.toJson (report : SearchReport) : Json :=
  .object [("entity_type", .string report.typeName), ("actor", .string report.actor),
    ("total", .nat report.rows.length), ("duration_ms", .nat report.duration),
    ("results", .array (report.rows.map HitRow.toJson))]

/-- The label of an entity: the first text of the first field that free text is bound to. -/
def labelOf (service : Service) (type : EntityType) (entity : EntityRef) :
    Except SearchError (Option String) :=
  let config := service.config
  match (type.freeTextFields config.priorityFieldNames config.freeTextFieldLimit).head? with
  | none => .ok none
  | some field => (service.index.inner.document? entity).map fun document? =>
    document?.bind fun document => (document.texts field.name).head?

def rowOf (loaded : LoadedDataset) (type : EntityType) (id : Nat) : Except SearchError HitRow :=
  let entity : EntityRef := ⟨type.name, id⟩
  (labelOf loaded.service type entity).map fun label? =>
    { id, key? := loaded.keyOf? entity, label? }

structure FieldReport where
  name : String
  label : String
  freeText : Bool
  related? : Option String
  /-- The relations that lead back from there. -/
  wayBack : List String
deriving DecidableEq, Repr

structure TypeReport where
  name : String
  permission? : Option String
  others : List String
  documents : Nat
  fields : List FieldReport
deriving DecidableEq, Repr

/-- A junction that a field depends on. -/
structure JunctionReport where
  junction : String
  owner : String
  field : String
  left : String
  right : String
deriving DecidableEq, Repr

structure DatasetReport where
  types : List TypeReport
  junctions : List JunctionReport
deriving DecidableEq, Repr

def FieldReport.toJson (field : FieldReport) : Json :=
  .object [("name", .string field.name), ("label", .string field.label),
    ("free_text", .bool field.freeText), ("related", .stringOrNull field.related?),
    ("reverse_path", .strings field.wayBack)]

def TypeReport.toJson (type : TypeReport) : Json :=
  .object [("name", .string type.name), ("permission", .stringOrNull type.permission?),
    ("aliases", .strings type.others), ("documents", .nat type.documents),
    ("fields", .array (type.fields.map FieldReport.toJson))]

def JunctionReport.toJson (report : JunctionReport) : Json :=
  .object [("junction", .string report.junction), ("owner", .string report.owner),
    ("field", .string report.field), ("left", .string report.left),
    ("right", .string report.right)]

def DatasetReport.toJson (report : DatasetReport) : Json :=
  .object [("entity_types", .array (report.types.map TypeReport.toJson)),
    ("junctions", .array (report.junctions.map JunctionReport.toJson))]

def FieldReport.of (registry : Registry) (type : EntityType) (freeText : List Field)
    (field : Field) : Except SearchError FieldReport := do
  let related? ← registry.relatedType type.name field.name
  let wayBack ← registry.reversePath type.name field.name
  return { name := field.name, label := field.label
           freeText := freeText.any fun chosen => chosen.name = field.name
           related? := related?.map TypeName.text, wayBack }

def TypeReport.of (service : Service) (type : EntityType) : Except SearchError TypeReport := do
  let config := service.config
  let freeText := type.freeTextFields config.priorityFieldNames config.freeTextFieldLimit
  let fields ← type.fields.mapM (FieldReport.of service.registry type freeText)
  return { name := type.name.text, permission? := type.permission?
           others := type.others.map TypeName.text
           documents := service.index.inner.count type.name, fields }

def JunctionReport.of (watched : WatchedJunction) : JunctionReport where
  junction := watched.junction
  owner := watched.owner.text
  field := watched.field
  left := watched.left.text
  right := watched.right.text

def DatasetReport.of (service : Service) : Except SearchError DatasetReport := do
  let types ← service.registry.entityTypes.mapM (TypeReport.of service)
  let junctions ← service.registry.watchedJunctions
  return { types, junctions := junctions.map JunctionReport.of }

end EntitySearch.CommandLine
