import EntitySearch.Codec.Schema
import EntitySearch.Index.Document
import EntitySearch.Search.Hits

/-!
# Documents for indexed texts and hits

What an index holds of an entity, and the hits of a search, can be written.  A value can be written
with the word for its shape in front, so that a text and an instant of the same spelling differ.
-/
set_option autoImplicit false
namespace EntitySearch

namespace Document

def fieldsJson (document : Document) : Json :=
  .ofMap (document.fields.map fun _ texts => .strings texts)

def toJson (document : Document) : Json :=
  .object [("entity", .string document.entity.text), ("fields", document.fieldsJson)]

end Document

def Hits.toJson (hits : Hits) : Json := .array (hits.ids.map .nat)

namespace Value

mutual

/-- A value with the word for its shape. -/
def toShaped : Value → Json
  | null => .array [.string "null"]
  | boolean b => .array [.string "bool", .bool b]
  | integer n => .array [.string "int", .integer n.toInt]
  | timestamp t => .array [.string "ts", .string t.render]
  | text s => .array [.string "text", .string s]
  | list items => .array [.string "list", .array (toShapedItems items)]

def toShapedItems : List Value → List Json
  | [] => []
  | item :: rest => toShaped item :: toShapedItems rest

end

end Value
end EntitySearch
