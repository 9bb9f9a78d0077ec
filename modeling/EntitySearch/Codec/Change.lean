import EntitySearch.Codec.Schema
import EntitySearch.Store.Change

/-!
# Documents for changes

A change is a tagged record; its tag `event` says whether an entity or links changed.  Inside the
record, the word for a kind of change or for a side may have an empty object as its empty value.
-/
set_option autoImplicit false
namespace EntitySearch

/-- The side a document names; an empty object counts as an empty value if `orEmptyObject`. -/
def Side.ofJson? (orEmptyObject : Bool) (j : Json) : Option Side :=
  (j.word? orEmptyObject).bind Side.ofWord?

def LinkChange.ofJson? (orEmptyObject : Bool) (j : Json) : Option LinkChange :=
  (j.word? orEmptyObject).bind LinkChange.ofWord?

def EntityChange.ofJson? (orEmptyObject : Bool) (j : Json) : Option EntityChange :=
  (j.word? orEmptyObject).bind EntityChange.ofWord?

namespace ChangeEvent

def toJson : ChangeEvent → Json
  | .entity changed change =>
    .object [("event", .string "entity"), ("entity", changed.toJson),
      ("kind", .string change.word)]
  | .link junction change side anchor linked =>
    .object [("event", .string "link"), ("junction", .string junction),
      ("action", .string change.word), ("side", .string side.word), ("anchor", anchor.toJson),
      ("linked", .array (linked.map EntityRef.toJson))]

def entityOfJson? (j : Json) : Option ChangeEvent :=
  match j.fields? [("entity", .refuse), ("kind", .refuse)] with
  | some [some changed, some kind] => do
    let changed ← EntityRef.ofJson? changed
    let change ← EntityChange.ofJson? true kind
    return .entity changed change
  | _ => none

def linkOfJson? (j : Json) : Option ChangeEvent :=
  match j.fields? [("junction", .refuse), ("action", .refuse), ("side", .refuse),
      ("anchor", .refuse), ("linked", .refuse)] with
  | some [some junction, some action, some side, some anchor, some linked] => do
    let junction ← junction.string?
    let change ← LinkChange.ofJson? true action
    let side ← Side.ofJson? true side
    let anchor ← EntityRef.ofJson? anchor
    let linked ← linked.list? EntityRef.ofJson?
    return .link junction change side anchor linked
  | _ => none

def ofJson? (j : Json) : Option ChangeEvent :=
  match j.tagged? "event" [] with
  | some ("entity", rest) => entityOfJson? rest
  | some ("link", rest) => linkOfJson? rest
  | _ => none

end ChangeEvent
end EntitySearch
