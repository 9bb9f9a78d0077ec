import EntitySearch.Codec.Schema
import EntitySearch.Index.Job

/-!
# Documents for index jobs

A job is a tagged record; its tag `job` says whether a document is built or dropped.  An exclusion
is a tagged record inside it, with the tag `kind`.
-/
set_option autoImplicit false
namespace EntitySearch

namespace Link

def toJson (link : Link) : Json := .array [.nat link.left, .nat link.right]

def ofJson? (j : Json) : Option Link :=
  (j.pair? Json.unsigned? Json.unsigned?).map fun ids => ⟨ids.1, ids.2⟩

end Link

namespace Exclusion

def toJson : Exclusion → Json
  | .instance entity => .object [("kind", .string "instance"), ("entity", entity.toJson)]
  | .links junction pairs =>
    .object [("kind", .string "links"), ("junction", .string junction),
      ("pairs", .array (pairs.map Link.toJson))]

def linksOfJson? (j : Json) : Option Exclusion :=
  match j.fields? [("junction", .refuse), ("pairs", .refuse)] with
  | some [some junction, some pairs] => do
    let junction ← junction.string?
    let pairs ← pairs.list? Link.ofJson?
    return .links junction pairs
  | _ => none

/-- The exclusion a document stands for.  Inside a job the tag may be given by its number. -/
def ofJson? (inJob : Bool) (j : Json) : Option Exclusion :=
  match j.tagged? "kind" (if inJob then ["instance", "links"] else []) with
  | some ("instance", rest) =>
    match rest.fields? [("entity", .refuse)] with
    | some [some entity] => (EntityRef.ofJson? entity).map .instance
    | _ => none
  | some ("links", rest) => linksOfJson? rest
  | _ => none

end Exclusion

namespace IndexJob

def toJson : IndexJob → Json
  | index entity exclude =>
    .object [("job", .string "index"), ("entity", entity.toJson),
      ("exclude", .orNull (exclude.map Exclusion.toJson))]
  | deindex entity => .object [("job", .string "deindex"), ("entity", entity.toJson)]

def ofJson? (j : Json) : Option IndexJob :=
  match j.tagged? "job" [] with
  | some ("index", rest) =>
    match rest.fields? [("entity", .refuse), ("exclude", .null)] with
    | some [some entity, some exclude] => do
      let entity ← EntityRef.ofJson? entity
      let exclude ← exclude.nullable? (Exclusion.ofJson? true)
      return .index entity exclude
    | _ => none
  | some ("deindex", rest) =>
    match rest.fields? [("entity", .refuse)] with
    | some [some entity] => (EntityRef.ofJson? entity).map .deindex
    | _ => none
  | _ => none

end IndexJob
end EntitySearch
