/-!
# Shapes of documents

A reader of records looks at some members of an object and passes over the others.  A shape says,
for each place in a document, which members those are.  Where every member counts, as in a map or
in a value that is kept as it is, the shape is `whole`.
-/
set_option autoImplicit false
namespace EntitySearch.Json

/-- Which parts of a document are looked at. -/
inductive Shape where
  | whole
  | list (item : Shape)
  /-- A record: the named members of an object, or the items of an array in their order. -/
  | record (fields : List (String × Shape))
deriving Inhabited

namespace Shape

def item (place : Nat) : Shape → Shape
  | whole => whole
  | list item => item
  | record fields => (fields[place]?.map Prod.snd).getD whole

def member? (key : String) : Shape → Option Shape
  | record fields => (fields.find? fun field => field.1 == key).map Prod.snd
  | _ => some whole

@[simp] theorem member?_whole (key : String) : whole.member? key = some whole := rfl

@[simp] theorem item_whole (place : Nat) : whole.item place = whole := rfl

end Shape
end EntitySearch.Json
