import EntitySearch.Json.Basic
import EntitySearch.Json.Shape

/-!
# Records in JSON documents

A record may be written as an object with its fields as members, in any order and among unknown
ones, or as the array of its fields in their order.  What an absent field means is part of the
record's description (`WhenAbsent`); a known field that is given twice is refused.

A choice between words is written as the word, or as an object whose one member has the word as
its key and an empty value.  A tagged record is one whose field `tag` says which record the other
fields make up.
-/
set_option autoImplicit false
namespace EntitySearch.Json

inductive WhenAbsent where
  | refuse
  /-- In an object it means `null`; in an array it is refused. -/
  | null
  | default
deriving DecidableEq, Repr

abbrev FieldSpec := String × WhenAbsent

/-- The shape of a record with the given fields; `inner` has the shapes of those that are not looked
at as a whole. -/
def Shape.ofFields (spec : List FieldSpec) (inner : List (String × Shape)) : Shape :=
  .record (spec.map fun field =>
    (field.1, ((inner.find? fun s => s.1 == field.1).map Prod.snd).getD .whole))

/-- The value of one field of an object; outer `none` refuses, inner `none` asks for the default. -/
def memberOf (members : List (String × Json)) (field : FieldSpec) : Option (Option Json) :=
  match members.filter fun m => m.1 == field.1 with
  | [] =>
    match field.2 with
    | .refuse => none
    | .null => some (some .null)
    | .default => some none
  | [m] => some (some m.2)
  | _ => none

def positional : List FieldSpec → List Json → Option (List (Option Json))
  | [], [] => some []
  | [], _ :: _ => none
  | _ :: fields, j :: rest => (positional fields rest).map (some j :: ·)
  | field :: fields, [] =>
    if field.2 = .default then (positional fields []).map (none :: ·) else none

def fields? (spec : List FieldSpec) : Json → Option (List (Option Json))
  | .object members => spec.mapM (memberOf members)
  | .array items => positional spec items
  | _ => none

/-- The word of a choice; an empty object counts as an empty value if `orEmptyObject`. -/
def word? (orEmptyObject : Bool) : Json → Option String
  | .string s => some s
  | .object [(key, .null)] => some key
  | .object [(key, .object [])] => if orEmptyObject then some key else none
  | _ => none

def tagWord? (numbered : List String) : Json → Option String
  | .string word => some word
  | .integer n => if 0 ≤ n then numbered[n.toNat]? else none
  | _ => none

/-- The tag of a tagged record and what is left of the record. -/
def tagged? (tag : String) (numbered : List String) : Json → Option (String × Json)
  | .object members =>
    match members.filter fun m => m.1 == tag with
    | [(_, j)] => (tagWord? numbered j).map fun word =>
      (word, .object (members.filter fun m => m.1 != tag))
    | _ => none
  | .array (j :: rest) => (tagWord? numbered j).map fun word => (word, .array rest)
  | _ => none

def list? {α : Type} (item : Json → Option α) : Json → Option (List α)
  | .array items => items.mapM item
  | _ => none

def nullable? {α : Type} (item : Json → Option α) : Json → Option (Option α)
  | .null => some none
  | j => (item j).map some

def orDefault {α : Type} (fallback : α) (item : Json → Option α) : Option Json → Option α
  | none => some fallback
  | some j => item j

def map? {κ α : Type} [Ord κ] [Std.TransOrd κ] (readKey : String → Option κ)
    (item : Json → Option α) : Json → Option (SortedMap κ α)
  | .object members => do
    let entries ← members.mapM fun m => do
      let key ← readKey m.1
      let value ← item m.2
      return (key, value)
    return SortedMap.ofList entries
  | _ => none

def pair? {α β : Type} (first : Json → Option α) (second : Json → Option β) :
    Json → Option (α × β)
  | .array [a, b] => do
    let a ← first a
    let b ← second b
    return (a, b)
  | _ => none

end EntitySearch.Json
