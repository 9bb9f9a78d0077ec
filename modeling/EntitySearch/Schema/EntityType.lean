import EntitySearch.Schema.Field
import EntitySearch.Store.View

/-!
# Searchable entity types

An entity type has a name and a list of fields, not empty and without two fields of one name.  It
may need a permission, may be known by further names, and its searches start from a base set: every
stored entity of the type, or what a provider answers.

A free-text query is bound to few fields (`EntityType.freeTextFields`): those with a rank if there
are any, else those that end at a priority attribute, else the first ones.
-/
set_option autoImplicit false
namespace EntitySearch

/-- Where the searches of an entity type start from. -/
inductive BaseSet where
  | all
  | provided (provider : StoreView → Except SearchError (List Nat))

structure EntityType where
  name : TypeName
  fields : List Field
  permission? : Option String := none
  base : BaseSet := .all
  others : List TypeName := []
  fields_ne_nil : fields ≠ []
  names_nodup : (fields.map Field.name).Nodup

namespace EntityType

/-- The first name of a list that occurs again earlier in it. -/
def firstRepeated? : List String → List String → Option String
  | _, [] => none
  | earlier, name :: rest =>
    if name ∈ earlier then some name else firstRepeated? (name :: earlier) rest

theorem firstRepeated?_eq_none_iff {earlier names : List String} :
    firstRepeated? earlier names = none ↔ names.Nodup ∧ ∀ name ∈ names, name ∉ earlier := by
  induction names generalizing earlier with
  | nil => simp [firstRepeated?]
  | cons name rest ih =>
      by_cases seen : name ∈ earlier
      · simp [firstRepeated?, seen]
      · simp only [firstRepeated?, seen, if_false, ih, List.nodup_cons, List.forall_mem_cons,
          not_false_eq_true, true_and]
        constructor
        · rintro ⟨nodup, fresh⟩
          refine ⟨⟨fun member => fresh name member (List.mem_cons_self ..), nodup⟩, ?_⟩
          exact fun other member inEarlier =>
            fresh other member (List.mem_cons_of_mem _ inEarlier)
        · rintro ⟨⟨notLater, nodup⟩, fresh⟩
          refine ⟨nodup, fun other member => ?_⟩
          intro inEarlier
          rcases List.mem_cons.1 inEarlier with same | inEarlier
          · exact notLater (same ▸ member)
          · exact fresh other member inEarlier

def make (name : TypeName) (fields : List Field) (permission? : Option String := none)
    (base : BaseSet := .all) (others : List TypeName := []) : Except SearchError EntityType :=
  if nonempty : fields = [] then .error (.schema (.noFields name))
  else match repeated : firstRepeated? [] (fields.map Field.name) with
    | some field => .error (.schema (.repeatedField field name))
    | none =>
      .ok { name, fields, permission?, base, others
            fields_ne_nil := nonempty
            names_nodup := (firstRepeated?_eq_none_iff.1 repeated).1 }

def field? (type : EntityType) (name : String) : Option Field :=
  type.fields.find? fun field => field.name = name

def directFields (type : EntityType) : List Field :=
  type.fields.filter fun field => !field.isRelated

def relatedFields (type : EntityType) : List Field := type.fields.filter Field.isRelated

theorem mem_of_field? {type : EntityType} {name : String} {field : Field}
    (found : type.field? name = some field) : field ∈ type.fields ∧ field.name = name :=
  ⟨List.mem_of_find?_eq_some found, by simpa using List.find?_some found⟩

/-- The fields with a rank, the lowest rank first; equal ranks keep their order. -/
def rankedFields (type : EntityType) : List Field :=
  (type.fields.filter fun field => field.rank?.isSome).mergeSort fun a b =>
    decide (a.rank?.getD 0 ≤ b.rank?.getD 0)

def priorityFields (type : EntityType) (priority : List String) : List Field :=
  (distinct priority).flatMap fun attr => type.fields.filter fun field => field.path.attr = attr

/-- The fields a free-text query is bound to, at most `limit` of them but at least one. -/
def freeTextFields (type : EntityType) (priority : List String) (limit : Nat) : List Field :=
  let ranked := type.rankedFields
  let named := type.priorityFields priority
  let chosen := if ranked ≠ [] then ranked else if named ≠ [] then named else type.fields
  chosen.take (max limit 1)

end EntityType
end EntitySearch
