import EntitySearch.Query.Predicate
import EntitySearch.Query.Scope
import EntitySearch.Query.Term
import EntitySearch.Schema.EntityType

/-!
# The filter of a scope

A scope is turned into one predicate.  Each value is bound to fields (`Binding.select`), read as
terms, and made a clause of its field (`Field.clause?`); the clauses are joined as the scope's flag
says.  A value that holds nothing to search for is left out; a scope that is left without a clause
matches nothing.
-/
set_option autoImplicit false
namespace EntitySearch

/-- The condition that one term puts on a field: none for a keyword, and none for a term that the
field transforms into the empty text.  With `membership` the field is asked for an element, else
for a part of its text. -/
def Field.condition? (field : Field) (membership : Bool) (term : Term) : Option Predicate :=
  let text := field.transformTerm term.text
  if term.isKeyword || text = "" then none
  else
    let positive : Predicate :=
      if membership then .arrayContains field.name text else .contains field.name text
    some (if term.isNegated then positive.negate else positive)

/-- The conditions of the rest of a sequence put to those so far: all must hold until a keyword is
met, and one is enough from there on. -/
def Field.clauseFrom (field : Field) (membership all : Bool) (sofar : Option Predicate) :
    List Term → Option Predicate
  | [] => sofar
  | term :: rest =>
    if term.isKeyword then field.clauseFrom membership false sofar rest
    else match field.condition? membership term, sofar with
      | none, _ => field.clauseFrom membership all sofar rest
      | some condition, none => field.clauseFrom membership all (some condition) rest
      | some condition, some left => field.clauseFrom membership all (some (left.join all condition)) rest

/-- The clause that a sequence of terms puts on a field of the given kind.  Elements of a list are
asked for only if the index can be asked for elements. -/
def Field.clause? (field : Field) (kind : ValueKind) (arrays : Bool) (terms : List Term) :
    Option Predicate :=
  field.clauseFrom (kind.isMultiValued && arrays) true none terms

structure Binding where
  arrays : Bool
  priority : List String
  limit : Nat
deriving DecidableEq

inductive Filter where
  | matching (predicate : Predicate)
  | nothing

namespace Binding

/-- The fields a scope is evaluated against, each with its value. -/
def select (binding : Binding) (type : EntityType) (scope : Scope) : QueryMode → List (Field × String)
  | .freeText =>
    match scope.freeText? with
    | none => []
    | some value =>
      if blankValue value then []
      else (type.freeTextFields binding.priority binding.limit).map fun field => (field, value)
  | .structured =>
    scope.fields.entries.filterMap fun (name, value) =>
      if blankValue value then none else (type.field? name).map fun field => (field, value)

def clause? (binding : Binding) (catalog : Catalog) (type : EntityType) (field : Field)
    (value : String) : Except SearchError (Option Predicate) :=
  let terms := Term.ofText value
  if Term.onlyKeywords terms then .ok none
  else (field.kind catalog type.name).map fun kind => field.clause? kind binding.arrays terms

def filter (binding : Binding) (catalog : Catalog) (type : EntityType) (scope : Scope)
    (mode : QueryMode) : Except SearchError Filter := do
  let clauses ← (binding.select type scope mode).mapM fun (field, value) =>
    binding.clause? catalog type field value
  match Predicate.combine scope.matchAll (clauses.filterMap id) with
  | some predicate => return .matching predicate
  | none => return .nothing

end Binding
end EntitySearch
