import EntitySearch.Data.SortedMap
import EntitySearch.Text.Space

/-!
# Scopes

A scope is one sub-query: a raw value for each of some field names, and a flag that says whether
the fields must all match or whether one is enough.  A scope that has a value under the reserved
name `q` is a free-text query; any other scope is a structured one.
-/
set_option autoImplicit false
namespace EntitySearch

def anyField : String := "q"

inductive QueryMode where
  /-- One value, looked for in the priority fields. -/
  | freeText
  /-- Each value, looked for in its own field. -/
  | structured
deriving DecidableEq, Repr

structure Scope where
  matchAll : Bool
  fields : SortedMap String String := .empty
deriving DecidableEq

namespace Scope

def setField (scope : Scope) (name value : String) : Scope :=
  { scope with fields := scope.fields.insert name value }

def freeText? (scope : Scope) : Option String := scope.fields.get? anyField

/-- The mode the field names of a scope imply. -/
def mode (scope : Scope) : QueryMode :=
  if scope.fields.contains anyField then .freeText else .structured

def isEmpty (scope : Scope) : Bool := scope.fields.isEmpty

end Scope

def blankValue (value : String) : Bool := Text.isBlank value.toList

def trimmedValue (value : String) : String := String.ofList (Text.trim value.toList)

end EntitySearch
