import EntitySearch.Schema.Link
import EntitySearch.Schema.TypeName

/-!
# Changes of the store

What observers of a store are told.  An entity was created or updated, or is about to be deleted;
links were added to a junction, or are about to be removed from it.  Whatever is about to go can
still be walked while observers are told.
-/
set_option autoImplicit false
namespace EntitySearch

inductive EntityChange where
  | created
  | updated
  /-- Told before the entity goes. -/
  | deleted
deriving DecidableEq, Repr

namespace EntityChange

def word : EntityChange → String
  | created => "created"
  | updated => "updated"
  | deleted => "deleted"

def ofWord? (word : String) : Option EntityChange :=
  [created, updated, deleted].find? fun change => change.word == word

end EntityChange

inductive LinkChange where
  | added
  /-- Told before the links go. -/
  | removed
deriving DecidableEq, Repr

namespace LinkChange

def word : LinkChange → String
  | added => "added"
  | removed => "removed"

def ofWord? (word : String) : Option LinkChange :=
  [added, removed].find? fun change => change.word == word

end LinkChange

inductive ChangeEvent where
  | entity (entity : EntityRef) (change : EntityChange)
  /-- Links of `junction` between `anchor`, which is on the given side, and each of `linked`. -/
  | link (junction : String) (change : LinkChange) (side : Side) (anchor : EntityRef)
      (linked : List EntityRef)
deriving DecidableEq

end EntitySearch
