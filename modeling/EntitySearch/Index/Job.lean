import EntitySearch.Schema.Link
import EntitySearch.Schema.TypeName

/-!
# Index jobs

A job says that the document of an entity is to be built anew or dropped.  A job that was caused by
something that is about to go carries an exclusion: what is to go is passed over as if it were gone
already.
-/
set_option autoImplicit false
namespace EntitySearch

/-- What the building of a document passes over. -/
inductive Exclusion where
  /-- An entity that is about to be deleted. -/
  | instance (entity : EntityRef)
  /-- Links of a junction that are about to be removed. -/
  | links (junction : String) (pairs : List Link)
deriving DecidableEq

namespace Exclusion

def excludesLink (exclusion : Exclusion) (junction : String) (link : Link) : Bool :=
  match exclusion with
  | .instance _ => false
  | .links excluded pairs => excluded = junction && pairs.contains link

def excludesInstance (exclusion : Exclusion) (entity : EntityRef) : Bool :=
  match exclusion with
  | .instance excluded => excluded = entity
  | .links .. => false

end Exclusion

inductive IndexJob where
  | index (entity : EntityRef) (exclude : Option Exclusion)
  | deindex (entity : EntityRef)
deriving DecidableEq

namespace IndexJob

def entity : IndexJob → EntityRef
  | index entity _ => entity
  | deindex entity => entity

def exclusion? : IndexJob → Option Exclusion
  | index _ exclude => exclude
  | deindex _ => none

def text : IndexJob → String
  | index entity none => "index " ++ entity.text
  | index entity (some _) => "index " ++ entity.text ++ " (with exclusion)"
  | deindex entity => "deindex " ++ entity.text

instance : ToString IndexJob := ⟨text⟩

end IndexJob
end EntitySearch
