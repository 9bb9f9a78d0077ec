import EntitySearch.Data.Lexicographic
import EntitySearch.Text.Space

/-!
# Names of entity types and references to entities

The name of an entity type has two parts, written `space.kind`; neither part is empty or holds a
dot, so the written form determines the parts (`TypeName.parse_text`).  Names are ordered by their
first part, then by their second.  An entity reference is a type name and an identifier.
-/
set_option autoImplicit false
namespace EntitySearch

def TypeName.PartsOk (space kind : String) : Prop :=
  space ≠ "" ∧ kind ≠ "" ∧ '.' ∉ space.toList ∧ '.' ∉ kind.toList

instance (space kind : String) : Decidable (TypeName.PartsOk space kind) :=
  inferInstanceAs (Decidable (_ ∧ _))

structure TypeName where
  space : String
  kind : String
  partsOk : TypeName.PartsOk space kind
deriving DecidableEq

inductive NameFault where
  | noDot (text : String)
  | emptyPart (space kind : String)
  | extraDot (space kind : String)
deriving DecidableEq, Repr

namespace TypeName

def text (name : TypeName) : String := name.space ++ "." ++ name.kind

instance : ToString TypeName := ⟨text⟩

def ofParts (space kind : String) : Except NameFault TypeName :=
  if space = "" ∨ kind = "" then .error (.emptyPart space kind)
  else if ok : PartsOk space kind then .ok ⟨space, kind, ok⟩
  else .error (.extraDot space kind)

/-- Reads a written name: the first dot parts it. -/
def parse (s : String) : Except NameFault TypeName :=
  match Text.cut? ['.'] s.toList with
  | none => .error (.noDot s)
  | some (space, kind) => ofParts (String.ofList space) (String.ofList kind)

theorem ofParts_parts (name : TypeName) : ofParts name.space name.kind = .ok name := by
  have ok := name.partsOk
  simp [ofParts, ok, ok.1, ok.2.1]

theorem parse_text (name : TypeName) : parse name.text = .ok name := by
  have cut : Text.cut? ['.'] (name.space.toList ++ '.' :: name.kind.toList) = _ :=
    Text.cut?_of_not_mem name.partsOk.2.2.1 [] name.kind.toList
  have whole : name.text.toList = name.space.toList ++ '.' :: name.kind.toList := by
    simp [text, String.toList_append]
  simp [parse, whole, cut, ofParts_parts]

theorem text_injective {a b : TypeName} (same : a.text = b.text) : a = b := by
  have left := parse_text a
  rw [same, parse_text b] at left
  exact (Except.ok.inj left).symm

instance : Ord TypeName := ⟨compareLex (compareOn TypeName.space) (compareOn TypeName.kind)⟩

instance : Std.TransOrd TypeName :=
  inferInstanceAs (Std.TransCmp (compareLex (compareOn TypeName.space) (compareOn TypeName.kind)))

instance : Std.LawfulEqOrd TypeName where
  eq_of_compare {a b} equal := by
    have parts := parts_eq_of_compareLex equal
    cases a; cases b; simp_all

end TypeName

/-- Identifiers are 64 bits wide where they are stored.  Here they have no bound, which makes no
difference below 2 ^ 64 - 1 insertions: each gives out one at most (`Store.nextId_run_le`). -/
structure EntityRef where
  typeName : TypeName
  id : Nat
deriving DecidableEq

namespace EntityRef

/-- The written form, `space.kind#id`. -/
def text (entity : EntityRef) : String := entity.typeName.text ++ "#" ++ toString entity.id

instance : ToString EntityRef := ⟨text⟩

instance : Ord EntityRef := ⟨compareLex (compareOn EntityRef.typeName) (compareOn EntityRef.id)⟩

instance : Std.TransOrd EntityRef :=
  inferInstanceAs (Std.TransCmp (compareLex (compareOn EntityRef.typeName) (compareOn EntityRef.id)))

instance : Std.LawfulEqOrd EntityRef where
  eq_of_compare {a b} equal := by
    have parts := parts_eq_of_compareLex equal
    cases a; cases b; simp_all

end EntityRef

end EntitySearch
