import EntitySearch.Schema.Catalog
import EntitySearch.Text.Lowercase
import EntitySearch.Schema.Uuid

/-!
# Searchable fields

A field is addressed by a dotted path: relations to follow, then an attribute of the model reached.
A field whose path follows no relation is a direct one.  A field may transform the terms of a query
and the values that are indexed, and may have a rank among the fields of free-text queries.
-/
set_option autoImplicit false
namespace EntitySearch

structure Path where
  relations : List String
  attr : String
deriving DecidableEq

namespace Path

def dot : Char := '.'

/-- The path a text spells: no part between its dots may be empty. -/
def parse (text : String) : Except SearchError Path :=
  let parts := (Text.splitOn dot text.toList).map String.ofList
  match parts.getLast? with
  | none => .error (.schema (.invalidPath text))
  | some attr =>
    if parts.any fun part => part = "" then .error (.schema (.invalidPath text))
    else .ok ⟨parts.dropLast, attr⟩

def text (path : Path) : String := String.intercalate "." (path.relations ++ [path.attr])

def isRelated (path : Path) : Bool := !path.relations.isEmpty

end Path

abbrev TermTransform := String → String

abbrev ValueTransform := Value → String

/-- Terms that spell an identifier take its canonical form. -/
def TermTransform.canonical (codec : Uuid.Codec) : TermTransform := codec.canonical

def TermTransform.uuid : TermTransform := .canonical .lenient

def TermTransform.lowercase : TermTransform := Text.lower

/-- Values whose text spells an identifier take its canonical form. -/
def ValueTransform.canonical (codec : Uuid.Codec) : ValueTransform :=
  fun value => codec.canonical value.render

def ValueTransform.uuid : ValueTransform := .canonical .lenient

def ValueTransform.lowercase : ValueTransform := fun value => Text.lower value.render

structure Field where
  /-- The path as it was written, which names the field in queries. -/
  name : String
  path : Path
  label? : Option String := none
  termTransform? : Option TermTransform := none
  valueTransform? : Option ValueTransform := none
  rank? : Option Nat := none

namespace Field

def ofPath (text : String) : Except SearchError Field :=
  (Path.parse text).map fun path => { name := text, path := path }

def label (field : Field) : String := field.label?.getD field.name

def isRelated (field : Field) : Bool := field.path.isRelated

def transformTerm (field : Field) (text : String) : String :=
  match field.termTransform? with
  | some transform => transform text
  | none => text

def indexTexts (field : Field) (value : Value) : List String :=
  match field.valueTransform? with
  | some transform => [transform value]
  | none => value.indexTexts

def kind (field : Field) (catalog : Catalog) (owner : TypeName) : Except SearchError ValueKind :=
  match catalog.hops owner field.path.relations with
  | .error (current, hop) => .error (.schema (.unknownHop field.path.text owner current hop))
  | .ok steps =>
    let terminal := Catalog.terminal owner steps
    match catalog.attrKind? terminal field.path.attr with
    | some kind => .ok kind
    | none => .error (.schema (.unknownTerminal field.name owner field.path.attr terminal))

/-- The kind of the attribute the field ends at, and what is known of it afterwards: a kind that was
found once is kept. -/
def kindKnowing (field : Field) (known : Option ValueKind) (catalog : Catalog) (owner : TypeName) :
    Except SearchError ValueKind × Option ValueKind :=
  match known with
  | some kind => (.ok kind, some kind)
  | none =>
    match field.kind catalog owner with
    | .ok kind => (.ok kind, some kind)
    | .error e => (.error e, none)

end Field
end EntitySearch
