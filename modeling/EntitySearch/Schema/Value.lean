import EntitySearch.Json.Writer
import EntitySearch.Schema.Timestamp

/-!
# Attribute values

An attribute holds nothing, a flag, an integer of 64 bits, an instant, a text or a list of values.
`Value.ofJson` makes a value of a JSON document without guessing: a text stays a text.  The stored
form (`toStored`, `ofStored?`) does guess, since an instant is stored as a text.

`render` is the text of a value; `indexTexts` are the texts a value is found by, one for each
element of a list.
-/
set_option autoImplicit false
namespace EntitySearch

inductive ValueKind where
  | text
  | integer
  | boolean
  | timestamp
  | list
deriving DecidableEq, Repr

namespace ValueKind

def word : ValueKind → String
  | text => "text"
  | integer => "integer"
  | boolean => "boolean"
  | timestamp => "timestamp"
  | list => "list"

def ofWord? (word : String) : Option ValueKind :=
  [text, integer, boolean, timestamp, list].find? fun kind => kind.word == word

def isMultiValued : ValueKind → Bool
  | list => true
  | _ => false

end ValueKind

inductive Value where
  | null
  | boolean (b : Bool)
  | integer (n : Int64)
  | timestamp (t : Timestamp)
  | text (s : String)
  | list (items : List Value)
deriving Inhabited

namespace Value

def int64? (n : Int) : Option Int64 :=
  if -9223372036854775808 ≤ n ∧ n ≤ 9223372036854775807 then some (Int64.ofInt n) else none

mutual

/-- The value a document stands for.  A number that is no integer of 64 bits, and an object, become
their own text. -/
def ofJson : Json → Value
  | .null => null
  | .bool b => boolean b
  | .integer n =>
    match int64? n with
    | some i => integer i
    | none => text (toString n)
  | .real x => text (String.ofList x.render)
  | .string s => text s
  | .array items => list (ofJsonItems items)
  | .object members => text (Json.object members).canonical.compact

def ofJsonItems : List Json → List Value
  | [] => []
  | j :: rest => ofJson j :: ofJsonItems rest

end

def isNull : Value → Bool
  | null => true
  | _ => false

mutual

/-- The text of a value: nothing for a missing one, a list as its elements with blanks between. -/
def render : Value → String
  | null => ""
  | boolean b => if b then "true" else "false"
  | integer n => toString n.toInt
  | timestamp t => t.render
  | text s => s
  | list items => String.intercalate " " (renderItems items)

def renderItems : List Value → List String
  | [] => []
  | v :: rest => render v :: renderItems rest

end

mutual

/-- The texts a value is found by: none for a missing one, those of its elements for a list. -/
def indexTexts : Value → List String
  | null => []
  | boolean b => [render (boolean b)]
  | integer n => [render (integer n)]
  | timestamp t => [render (timestamp t)]
  | text s => [render (text s)]
  | list items => indexTextsItems items

def indexTextsItems : List Value → List String
  | [] => []
  | v :: rest => indexTexts v ++ indexTextsItems rest

end

mutual

def toStored : Value → Json
  | null => .null
  | boolean b => .bool b
  | integer n => .integer n.toInt
  | timestamp t => .string t.renderExact
  | text s => .string s
  | list items => .array (toStoredItems items)

def toStoredItems : List Value → List Json
  | [] => []
  | v :: rest => toStored v :: toStoredItems rest

end

mutual

/-- The value a stored form is read as: a text that spells an instant is taken for one. -/
def ofStored? : Json → Option Value
  | .null => some null
  | .bool b => some (boolean b)
  | .integer n => (int64? n).map integer
  | .real _ => none
  | .string s =>
    match Timestamp.parse s with
    | some t => some (timestamp t)
    | none => some (text s)
  | .array items => (ofStoredItems? items).map list
  | .object _ => none

def ofStoredItems? : List Json → Option (List Value)
  | [] => some []
  | j :: rest =>
    match ofStored? j with
    | none => none
    | some v => (ofStoredItems? rest).map (v :: ·)

end

end Value
end EntitySearch
