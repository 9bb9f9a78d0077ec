import EntitySearch.Json.Shape
import EntitySearch.Json.Skip

/-!
# Reading JSON texts

`Json.parseAs shape` reads a text of the JSON grammar.  The members that the shape does not look
at are left out of the document.  In what is looked at, arrays and objects nest at most 127 deep,
escapes spell characters, and numbers stay within the range of binary floating point; a value that
is left out has only to keep to the grammar (`Json.skipValue`).  Repeated members are kept
(`Json.canonical` drops them).

Nesting is by recursion on the depth still allowed; the loops over items and members recurse on a
bound that starts as the number of characters left.
-/
set_option autoImplicit false
namespace EntitySearch.Json

/-- The items of an array after the first one's start; `readItem` reads the one at a place, and
`place` is that of the next one. -/
def readItems (readItem : Nat → List Char → Read Json) (items : List Json) (place : Nat) :
    Nat → List Char → Read (List Json)
  | 0, _ => none
  | bound + 1, cs =>
    match readItem place cs with
    | none => none
    | some (item, rest) =>
      match skipBlanks rest with
      | ']' :: rest => some ((item :: items).reverse, rest)
      | ',' :: rest => readItems readItem (item :: items) (place + 1) bound rest
      | _ => none

/-- The members of an object after the first one's start; `readMember?` reads the value of the
member with a key, if it is looked at. -/
def readMembers (readMember? : String → Option (List Char → Read Json))
    (members : List (String × Json)) : Nat → List Char → Read (List (String × Json))
  | 0, _ => none
  | bound + 1, cs =>
    match skipBlanks cs with
    | '"' :: rest =>
      match readString [] rest with
      | none => none
      | some (key, rest) =>
        match skipBlanks rest with
        | ':' :: rest =>
          let next : Read (List (String × Json)) := match readMember? key with
            | some readItem => (readItem rest).map fun r => ((key, r.1) :: members, r.2)
            | none => (skipValue rest).map fun rest => (members, rest)
          match next with
          | none => none
          | some (members, rest) =>
            match skipBlanks rest with
            | '\x7d' :: rest => some (members.reverse, rest)
            | ',' :: rest => readMembers readMember? members bound rest
            | _ => none
        | _ => none
    | _ => none

/-- A document of a shape whose arrays and objects nest less than `depth` deep. -/
def readValue : Nat → Shape → List Char → Read Json
  | 0, _, _ => none
  | depth + 1, shape, cs =>
    match skipBlanks cs with
    | [] => none
    | c :: rest =>
      if c = 'n' then readWord ['u', 'l', 'l'] .null rest
      else if c = 't' then readWord ['r', 'u', 'e'] (.bool true) rest
      else if c = 'f' then readWord ['a', 'l', 's', 'e'] (.bool false) rest
      else if c = '"' then (readString [] rest).map fun r => (.string r.1, r.2)
      else if c = '-' || isDigit c then readNumber (c :: rest)
      else if c = '[' then
        if depth = 0 then none
        else match skipBlanks rest with
          | ']' :: rest => some (.array [], rest)
          | rest =>
            (readItems (fun place => readValue depth (shape.item place)) [] 0 (rest.length + 1)
              rest).map fun r => (.array r.1, r.2)
      else if c = '\x7b' then
        if depth = 0 then none
        else match skipBlanks rest with
          | '\x7d' :: rest => some (.object [], rest)
          | rest =>
            (readMembers (fun key => (shape.member? key).map (readValue depth)) []
              (rest.length + 1) rest).map fun r => (.object r.1, r.2)
      else none

def depthLimit : Nat := 128

def parseChars (shape : Shape) (cs : List Char) : Option Json :=
  match readValue depthLimit shape cs with
  | some (j, rest) => if (skipBlanks rest).isEmpty then some j else none
  | none => none

def parseAs (shape : Shape) (s : String) : Option Json := parseChars shape s.toList

def parse (s : String) : Option Json := parseAs .whole s

end EntitySearch.Json
