import EntitySearch.Data.SortedMap
import EntitySearch.Decimal.Binary64

/-!
# JSON documents

An object is the list of its members in the order they are written, repetitions included, so that
a reader can tell a repeated member from a single one.  `Json.canonical` is the document with the
members of each object sorted by key and with the last of repeated members only.

Numbers are integers where they fit 64 bits, signed or unsigned, and binary floating point numbers
otherwise.

Texts are read and written by a library.  What is assumed of it is what it documents: the grammar of
JSON and a limit on nesting (`Json.Reader`), numbers rounded to the nearest double
(`Json.Scalar`), and one text for each document, with the members of maps sorted (`Json.Writer`).
-/
set_option autoImplicit false
namespace EntitySearch

inductive Json where
  | null
  | bool (b : Bool)
  | integer (n : Int)
  | real (x : Binary64)
  | string (s : String)
  | array (items : List Json)
  | object (members : List (String × Json))
deriving Inhabited

namespace Json

def nat (n : Nat) : Json := .integer n

def strings (items : List String) : Json := .array (items.map .string)

def orNull : Option Json → Json
  | none => .null
  | some j => j

def stringOrNull (s : Option String) : Json := orNull (s.map .string)

def ofMap (m : SortedMap String Json) : Json := .object m.entries

def string? : Json → Option String
  | .string s => some s
  | _ => none

def bool? : Json → Option Bool
  | .bool b => some b
  | _ => none

def array? : Json → Option (List Json)
  | .array items => some items
  | _ => none

def object? : Json → Option (List (String × Json))
  | .object members => some members
  | _ => none

def natUpTo? (limit : Nat) : Json → Option Nat
  | .integer n => if 0 ≤ n ∧ n.toNat ≤ limit then some n.toNat else none
  | _ => none

def maxUnsigned : Nat := 18446744073709551615

def unsigned? : Json → Option Nat := natUpTo? maxUnsigned

/-- The member of an object with the given key, the last if there are several. -/
def get? (key : String) : Json → Option Json
  | .object members => (members.reverse.find? fun m => m.1 == key).map Prod.snd
  | _ => none

mutual

/-- The document with sorted members and without repeated ones. -/
def canonical : Json → Json
  | .array items => .array (canonicalItems items)
  | .object members => .object (canonicalMembers members).entries
  | .null => .null
  | .bool b => .bool b
  | .integer n => .integer n
  | .real x => .real x
  | .string s => .string s

def canonicalItems : List Json → List Json
  | [] => []
  | j :: rest => canonical j :: canonicalItems rest

def canonicalMembers : List (String × Json) → SortedMap String Json
  | [] => .empty
  | (key, value) :: rest =>
    let later := canonicalMembers rest
    if later.contains key then later else later.insert key (canonical value)

end

end Json
end EntitySearch
