import EntitySearch.Decimal.Shortest
import EntitySearch.Json.Basic

/-!
# Writing JSON texts

`compact` writes a document without white space; `pretty` writes each item and member on a line of
its own, indented by two spaces a level, and an empty array or object on one line.  In strings only
quotes, backslashes and control characters are escaped.
-/
set_option autoImplicit false
namespace EntitySearch.Json

def hexDigit (n : Nat) : Char := if n < 10 then Char.ofNat (48 + n) else Char.ofNat (87 + n)

def writeChar (c : Char) : List Char :=
  if c = '"' then ['\\', '"']
  else if c = '\\' then ['\\', '\\']
  else if c = '\n' then ['\\', 'n']
  else if c = '\r' then ['\\', 'r']
  else if c = '\t' then ['\\', 't']
  else if c.toNat = 8 then ['\\', 'b']
  else if c.toNat = 12 then ['\\', 'f']
  else if c.toNat < 0x20 then
    ['\\', 'u', '0', '0', hexDigit (c.toNat / 16), hexDigit (c.toNat % 16)]
  else [c]

def writeString (s : String) : List Char := '"' :: (s.toList.flatMap writeChar ++ ['"'])

def writeScalar : Json → List Char
  | .null => ['n', 'u', 'l', 'l']
  | .bool true => ['t', 'r', 'u', 'e']
  | .bool false => ['f', 'a', 'l', 's', 'e']
  | .integer n => (toString n).toList
  | .real x => x.render
  | .string s => writeString s
  | _ => []

mutual

def writeCompact : Json → List Char
  | .array items => '[' :: (writeItems items ++ [']'])
  | .object members => '\x7b' :: (writeMembers members ++ ['\x7d'])
  | .null => writeScalar .null
  | .bool b => writeScalar (.bool b)
  | .integer n => writeScalar (.integer n)
  | .real x => writeScalar (.real x)
  | .string s => writeScalar (.string s)

def writeItems : List Json → List Char
  | [] => []
  | [j] => writeCompact j
  | j :: k :: rest => writeCompact j ++ ',' :: writeItems (k :: rest)

def writeMembers : List (String × Json) → List Char
  | [] => []
  | [(key, j)] => writeString key ++ ':' :: writeCompact j
  | (key, j) :: m :: rest => writeString key ++ ':' :: (writeCompact j ++ ',' :: writeMembers (m :: rest))

end

def newLine (level : Nat) : List Char := '\n' :: List.replicate (2 * level) ' '

mutual

/-- A document on several lines, its first line at a level of nesting. -/
def writePretty (level : Nat) : Json → List Char
  | .array [] => ['[', ']']
  | .array (j :: rest) =>
    '[' :: (writeItemLines (level + 1) (j :: rest) ++ newLine level ++ [']'])
  | .object [] => ['\x7b', '\x7d']
  | .object (m :: rest) =>
    '\x7b' :: (writeMemberLines (level + 1) (m :: rest) ++ newLine level ++ ['\x7d'])
  | .null => writeScalar .null
  | .bool b => writeScalar (.bool b)
  | .integer n => writeScalar (.integer n)
  | .real x => writeScalar (.real x)
  | .string s => writeScalar (.string s)

def writeItemLines (level : Nat) : List Json → List Char
  | [] => []
  | [j] => newLine level ++ writePretty level j
  | j :: k :: rest => newLine level ++ writePretty level j ++ ',' :: writeItemLines level (k :: rest)

def writeMemberLines (level : Nat) : List (String × Json) → List Char
  | [] => []
  | [(key, j)] => newLine level ++ writeString key ++ ':' :: ' ' :: writePretty level j
  | (key, j) :: m :: rest =>
    newLine level ++ writeString key ++ ':' :: ' ' :: (writePretty level j ++
      ',' :: writeMemberLines level (m :: rest))

end

def compact (j : Json) : String := String.ofList (writeCompact j)

def pretty (j : Json) : String := String.ofList (writePretty 0 j)

end EntitySearch.Json
