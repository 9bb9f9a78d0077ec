import EntitySearch.Text.LetterCase
import EntitySearch.Text.Unprintable

/-!
# Texts in quotes

A text is shown between double quotes with a backslash before quotes and backslashes, short names
for the usual control characters, and the code point in hexadecimal for whatever would not be
visible on its own.
-/
set_option autoImplicit false
namespace EntitySearch.Text

def hexDigits (n : Nat) : List Char := Nat.toDigits 16 n

/-- Does a code point only change the look of the character before it? -/
def attaches (n : Nat) : Bool := inRanges graphemeExtendRanges n && !inRanges soundMarkRanges n

def hiddenInQuotes (c : Char) : Bool :=
  let n := c.toNat
  if n < 0x7F then n < 0x20
  else attaches n || inRanges fillerRanges n || inRanges unprintableRanges n

def quotedChar (c : Char) : List Char :=
  if c = '"' then ['\\', '"']
  else if c = '\\' then ['\\', '\\']
  else if c = '\n' then ['\\', 'n']
  else if c = '\r' then ['\\', 'r']
  else if c = '\t' then ['\\', 't']
  else if c.toNat = 0 then ['\\', '0']
  else if hiddenInQuotes c then
    ['\\', 'u', '\x7b'] ++ hexDigits c.toNat ++ ['\x7d']
  else [c]

def quoted (s : String) : String :=
  String.ofList ('"' :: (s.toList.flatMap quotedChar ++ ['"']))

example : quoted "a \"b\" \\" = "\"a \\\"b\\\" \\\\\"" := by decide +kernel
example : quoted "\u200bé" = "\"\\u\x7b200b\x7dé\"" := by decide +kernel

end EntitySearch.Text
