import EntitySearch.Text.LetterCase

/-!
# Lower case

The full Unicode lower case mapping.  It is character by character but for two rules: a capital I
with a dot becomes two characters, and a capital sigma that ends a word becomes the final sigma.
A sigma ends a word when the nearest character before it that is not case-ignorable is cased and
the nearest one after it is not.

`lowercase` walks the text once with the characters already passed, nearest first, so the rule for
the sigma can look both ways.
-/
set_option autoImplicit false
namespace EntitySearch.Text

def casedNext (cs : List Char) : Bool :=
  match cs.dropWhile isCaseIgnorable with
  | [] => false
  | c :: _ => isCased c

/-- The lower case form of one character, between the characters `before` it (nearest first) and
the characters `after` it. -/
def lowerAt (before : List Char) (c : Char) (after : List Char) : List Char :=
  if c = 'Σ' then [if casedNext before && !casedNext after then 'ς' else 'σ']
  else if c = 'İ' then ['i', Char.ofNat 0x307]
  else [lowerChar c]

/-- `lowercase` of the rest of a text whose beginning, reversed, is `before`. -/
def lowercaseFrom (before : List Char) : List Char → List Char
  | [] => []
  | c :: rest => lowerAt before c rest ++ lowercaseFrom (c :: before) rest

def lowercase (cs : List Char) : List Char := lowercaseFrom [] cs

def lower (s : String) : String := String.ofList (lowercase s.toList)

example : lowercase "ΟΔΥΣΣΕΥΣ".toList = "οδυσσευς".toList := by decide +kernel
example : lowercase "Ab-Σ".toList = "ab-σ".toList := by decide +kernel
example : (lowercase "İ".toList).length = 2 := by decide +kernel

end EntitySearch.Text
