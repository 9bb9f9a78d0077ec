import EntitySearch.Json.Scalar

/-!
# Reading past a value

A value that nobody looks at has to keep to the grammar of JSON texts, but it need not stand for
anything: a number may be out of range, an escape may spell half a character, and arrays and
objects may nest as deep as they like.

Each reader here returns the characters left.  `skipNested` keeps the containers that are still
open in a list, so depth costs no more than length.
-/
set_option autoImplicit false
namespace EntitySearch.Json

def skipString : List Char → Option (List Char)
  | [] => none
  | c :: rest =>
    if c = '"' then some rest
    else if c.toNat < 0x20 then none
    else if c ≠ '\\' then skipString rest
    else match rest with
      | [] => none
      | e :: rest =>
        if e ≠ 'u' then
          if (shortEscape? e).isSome then skipString rest else none
        else match rest with
          | x₁ :: x₂ :: x₃ :: x₄ :: rest =>
            if (hexFour? x₁ x₂ x₃ x₄).isSome then skipString rest else none
          | _ => none

def skipDigits (cs : List Char) : Option (List Char) :=
  if (cs.takeWhile isDigit).isEmpty then none else some (cs.dropWhile isDigit)

/-- The characters after the digits before a decimal point, among which a zero stands alone. -/
def skipWhole : List Char → Option (List Char)
  | '0' :: rest => some rest
  | cs => skipDigits cs

def skipFraction : List Char → Option (List Char)
  | '.' :: rest => skipDigits rest
  | cs => some cs

def skipExponent : List Char → Option (List Char)
  | [] => some []
  | c :: rest =>
    if c = 'e' ∨ c = 'E' then
      match rest with
      | '-' :: rest => skipDigits rest
      | '+' :: rest => skipDigits rest
      | _ => skipDigits rest
    else some (c :: rest)

def skipNumber (cs : List Char) : Option (List Char) := do
  let rest ← skipWhole cs
  let rest ← skipFraction rest
  skipExponent rest

def skipScalar (c : Char) (rest : List Char) : Option (List Char) :=
  if c = 'n' then (readWord ['u', 'l', 'l'] () rest).map Prod.snd
  else if c = 't' then (readWord ['r', 'u', 'e'] () rest).map Prod.snd
  else if c = 'f' then (readWord ['a', 'l', 's', 'e'] () rest).map Prod.snd
  else if c = '"' then skipString rest
  else if c = '-' then skipNumber rest
  else skipNumber (c :: rest)

def skipKey (cs : List Char) : Option (List Char) :=
  match skipBlanks cs with
  | '"' :: rest =>
    match skipString rest with
    | none => none
    | some rest =>
      match skipBlanks rest with
      | ':' :: rest => some rest
      | _ => none
  | _ => none

inductive Container where
  | array
  | object
deriving DecidableEq, Repr

/-- The characters after the end of the open containers, the innermost first.  A value comes next
if `value`, else what follows one.  Every step takes a character, so their number bounds the
steps. -/
def skipNested : Nat → Bool → List Container → List Char → Option (List Char)
  | 0, _, _, _ => none
  | _ + 1, false, [], cs => some cs
  | bound + 1, false, inner :: outer, cs =>
    match inner, skipBlanks cs with
    | .array, ']' :: rest => skipNested bound false outer rest
    | .array, ',' :: rest => skipNested bound true (inner :: outer) rest
    | .object, '\x7d' :: rest => skipNested bound false outer rest
    | .object, ',' :: rest =>
      match skipKey rest with
      | some rest => skipNested bound true (inner :: outer) rest
      | none => none
    | _, _ => none
  | bound + 1, true, opened, cs =>
    match skipBlanks cs with
    | [] => none
    | c :: rest =>
      if c = '[' then
        match skipBlanks rest with
        | ']' :: rest => skipNested bound false opened rest
        | rest => skipNested bound true (.array :: opened) rest
      else if c = '\x7b' then
        match skipBlanks rest with
        | '\x7d' :: rest => skipNested bound false opened rest
        | rest =>
          match skipKey rest with
          | some rest => skipNested bound true (.object :: opened) rest
          | none => none
      else
        match skipScalar c rest with
        | some rest => skipNested bound false opened rest
        | none => none

def skipValue (cs : List Char) : Option (List Char) := skipNested (cs.length + 2) true [] cs

example : skipValue "1e999, 2".toList = some ", 2".toList := by decide +kernel
example : skipValue "[\"\\ud800\", [0, []]]".toList = some [] := by decide +kernel
example : skipValue "\"\\x\"".toList = none := by decide +kernel

end EntitySearch.Json
