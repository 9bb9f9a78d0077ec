import EntitySearch.Json.Basic

/-!
# Words, strings and numbers in JSON texts

Each reader takes the characters that are left and returns a result with the characters left after
it.  A string is refused if one of its escapes spells no character.

A number without fraction and exponent is an integer if it fits 64 bits; the negated zero and every
other number is a binary floating point number, read from the digits that fit 64 bits and a power
of ten (`Binary64.ofDecimal`), and refused if it is out of range.
-/
set_option autoImplicit false
namespace EntitySearch.Json

/-- A result with the characters left after it. -/
abbrev Read (α : Type) := Option (α × List Char)

def isBlank (c : Char) : Bool := c == ' ' || c == '\n' || c == '\t' || c == '\r'

def skipBlanks (cs : List Char) : List Char := cs.dropWhile isBlank

def readWord {α : Type} (word : List Char) (value : α) (cs : List Char) : Read α :=
  if word.isPrefixOf cs then some (value, cs.drop word.length) else none

def hexValue? (c : Char) : Option Nat :=
  if '0' ≤ c ∧ c ≤ '9' then some (c.toNat - '0'.toNat)
  else if 'a' ≤ c ∧ c ≤ 'f' then some (c.toNat - 'a'.toNat + 10)
  else if 'A' ≤ c ∧ c ≤ 'F' then some (c.toNat - 'A'.toNat + 10)
  else none

def hexFour? (a b c d : Char) : Option Nat := do
  let a ← hexValue? a
  let b ← hexValue? b
  let c ← hexValue? c
  let d ← hexValue? d
  return ((a * 16 + b) * 16 + c) * 16 + d

def shortEscape? (c : Char) : Option Char :=
  if c = '"' then some '"'
  else if c = '\\' then some '\\'
  else if c = '/' then some '/'
  else if c = 'b' then some (Char.ofNat 8)
  else if c = 'f' then some (Char.ofNat 12)
  else if c = 'n' then some '\n'
  else if c = 'r' then some '\r'
  else if c = 't' then some '\t'
  else none

/-- The rest of a string after its opening quote; `done` are the characters read, latest first. -/
def readString (done : List Char) : List Char → Read String
  | [] => none
  | c :: rest =>
    if c = '"' then some (String.ofList done.reverse, rest)
    else if c.toNat < 0x20 then none
    else if c ≠ '\\' then readString (c :: done) rest
    else match rest with
      | [] => none
      | e :: rest =>
        if e ≠ 'u' then
          match shortEscape? e with
          | some c => readString (c :: done) rest
          | none => none
        else match rest with
          | x₁ :: x₂ :: x₃ :: x₄ :: rest =>
            match hexFour? x₁ x₂ x₃ x₄ with
            | none => none
            | some n =>
              if 0xDC00 ≤ n ∧ n ≤ 0xDFFF then none
              else if n < 0xD800 ∨ 0xDFFF < n then readString (Char.ofNat n :: done) rest
              else match rest with
                | b :: u :: y₁ :: y₂ :: y₃ :: y₄ :: rest =>
                  match hexFour? y₁ y₂ y₃ y₄ with
                  | none => none
                  | some m =>
                    if b = '\\' ∧ u = 'u' ∧ 0xDC00 ≤ m ∧ m ≤ 0xDFFF then
                      let c := Char.ofNat (0x10000 + (n - 0xD800) * 0x400 + (m - 0xDC00))
                      readString (c :: done) rest
                    else none
                | _ => none
          | _ => none

def isDigit (c : Char) : Bool := '0' ≤ c && c ≤ '9'

def digitValue (c : Char) : Nat := c.toNat - '0'.toNat

/-- Takes digits into `significand` as long as it stays an unsigned integer of 64 bits; returns it
with the number of digits taken and the characters left. -/
def takeDigits (significand taken : Nat) : List Char → Nat × Nat × List Char
  | [] => (significand, taken, [])
  | c :: rest =>
    if isDigit c && decide (significand * 10 + digitValue c ≤ maxUnsigned) then
      takeDigits (significand * 10 + digitValue c) (taken + 1) rest
    else (significand, taken, c :: rest)

def leadingNat (cs : List Char) : Nat :=
  (cs.takeWhile isDigit).foldl (fun n c => n * 10 + digitValue c) 0

/-- The end of a number whose digits so far are `significand * 10 ^ exponent`: an exponent part, if
there is one. -/
def readScaled (negative : Bool) (significand : Nat) (exponent : Int) (cs : List Char) : Read Json :=
  let finish (exponent : Int) (rest : List Char) : Read Json :=
    (Binary64.ofDecimal significand exponent).map fun x =>
      (.real (if negative then x.neg else x), rest)
  match cs with
  | [] => finish exponent []
  | c :: rest =>
    if c = 'e' ∨ c = 'E' then
      let (down, rest) := match rest with
        | [] => (false, [])
        | s :: more => if s = '-' then (true, more) else if s = '+' then (false, more) else (false, rest)
      let power : Int := leadingNat rest
      if (rest.takeWhile isDigit).isEmpty then none
      else finish (if down then exponent - power else exponent + power) (rest.dropWhile isDigit)
    else finish exponent cs

def readFraction (negative : Bool) (significand : Nat) (exponent : Int) (cs : List Char) :
    Read Json :=
  let (significand', taken, rest) := takeDigits significand 0 cs
  if (cs.takeWhile isDigit).isEmpty then none
  else readScaled negative significand' (exponent - taken) (rest.dropWhile isDigit)

def readUnsignedNumber (negative : Bool) (cs : List Char) : Read Json :=
  let (significand, _, rest) := takeDigits 0 0 cs
  let skipped := rest.takeWhile isDigit
  let rest := rest.dropWhile isDigit
  let digits := cs.takeWhile isDigit
  if digits.isEmpty || (digits.head? == some '0' && digits.length ≠ 1) then none
  else
    let whole : Bool := match rest with
      | [] => true
      | c :: _ => c != '.' && c != 'e' && c != 'E'
    if whole && skipped.isEmpty && !negative then some (.integer significand, rest)
    else if whole && skipped.isEmpty && significand ≠ 0 && significand ≤ 9223372036854775808 then
      some (.integer (-significand), rest)
    else match rest with
      | '.' :: rest => readFraction negative significand skipped.length rest
      | _ => readScaled negative significand skipped.length rest

def readNumber : List Char → Read Json
  | '-' :: rest => readUnsignedNumber true rest
  | cs => readUnsignedNumber false cs

end EntitySearch.Json
