import EntitySearch.Text.Space

/-!
# Instants

An instant is a count of seconds since the start of 1970 and a count of nanoseconds in that second;
a count of a thousand million nanoseconds or more denotes a leap second, which only the last second
of a minute can have.  Years run from -262143 to 262142 in the proleptic Gregorian calendar.

Instants and their written forms come from a library.  What is assumed of it is what it documents:
it writes the RFC 3339 form, in coordinated universal time, with a signed year outside 0 to 9999
(`render`), and it reads the relaxed form, with white space around the parts of the date and the
time, a blank or a letter T between them, and any offset from universal time (`parse`).  It also
lets a leap second be set behind any second of a minute.  No text is read as such an instant, and
`InRange` leaves them out.
-/
set_option autoImplicit false
namespace EntitySearch

namespace Calendar

/-- The days from the start of 1970 to the given day of the proleptic Gregorian calendar.  Years are
counted from March, so the day that is added in a leap year is the last of its year. -/
def daysFromDate (year : Int) (month day : Nat) : Int :=
  let y := if month ≤ 2 then year - 1 else year
  let era := y.fdiv 400
  let yearOfEra := y - era * 400
  let monthFromMarch : Int := if month ≤ 2 then month + 9 else month - 3
  let dayOfYear := (153 * monthFromMarch + 2).fdiv 5 + day - 1
  let dayOfEra := yearOfEra * 365 + yearOfEra.fdiv 4 - yearOfEra.fdiv 100 + dayOfYear
  era * 146097 + dayOfEra - 719468

def dateFromDays (days : Int) : Int × Nat × Nat :=
  let z := days + 719468
  let era := z.fdiv 146097
  let dayOfEra := z - era * 146097
  let yearOfEra :=
    (dayOfEra - dayOfEra.fdiv 1460 + dayOfEra.fdiv 36524 - dayOfEra.fdiv 146096).fdiv 365
  let dayOfYear := dayOfEra - (365 * yearOfEra + yearOfEra.fdiv 4 - yearOfEra.fdiv 100)
  let monthFromMarch := (5 * dayOfYear + 2).fdiv 153
  let day := dayOfYear - (153 * monthFromMarch + 2).fdiv 5 + 1
  let month := if monthFromMarch < 10 then monthFromMarch + 3 else monthFromMarch - 9
  let year := yearOfEra + era * 400 + (if month ≤ 2 then 1 else 0)
  (year, month.toNat, day.toNat)

def isLeapYear (year : Int) : Bool :=
  year % 4 == 0 && (year % 100 != 0 || year % 400 == 0)

def daysInMonth (year : Int) (month : Nat) : Nat :=
  if month = 2 then if isLeapYear year then 29 else 28
  else if month ∈ [4, 6, 9, 11] then 30
  else 31

def minYear : Int := -262143

def maxYear : Int := 262142

def isDate (year : Int) (month day : Nat) : Bool :=
  decide (minYear ≤ year) && decide (year ≤ maxYear) && decide (1 ≤ month) && decide (month ≤ 12) &&
    decide (1 ≤ day) && decide (day ≤ daysInMonth year month)

end Calendar

def Timestamp.secondRange : Int × Int :=
  (Calendar.daysFromDate Calendar.minYear 1 1 * 86400,
    Calendar.daysFromDate Calendar.maxYear 12 31 * 86400 + 86399)

/-- Do the counts of an instant lie in their ranges? -/
def Timestamp.InRange (seconds : Int) (nanos : Nat) : Prop :=
  Timestamp.secondRange.1 ≤ seconds ∧ seconds ≤ Timestamp.secondRange.2 ∧
    (nanos < 1000000000 ∨ (nanos < 2000000000 ∧ seconds % 60 = 59))

instance (seconds : Int) (nanos : Nat) : Decidable (Timestamp.InRange seconds nanos) :=
  inferInstanceAs (Decidable (_ ∧ _))

structure Timestamp where
  seconds : Int
  nanos : Nat
  inRange : Timestamp.InRange seconds nanos
deriving DecidableEq

namespace Timestamp

def of? (seconds : Int) (nanos : Nat) : Option Timestamp :=
  if ok : InRange seconds nanos then some ⟨seconds, nanos, ok⟩ else none

def padded (width n : Nat) : List Char :=
  let digits := Nat.toDigits 10 n
  List.replicate (width - digits.length) '0' ++ digits

/-- A year: four digits from 0 to 9999, a sign and at least four digits otherwise. -/
def writeYear (year : Int) : List Char :=
  if 0 ≤ year ∧ year ≤ 9999 then padded 4 year.toNat
  else (if year < 0 then '-' else '+') :: padded 4 year.natAbs

def writeSeconds (t : Timestamp) : List Char :=
  let days := t.seconds.fdiv 86400
  let ofDay := (t.seconds - days * 86400).toNat
  let (year, month, day) := Calendar.dateFromDays days
  let second := ofDay % 60 + (if t.nanos < 1000000000 then 0 else 1)
  writeYear year ++ '-' :: padded 2 month ++ '-' :: padded 2 day ++ 'T' :: padded 2 (ofDay / 3600) ++
    ':' :: padded 2 (ofDay / 60 % 60) ++ ':' :: padded 2 second

/-- The fraction of the second, in the fewest of no, three, six or nine digits. -/
def writeFraction (t : Timestamp) : List Char :=
  let nanos := t.nanos % 1000000000
  if nanos = 0 then []
  else if nanos % 1000000 = 0 then '.' :: padded 3 (nanos / 1000000)
  else if nanos % 1000 = 0 then '.' :: padded 6 (nanos / 1000)
  else '.' :: padded 9 nanos

def render (t : Timestamp) : String := String.ofList (t.writeSeconds ++ ['Z'])

def renderExact (t : Timestamp) : String :=
  String.ofList (t.writeSeconds ++ t.writeFraction ++ ['Z'])

/-! ## Reading -/

def readNat (width : Nat) (cs : List Char) : Option (Nat × List Char) :=
  let digits := (cs.take width).takeWhile Char.isDigit
  if digits.isEmpty then none
  else some (digits.foldl (fun n c => n * 10 + (c.toNat - '0'.toNat)) 0, cs.drop digits.length)

def readPart (width : Nat) (cs : List Char) : Option (Nat × List Char) :=
  readNat width (Text.trimStart cs)

/-- A year after white space: any number of digits after a sign, else one to four. -/
def readYear (cs : List Char) : Option (Int × List Char) :=
  let cs := Text.trimStart cs
  match cs with
  | [] => none
  | c :: rest =>
    if c = '-' then (readNat rest.length rest).map fun (n, rest) => (-(n : Int), rest)
    else if c = '+' then (readNat rest.length rest).map fun (n, rest) => ((n : Int), rest)
    else (readNat 4 cs).map fun (n, rest) => ((n : Int), rest)

def readMark (mark : Char) (cs : List Char) : Option (List Char) :=
  match Text.trimStart cs with
  | [] => none
  | c :: rest => if c = mark then some rest else none

/-- A fraction of a second in nanoseconds, if one follows; digits after the ninth are ignored. -/
def readFraction (cs : List Char) : Option (Nat × List Char) :=
  match cs with
  | '.' :: rest =>
    let digits := (rest.take 9).takeWhile Char.isDigit
    (readNat 9 rest).map fun (n, rest) =>
      (n * Nat.pow 10 (9 - digits.length), rest.dropWhile Char.isDigit)
  | _ => some (0, cs)

def minusSign : Char := Char.ofNat 0x2212

def readTwo : List Char → Option (Nat × List Char)
  | a :: b :: rest =>
    if a.isDigit && b.isDigit then
      some ((a.toNat - '0'.toNat) * 10 + (b.toNat - '0'.toNat), rest)
    else none
  | _ => none

def readOffset (cs : List Char) : Option (Int × List Char) :=
  match cs with
  | [] => none
  | c :: rest =>
    if c = 'Z' ∨ c = 'z' then some (0, rest)
    else if (cs.take 3).map Char.toLower = ['u', 't', 'c'] then some (0, cs.drop 3)
    else if c = '+' ∨ c = '-' ∨ c = minusSign then do
      let (hours, rest) ← readTwo rest
      let (minutes, rest) ← readTwo (rest.dropWhile fun c => c == ':' || Text.isSpace c)
      if 59 < minutes then none
      else
        let seconds : Int := hours * 3600 + minutes * 60
        some (if c = '+' then seconds else -seconds, rest)
    else none

def parseChars (cs : List Char) : Option Timestamp := do
  let (year, cs) ← readYear cs
  let cs ← readMark '-' cs
  let (month, cs) ← readPart 2 cs
  let cs ← readMark '-' cs
  let (day, cs) ← readPart 2 cs
  let cs ← match cs with
    | c :: rest => if c = 'T' ∨ c = 't' ∨ c = ' ' then some rest else none
    | [] => none
  let (hour, cs) ← readPart 2 cs
  let cs ← readMark ':' cs
  let (minute, cs) ← readPart 2 cs
  let cs ← readMark ':' cs
  let (second, cs) ← readPart 2 cs
  let (nanos, cs) ← readFraction cs
  let (offset, cs) ← readOffset (Text.trimStart cs)
  if !Text.isBlank cs || !Calendar.isDate year month day then none
  else if 23 < hour ∨ 59 < minute ∨ 60 < second ∨ 86400 ≤ offset.natAbs then none
  else
    let leap : Bool := second == 60
    let ofDay : Int := hour * 3600 + minute * 60 + (if leap then 59 else second)
    of? (Calendar.daysFromDate year month day * 86400 + ofDay - offset)
      (nanos + if leap then 1000000000 else 0)

def parse (s : String) : Option Timestamp := parseChars s.toList

example : (parse "2024-05-01T12:00:00.123+02:00").map renderExact = some "2024-05-01T10:00:00.123Z" := by
  decide +kernel
example : (of? 253402300800 0).map render = some "+10000-01-01T00:00:00Z" := by decide +kernel
example : (of? (-62167219201) 0).map render = some "-0001-12-31T23:59:59Z" := by decide +kernel

end Timestamp
end EntitySearch
