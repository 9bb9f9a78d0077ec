/-!
# Binary floating point numbers of 64 bits

A finite number is a sign, a mantissa below `2 ^ 53` and a power of two; the exponent is never
below `-1074`, and the mantissa is at least `2 ^ 52` unless the exponent is that least one.
Arithmetic is exact arithmetic on natural numbers followed by one rounding (`roundQuotient`): to
the nearest number, a tie to the even mantissa.

`ofDecimal` scales an integer by a power of ten with one rounding for the integer and one for the
scaling, the powers of ten being rounded numbers themselves.
-/
set_option autoImplicit false
namespace EntitySearch

/-- A finite number: `mantissa * 2 ^ exponent`, negated if `negative`. -/
structure Binary64 where
  negative : Bool
  mantissa : Nat
  exponent : Int
deriving DecidableEq, Repr

namespace Binary64

def twoPow (n : Nat) : Nat := Nat.pow 2 n

def tenPow (n : Nat) : Nat := Nat.pow 10 n

def minExponent : Int := -1074

def maxExponent : Int := 971

def zero : Binary64 := ⟨false, 0, minExponent⟩

def isZero (x : Binary64) : Bool := x.mantissa == 0

def neg (x : Binary64) : Binary64 := { x with negative := !x.negative }

/-- The integer nearest to `num / den`, a tie going to the even one. -/
def roundDiv (num den : Nat) : Nat :=
  let q := num / den
  let r := num % den
  if den < 2 * r ∨ (2 * r = den ∧ q % 2 = 1) then q + 1 else q

def roundScaled (num den : Nat) (e : Int) : Nat :=
  if 0 ≤ e then roundDiv num (den * twoPow e.toNat) else roundDiv (num * twoPow (-e).toNat) den

def roundQuotient (num den : Nat) : Option Binary64 :=
  if num = 0 then some zero
  else
    let guess : Int := (num.log2 : Int) - (den.log2 : Int) - 53
    let floorAt (e : Int) : Nat :=
      if 0 ≤ e then num / (den * twoPow e.toNat) else num * twoPow (-e).toNat / den
    let e := if floorAt guess < twoPow 53 then guess else guess + 1
    let e := if floorAt e < twoPow 53 then e else e + 1
    let e := max e minExponent
    let m := roundScaled num den e
    let (m, e) := if m = twoPow 53 then (twoPow 52, e + 1) else (m, e)
    if maxExponent < e then none else some ⟨false, m, e⟩

def ofNat (n : Nat) : Binary64 := (roundQuotient n 1).getD zero

/-- The number nearest to a power of ten; powers beyond the 308th count as the 308th. -/
def powerOfTen (k : Nat) : Binary64 := ofNat (tenPow (min k 308))

def mul (x y : Binary64) : Option Binary64 :=
  let e := x.exponent + y.exponent
  let m := x.mantissa * y.mantissa
  if 0 ≤ e then roundQuotient (m * twoPow e.toNat) 1 else roundQuotient m (twoPow (-e).toNat)

def div (x y : Binary64) : Binary64 :=
  let e := x.exponent - y.exponent
  let rounded :=
    if 0 ≤ e then roundQuotient (x.mantissa * twoPow e.toNat) y.mantissa
    else roundQuotient x.mantissa (y.mantissa * twoPow (-e).toNat)
  rounded.getD zero

/-- The integer `significand`, rounded, times `10 ^ exponent`, rounded; `none` beyond the greatest
number.  A scaling further down than the 308th power is done in two steps. -/
def ofDecimal (significand : Nat) (exponent : Int) : Option Binary64 :=
  let x := ofNat significand
  if x.isZero then some zero
  else if 308 < exponent then none
  else if 0 ≤ exponent then x.mul (powerOfTen exponent.toNat)
  else if -308 ≤ exponent then some (x.div (powerOfTen (-exponent).toNat))
  else if -616 ≤ exponent then
    some ((x.div (powerOfTen 308)).div (powerOfTen (-exponent - 308).toNat))
  else some zero

end Binary64
end EntitySearch
