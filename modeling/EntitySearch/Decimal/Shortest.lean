import EntitySearch.Decimal.Binary64

/-!
# The shortest decimal of a binary number

The reals that round to a number form an interval; its ends belong to it exactly when the mantissa
is even.  The shortest decimal has the fewest digits with which some decimal lies in that interval,
and among those it is the one nearest to the number.

`shortest` goes through the digit counts 1, 2, …, 17 and tests the two neighbours of the number on
each decimal grid in exact arithmetic.  `render` writes the digits: positionally when the decimal
exponent lies in a fixed window, else with one digit before the point and a signed exponent.
-/
set_option autoImplicit false
namespace EntitySearch.Binary64

structure DecimalForm where
  digits : Nat
  exponent : Int
deriving DecidableEq, Repr

def fraction (mantissa : Nat) (exponent : Int) : Nat × Nat :=
  if 0 ≤ exponent then (mantissa * twoPow exponent.toNat, 1) else (mantissa, twoPow (-exponent).toNat)

/-- The interval that rounds to a positive number, as four times the number's denominator: lower
end, value, upper end and denominator.  Below a power of two the neighbours are half as far. -/
def roundingInterval (mantissa : Nat) (exponent : Int) : Nat × Nat × Nat × Nat :=
  let (num, den) := fraction mantissa exponent
  let unit := if 0 ≤ exponent then twoPow exponent.toNat else 1
  let below := if mantissa = twoPow 52 ∧ exponent ≠ minExponent then unit else 2 * unit
  (4 * num - below, 4 * num, 4 * num + 2 * unit, 4 * den)

def compareDecimal (digits : Nat) (e : Int) (num den : Nat) : Ordering :=
  if 0 ≤ e then compare (digits * tenPow e.toNat * den) num
  else compare (digits * den) (num * tenPow (-e).toNat)

/-- The decimal exponent of a positive fraction: the `k` with `10 ^ k ≤ num / den < 10 ^ (k + 1)`. -/
def decimalExponent (num den : Nat) : Int :=
  let guess : Int := ((num.log2 : Int) - (den.log2 : Int)) * 30103 / 100000
  let fits (k : Int) : Bool := compareDecimal 1 k num den != .gt
  if fits (guess + 1) then guess + 1
  else if fits guess then guess
  else if fits (guess - 1) then guess - 1
  else guess - 2

/-- The nearest decimal with the grid `10 ^ e` inside the interval, if there is one. -/
def onGrid (mantissa : Nat) (exponent : Int) (e : Int) : Option DecimalForm :=
  let (low, value, high, den) := roundingInterval mantissa exponent
  let closed := mantissa % 2 = 0
  let inside (d : Nat) : Bool :=
    let toLow := compareDecimal d e low den
    let toHigh := compareDecimal d e high den
    (toLow == .gt || (closed && toLow == .eq)) && (toHigh == .lt || (closed && toHigh == .eq))
  let floor := if 0 ≤ e then value / (den * tenPow e.toNat) else value * tenPow (-e).toNat / den
  let twiceMiddle := compareDecimal (2 * floor + 1) e (2 * value) den
  let below := decide (floor ≠ 0) && inside floor
  let above := inside (floor + 1)
  if below && above then
    if twiceMiddle == .lt || (twiceMiddle == .eq && floor % 2 == 1) then some ⟨floor + 1, e⟩
    else some ⟨floor, e⟩
  else if below then some ⟨floor, e⟩
  else if above then some ⟨floor + 1, e⟩
  else none

def searchGrids (mantissa : Nat) (exponent top : Int) : Nat → Nat → DecimalForm
  | 0, _ => ⟨0, 0⟩
  | fuel + 1, count =>
    match onGrid mantissa exponent (top - count + 1) with
    | some form => form
    | none => searchGrids mantissa exponent top fuel (count + 1)

def shortest (mantissa : Nat) (exponent : Int) : DecimalForm :=
  let (num, den) := fraction mantissa exponent
  searchGrids mantissa exponent (decimalExponent num den) 18 1

def stripZeros : Nat → DecimalForm → DecimalForm
  | 0, form => form
  | fuel + 1, form =>
    if form.digits ≠ 0 ∧ form.digits % 10 = 0 then
      stripZeros fuel ⟨form.digits / 10, form.exponent + 1⟩
    else form

def digitsOf (n : Nat) : List Char := Nat.toDigits 10 n

def positionalFrom : Int := -5

def positionalTo : Int := 16

/-- The written form of a decimal: positional if the leading digit stands at one of the places
from `positionalFrom` up to below `positionalTo`, else with a signed exponent. -/
def DecimalForm.render (form : DecimalForm) : List Char :=
  let digits := digitsOf form.digits
  let lead : Int := form.exponent + digits.length - 1
  if positionalFrom ≤ lead ∧ lead < positionalTo then
    if 0 ≤ form.exponent then digits ++ List.replicate form.exponent.toNat '0' ++ ['.', '0']
    else if 0 ≤ lead then
      digits.take (lead.toNat + 1) ++ ['.'] ++ digits.drop (lead.toNat + 1)
    else ['0', '.'] ++ List.replicate (-lead - 1).toNat '0' ++ digits
  else
    let mark := if lead < 0 then ['e', '-'] else ['e', '+']
    let power := mark ++ digitsOf lead.natAbs
    match digits with
    | [] => power
    | [d] => d :: power
    | d :: rest => d :: '.' :: rest ++ power

def render (x : Binary64) : List Char :=
  let body :=
    if x.isZero then ['0', '.', '0']
    else (stripZeros 20 (shortest x.mantissa x.exponent)).render
  if x.negative then '-' :: body else body

example : (ofDecimal 5 (-324)).map (String.ofList ∘ render) = some "5e-324" := by decide +kernel
example : (ofDecimal 1 (-5)).map (String.ofList ∘ render) = some "0.00001" := by decide +kernel
example : (ofDecimal 12345678901234567890 12).map (String.ofList ∘ render) =
    some "1.2345678901234567e+31" := by decide +kernel
example : (ofDecimal 17976931348623157 292).map (String.ofList ∘ render) =
    some "1.7976931348623157e+308" := by decide +kernel

end EntitySearch.Binary64
