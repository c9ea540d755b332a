/-
This file holds binary floating-point numbers as exact values: a sign, a significand
and a power of two. Rounding a quotient to the nearest number and printing the fewest
digits that read back are then arithmetic of natural numbers, and nothing in them
depends on a machine.
-/

namespace Declarations.Json

/-- The number `significand * 2 ^ exponent`, negated when `negative`. A number is stored with
its least exponent, at least `-1074`, at which the significand has at most 53 bits. -/
structure Binary64 where
  negative : Bool
  significand : Nat
  exponent : Int
deriving DecidableEq, Repr, Inhabited

namespace Binary64

/-- The least exponent of a number. -/
def leastExponent : Int := -1074

/-- The greatest exponent of a number. -/
def greatestExponent : Int := 971

/-- The least significand of a number with a greater exponent than the least one. -/
def leastSignificand : Nat := Nat.pow 2 52

/-- The numerator and denominator of `numerator / denominator * base ^ exponent`. -/
def scaled (base numerator denominator : Nat) (exponent : Int) : Nat × Nat :=
  if exponent ≥ 0 then (numerator * base.pow exponent.toNat, denominator)
  else (numerator, denominator * base.pow (-exponent).toNat)

/-- The natural number nearest to a quotient; a tie goes to the even one. -/
def roundQuotient (numerator denominator : Nat) : Nat :=
  let floor := numerator / denominator
  let rest := 2 * (numerator % denominator)
  if rest > denominator || (rest == denominator && floor % 2 == 1) then floor + 1 else floor

/-- The number nearest to a quotient; none when it is too great for any. -/
def nearest? (negative : Bool) (numerator denominator : Nat) : Option Binary64 :=
  if numerator = 0 then some ⟨negative, 0, leastExponent⟩
  else
    let estimate : Int := (Nat.log2 numerator : Int) - Nat.log2 denominator
    let (above, below) := scaled 2 numerator denominator (-estimate)
    let bits := if above ≥ below then estimate else estimate - 1
    let exponent := max (bits - 52) leastExponent
    let (above, below) := scaled 2 numerator denominator (-exponent)
    let rounded := roundQuotient above below
    let (significand, exponent) :=
      if rounded = 2 * leastSignificand then (leastSignificand, exponent + 1)
      else (rounded, exponent)
    if exponent > greatestExponent then none else some ⟨negative, significand, exponent⟩

/-- The number nearest to a natural number. -/
def ofNat? (value : Nat) : Option Binary64 :=
  nearest? false value 1

/-- The absolute value as a quotient. -/
def quotient (number : Binary64) : Nat × Nat :=
  scaled 2 number.significand 1 number.exponent

/-- The product, rounded. -/
def mul? (left right : Binary64) : Option Binary64 :=
  let (leftAbove, leftBelow) := left.quotient
  let (rightAbove, rightBelow) := right.quotient
  nearest? (left.negative != right.negative) (leftAbove * rightAbove) (leftBelow * rightBelow)

/-- The quotient by a number other than zero, rounded. -/
def div? (left right : Binary64) : Option Binary64 :=
  let (leftAbove, leftBelow) := left.quotient
  let (rightAbove, rightBelow) := right.quotient
  nearest? (left.negative != right.negative) (leftAbove * rightBelow) (leftBelow * rightAbove)

/-! ### The fewest digits that read back -/

/-- Whether `digits * 10 ^ power` rounds to the number: it lies between the midpoints to the
neighbours, and on one of them only when the significand is even. -/
def readsBack (number : Binary64) (digits : Nat) (power : Int) : Bool :=
  let atPower := number.significand = leastSignificand ∧ number.exponent > leastExponent
  let (above, below) := scaled 10 digits 1 power
  let (lowAbove, lowBelow) :=
    scaled 2 (4 * number.significand - if atPower then 1 else 2) 1 (number.exponent - 2)
  let (highAbove, highBelow) := scaled 2 (4 * number.significand + 2) 1 (number.exponent - 2)
  if number.significand % 2 == 0 then
    lowAbove * below ≤ above * lowBelow && above * highBelow ≤ highAbove * below
  else
    lowAbove * below < above * lowBelow && above * highBelow < highAbove * below

/-- The point of the grid of multiples of `10 ^ power` that reads back and is nearest. -/
def onGrid? (number : Binary64) (power : Int) : Option Nat :=
  let (above, below) := number.quotient
  let (above, below) := scaled 10 above below (-power)
  let lower := above / below
  let rest := 2 * (above % below)
  let lowerFirst := rest < below || (rest == below && lower % 2 == 0)
  let candidates := if lowerFirst then [lower, lower + 1] else [lower + 1, lower]
  candidates.find? fun digits => number.readsBack digits power

/-- Removes the zeros at the end of a decimal, raising its power. -/
def withoutEndingZeros : Nat → Nat → Int → Nat × Int
  | 0, digits, power => (digits, power)
  | fuel + 1, digits, power =>
    if digits ≠ 0 ∧ digits % 10 = 0 then withoutEndingZeros fuel (digits / 10) (power + 1)
    else (digits, power)

/-- How many decimal digits the whole part has; not positive below one tenth. -/
def decimalPlace (number : Binary64) : Int :=
  let (above, below) := number.quotient
  if above ≥ below then ((toString (above / below)).length : Int)
  else 1 - ((toString ((below - 1) / above)).length : Int)

/-- The shortest decimal `digits * 10 ^ power` that reads back, the nearest one of those. -/
def shortest (number : Binary64) : Nat × Int :=
  let place := number.decimalPlace
  let found := (List.range 17).findSome? fun count =>
    let power := place - (count + 1 : Nat)
    (number.onGrid? power).map fun digits => (digits, power)
  match found with
  | some (digits, power) => withoutEndingZeros 20 digits power
  | none => (number.significand, number.exponent)

end Binary64

end Declarations.Json
