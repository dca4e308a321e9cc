/-!
# Shortest decimals of binary numbers

A number written in decimal is rounded to the nearest number with a binary mantissa of 53 bits, a
tie going to the even mantissa.  Such a number is written back with the fewest decimal digits that
are rounded to it again and, of those, the nearest, a tie going to the larger.
-/

namespace BundleMarkup

/-- A positive fraction. -/
structure Fraction where
  num : Nat
  den : Nat
  deriving DecidableEq, Repr

namespace Fraction

/-- A whole number times a power of a base. -/
def scaled (value base : Nat) (power : Int) : Fraction :=
  match power with
  | .ofNat power => ⟨value * base.pow power, 1⟩
  | .negSucc power => ⟨value, base.pow (power + 1)⟩

/-- A fraction times a power of a base. -/
def times (fraction : Fraction) (base : Nat) (power : Int) : Fraction :=
  let factor := scaled 1 base power
  ⟨fraction.num * factor.num, fraction.den * factor.den⟩

/-- Whether a fraction is at most another. -/
def le (left right : Fraction) : Bool := left.num * right.den ≤ right.num * left.den

/-- Whether a fraction is smaller than another. -/
def lt (left right : Fraction) : Bool := left.num * right.den < right.num * left.den

/-- The nearest whole number, the even one of two that are equally near. -/
def round (fraction : Fraction) : Nat :=
  let below := fraction.num / fraction.den
  let rest := 2 * (fraction.num % fraction.den)
  if rest < fraction.den then below
  else if rest = fraction.den then below + below % 2
  else below + 1

end Fraction

/-- A whole number of at most 53 bits times a power of two. -/
structure BinaryNumber where
  mantissa : Nat
  /-- The power of two. -/
  power : Int
  deriving DecidableEq, Repr

namespace BinaryNumber

/-- The smallest mantissa of a number that uses all bits. -/
def fullMantissa : Nat := 0x10000000000000

/-- The smallest power of two. -/
def minPower : Int := -1074

/-- The largest power of two. -/
def maxPower : Int := 971

/-- The power at which a fraction has a mantissa of 53 bits, or the smallest power. -/
def powerOf (fraction : Fraction) : Int :=
  let guess : Int := fraction.num.log2 - fraction.den.log2 - 52
  let full := Fraction.times ⟨fullMantissa, 1⟩ 2 guess
  max minPower (if full.le fraction then guess else guess - 1)

/-- The nearest number to a positive fraction, unless it is too large. -/
def nearest? (fraction : Fraction) : Option BinaryNumber :=
  let power := powerOf fraction
  let mantissa := (fraction.times 2 (-power)).round
  let number : BinaryNumber :=
    if mantissa = 2 * fullMantissa then ⟨fullMantissa, power + 1⟩ else ⟨mantissa, power⟩
  if number.power ≤ maxPower then some number else none

/-- The nearest number to a whole number times a power of ten, unless it is too large. -/
def ofDecimal? (digits : Nat) (power : Int) : Option BinaryNumber :=
  let size : Int := (Nat.toDigits 10 digits).length + power
  if digits = 0 ∨ size < -330 then some ⟨0, minPower⟩
  else if 310 < size then none
  else nearest? (.scaled digits 10 power)

/-- A number as a fraction. -/
def toFraction (number : BinaryNumber) : Fraction := .scaled number.mantissa 2 number.power

/-- Whether a fraction is rounded to a number. -/
def roundsTo (number : BinaryNumber) (fraction : Fraction) : Bool :=
  let gapBelow := if number.mantissa = fullMantissa ∧ minPower < number.power then 1 else 2
  let low := Fraction.scaled (4 * number.mantissa - gapBelow) 2 (number.power - 2)
  let high := Fraction.scaled (4 * number.mantissa + 2) 2 (number.power - 2)
  if number.mantissa % 2 = 0 then low.le fraction && fraction.le high
  else low.lt fraction && fraction.lt high

/-- The whole multiple of a power of ten nearest to a number among those rounded to it, the larger
of two that are equally near. -/
def onGrid? (number : BinaryNumber) (power : Int) : Option Nat :=
  let exact := number.toFraction.times 10 (-power)
  let below := exact.num / exact.den
  let fits (candidate : Nat) : Bool := number.roundsTo (.scaled candidate 10 power)
  match fits below, fits (below + 1) with
  | true, true => if 2 * (exact.num % exact.den) < exact.den then some below else some (below + 1)
  | true, false => some below
  | false, true => some (below + 1)
  | false, false => none

/-- Search the grids of powers of ten, coarsest first, for a number. -/
def searchGrids (number : BinaryNumber) (power : Int) : Nat → Nat × Int
  | 0 => (0, 0)
  | rest + 1 =>
      match onGrid? number power with
      | some value => if value = 0 then searchGrids number (power - 1) rest else (value, power)
      | none => searchGrids number (power - 1) rest

/-- The shortest decimal of a number: a whole number and a power of ten. -/
def shortest (number : BinaryNumber) : Nat × Int :=
  let size : Int := (number.toFraction.num / number.toFraction.den).log2
  searchGrids number (size / 3 + 1) 1500

end BinaryNumber

namespace Decimal

/-- A whole number times a power of ten, written without an exponent. -/
def positional (value : Nat) (power : Int) : String :=
  let digits := Nat.toDigits 10 value
  match power with
  | .ofNat zeros => String.ofList (digits ++ List.replicate zeros '0')
  | .negSucc places =>
      let padded := List.replicate (places + 2 - digits.length) '0' ++ digits
      let whole := padded.take (padded.length - (places + 1))
      String.ofList (whole ++ '.' :: padded.drop whole.length)

end Decimal

/-- A number as printed: its shortest decimal, without an exponent and with at least one place. -/
def BinaryNumber.render (number : BinaryNumber) : String :=
  if number.mantissa = 0 then "0.0"
  else
    let (value, power) := number.shortest
    if 0 ≤ power then Decimal.positional value power ++ ".0"
    else Decimal.positional value power

end BundleMarkup
