import AccessReport.Numeric.Digits
/-!
# Binary floating point numbers of 64 bits

Finite values only: no input can name an infinity or a value that is not a number. A value is a
sign, a significand below `2 ^ 53` and an exponent of two. The form is canonical: the significand
is at least `2 ^ 52` unless the exponent is the least one.

**Reading.** A decimal number is converted in two steps, each rounding to the nearest value, ties
to the even significand: the significand, then the scaling by a power of ten.

**Shortest digits.** Of the decimal grids `10 ^ k`, the coarsest one that has a point in the
interval of reals that round to the value gives the fewest digits; of its points there, the one
nearest to the value is taken.
-/
namespace AccessReport.Numeric

/-- A finite binary value, `significand * 2 ^ exponent` with a sign. -/
structure Binary64 where
  negative : Bool
  significand : Nat
  exponent : Int
deriving DecidableEq, Repr

namespace Binary64

/-- The exponent of the least positive value. -/
def leastExponent : Int := -1074

/-- The exponent of the greatest values. -/
def greatestExponent : Int := 971

def zero : Binary64 := ⟨false, 0, leastExponent⟩

def isZero (x : Binary64) : Bool := x.significand == 0

def neg (x : Binary64) : Binary64 := { x with negative := !x.negative }

/-- The magnitude as a fraction: numerator and denominator. -/
def numerator (x : Binary64) : Nat := x.significand * twoTo x.exponent.toNat

def denominator (x : Binary64) : Nat := twoTo (-x.exponent).toNat

/-! ## Rounding a fraction -/

/-- Quotient, remainder and divisor of `num / den` on the grid `2 ^ exponent`. -/
def onGrid (num den : Nat) (exponent : Int) : Nat × Nat × Nat :=
  let num := num * twoTo (-exponent).toNat
  let den := den * twoTo exponent.toNat
  (num / den, num % den, den)

/-- The finest exponent that leaves a significand below `2 ^ 53`. -/
def gridExponent (num den : Nat) : Int :=
  let fine := (num.log2 : Int) - den.log2 - 53
  let fitted := if (onGrid num den fine).1 < twoTo 53 then fine else fine + 1
  max leastExponent fitted

/-- The value nearest to the fraction, of two equally near ones the one with the even
significand; `none` beyond the greatest value. -/
def nearest (num den : Nat) : Option Binary64 :=
  if num = 0 then some zero
  else
    let exponent := gridExponent num den
    let (quotient, remainder, divisor) := onGrid num den exponent
    let up := divisor < 2 * remainder || (2 * remainder == divisor && quotient % 2 == 1)
    let rounded := if up then quotient + 1 else quotient
    let (significand, exponent) :=
      if rounded = twoTo 53 then (twoTo 52, exponent + 1) else (rounded, exponent)
    if exponent ≤ greatestExponent then some ⟨false, significand, exponent⟩ else none

/-- The product of two magnitudes. -/
def mul? (x y : Binary64) : Option Binary64 :=
  nearest (x.numerator * y.numerator) (x.denominator * y.denominator)

/-- The quotient of two magnitudes; the divisor is not zero. -/
def div? (x y : Binary64) : Option Binary64 :=
  nearest (x.numerator * y.denominator) (x.denominator * y.numerator)

/-! ## Reading a decimal number -/

/-- The greatest power of ten that is a value. -/
def greatestTen : Nat := 308

/-- The magnitude scaled by a power of ten: one multiplication or division, after divisions by
the greatest power where the exponent is below all powers. -/
def scale (x : Binary64) (exponent : Int) : Option Binary64 :=
  if x.isZero then some x
  else if _h : exponent < -(greatestTen : Int) then do
    let ten ← nearest (tenTo greatestTen) 1
    scale (← x.div? ten) (exponent + greatestTen)
  else if exponent < 0 then do x.div? (← nearest (tenTo (-exponent).toNat) 1)
  else if exponent ≤ greatestTen then do x.mul? (← nearest (tenTo exponent.toNat) 1)
  else none
termination_by (-exponent).toNat
decreasing_by
  simp only [greatestTen] at _h ⊢
  omega

/-- The value of `significand * 10 ^ exponent`; `none` beyond the greatest value. -/
def ofDecimal (significand : Nat) (exponent : Int) : Option Binary64 := do
  (← nearest significand 1).scale exponent

/-! ## Shortest digits -/

/-- The reals that round to a value, as numerators over one denominator: the value, the two ends,
and whether the ends belong to it. -/
structure Interval where
  value : Nat
  low : Nat
  high : Nat
  denominator : Nat
  closed : Bool

/-- Below a power of two the neighbour is only half as far away. -/
def interval (x : Binary64) : Interval :=
  let unit := twoTo x.exponent.toNat
  let below := if x.significand = twoTo 52 ∧ leastExponent < x.exponent then 1 else 2
  { value := 4 * x.significand * unit
    low := (4 * x.significand - below) * unit
    high := (4 * x.significand + 2) * unit
    denominator := 4 * x.denominator
    closed := x.significand % 2 == 0 }

/-- Whether the fraction with the interval's denominator lies in the interval. -/
def Interval.holds (i : Interval) (num : Nat) : Bool :=
  if i.closed then i.low ≤ num && num ≤ i.high else i.low < num && num < i.high

/-- The same interval in units that are smaller by a factor. -/
def Interval.magnified (i : Interval) (factor : Nat) : Interval :=
  { i with value := i.value * factor, low := i.low * factor, high := i.high * factor }

/-- Whether a value is nearer to the multiple of the unit below it than to the one above. Halfway
the even multiple counts as the nearer one. -/
def nearerBelow (value unit : Nat) : Bool :=
  2 * (value % unit) < unit || (2 * (value % unit) == unit && value / unit % 2 == 0)

/-- The multiple of the unit in the interval that is nearest to the value. -/
def Interval.multipleOf (i : Interval) (unit : Nat) : Option Nat :=
  let below := i.value / unit
  match below != 0 && i.holds (below * unit), i.holds ((below + 1) * unit) with
  | true, true => some (if nearerBelow i.value unit then below else below + 1)
  | true, false => some below
  | false, true => some (below + 1)
  | false, false => none

/-- The point of the grid `10 ^ power` in the interval that is nearest to the value. -/
def Interval.pointOn (i : Interval) (power : Int) : Option Nat :=
  (i.magnified (tenTo (-power).toNat)).multipleOf (i.denominator * tenTo power.toNat)

/-- Digits and power of ten of the shortest decimal number that rounds to the magnitude. -/
def shortest (x : Binary64) : Nat × Int :=
  let i := x.interval
  let top : Int := (digits (i.value / i.denominator)).length
  let found := (List.range 400).findSome? fun (step : Nat) =>
    (i.pointOn (top - step)).map fun point => (point, top - step)
  found.getD (x.significand, x.exponent)

/-! ## Writing -/

/-- Values with a decimal exponent from `-5` to `15` are written with a point, always with a
fractional part; the others with an exponent that carries its sign. -/
def text (x : Binary64) : List Char :=
  let sign := if x.negative then ['-'] else []
  if x.isZero then sign ++ ['0', '.', '0']
  else
    let (point, power) := x.shortest
    let ds := digits point
    let exponent := power + ds.length - 1
    sign ++
      if exponent < -5 ∨ 16 ≤ exponent then
        let mantissa := if ds.length = 1 then ds else ds.take 1 ++ ['.'] ++ ds.drop 1
        mantissa ++ ['e'] ++ (if exponent < 0 then ['-'] else ['+']) ++ digits exponent.natAbs
      else if exponent < 0 then
        ['0', '.'] ++ List.replicate (-exponent - 1).toNat '0' ++ ds
      else
        let whole := (exponent + 1).toNat
        if ds.length ≤ whole then ds ++ List.replicate (whole - ds.length) '0' ++ ['.', '0']
        else ds.take whole ++ ['.'] ++ ds.drop whole

end Binary64
end AccessReport.Numeric
