import AccessReport.Json.Document
import AccessReport.Numeric.Digits
/-!
# TOML scalars

The values of TOML that are a row of characters without quotes: truth values, numbers, dates and
times. Digits of numbers may have single underscores between them.

Configurations hold no numbers and no times, so of these only the limits matter: whole numbers
have 64 bits with a sign, and a positive floating point number has to be finite. A date or time
stands for a record with one member that no record knows.

Results:
* `ofWord?_true`, `ofWord?_false`: the truth values.
-/
namespace AccessReport.Toml

open Numeric

/-! ## Digits -/

/-- The digits of a row of digits with single underscores between them. -/
def groupedDigits? (isDigit : Char → Bool) : List Char → Option (List Char)
  | [] => none
  | [c] => if isDigit c then some [c] else none
  | c :: '_' :: rest =>
    if isDigit c then (groupedDigits? isDigit rest).map (c :: ·) else none
  | c :: rest => if isDigit c then (groupedDigits? isDigit rest).map (c :: ·) else none

/-- Sign and rest of a number. -/
def splitSign : List Char → Bool × List Char
  | '-' :: rest => (true, rest)
  | '+' :: rest => (false, rest)
  | cs => (false, cs)

/-- Decimal digits, grouped, without leading zeros. -/
def decimalDigits? (cs : List Char) : Option (List Char) :=
  match cs with
  | '0' :: _ :: _ => none
  | cs => groupedDigits? Char.isDigit cs

/-! ## Whole numbers -/

/-- Whether a whole number fits into 64 bits with a sign. -/
def holdsInteger (n : Int) : Bool := -0x8000000000000000 ≤ n && n < 0x8000000000000000

/-- A whole number in another base, behind the mark of the base. -/
def based? (base : Nat) (cs : List Char) : Option Int := do
  let digits ← groupedDigits? (fun c => (hexValue? c).any (· < base)) cs
  pure (valueIn base (digits.filterMap hexValue?))

def integer? (cs : List Char) : Option Int :=
  match cs with
  | '0' :: 'x' :: rest => based? 16 rest
  | '0' :: 'o' :: rest => based? 8 rest
  | '0' :: 'b' :: rest => based? 2 rest
  | cs => do
    let (negative, cs) := splitSign cs
    let digits ← decimalDigits? cs
    let magnitude : Int := valueOf digits
    pure (if negative then -magnitude else magnitude)

/-! ## Floating point numbers -/

/-- The least number that rounds beyond the greatest floating point value. -/
def overflowBound : Nat := twoTo 1024 - twoTo 970

/-- Whether `significand * 10 ^ exponent` rounds beyond the greatest floating point value. -/
def overflows (significand : List Char) (exponent : Int) : Bool :=
  let significand := significand.dropWhile (· == '0')
  let places := significand.length + exponent
  if significand.isEmpty || places < 309 then false
  else if 309 < places then true
  else
    let value := valueOf significand
    overflowBound * tenTo (-exponent).toNat ≤ value * tenTo exponent.toNat

/-- The value of an exponent behind its mark. -/
def exponent? (cs : List Char) : Option Int := do
  let (negative, cs) := splitSign cs
  let digits ← groupedDigits? Char.isDigit cs
  let magnitude : Int := valueOf digits
  pure (if negative then -magnitude else magnitude)

def isExponentMark (c : Char) : Bool := c == 'e' || c == 'E'

/-- Whether the characters are a floating point number: digits, and a fraction or an exponent or
both. -/
def isFloat (cs : List Char) : Bool :=
  let (negative, cs) := splitSign cs
  if cs = "inf".toList || cs = "nan".toList then true
  else
    let whole := cs.takeWhile fun c => c != '.' && !isExponentMark c
    let tail := cs.drop whole.length
    let fraction := match tail with
      | '.' :: rest => some (rest.takeWhile fun c => !isExponentMark c)
      | _ => none
    let mark := tail.drop ((fraction.map (·.length + 1)).getD 0)
    let written := match mark with
      | _ :: rest => (exponent? rest).map some
      | [] => some none
    let fractionDigits := match fraction with
      | some cs => groupedDigits? Char.isDigit cs
      | none => some []
    match decimalDigits? whole, fractionDigits, written with
    | some digits, some fractionDigits, some written =>
      let exponent : Int := written.getD 0 - fractionDigits.length
      (fraction.isSome || written.isSome)
        && (negative || !overflows (digits ++ fractionDigits) exponent)
    | _, _, _ => false

/-! ## Dates and times -/

/-- A number of two digits, at most the limit, at the front. -/
def twoDigits? (limit : Nat) : List Char → Option (Nat × List Char)
  | a :: b :: rest =>
    let value := valueOf [a, b]
    if a.isDigit && b.isDigit && value ≤ limit then some (value, rest) else none
  | _ => none

def daysInMonth (year month : Nat) : Nat :=
  let leap := year % 4 == 0 && (year % 100 != 0 || year % 400 == 0)
  match month with
  | 2 => if leap then 29 else 28
  | 4 | 6 | 9 | 11 => 30
  | _ => 31

/-- A date at the front; what follows is given back. -/
def afterDate? : List Char → Option (List Char)
  | a :: b :: c :: d :: '-' :: rest => do
    if [a, b, c, d].all Char.isDigit then
      match ← twoDigits? 12 rest with
      | (0, _) => none
      | (month, '-' :: rest) =>
        let (day, rest) ← twoDigits? (daysInMonth (valueOf [a, b, c, d]) month) rest
        if day = 0 then none else some rest
      | _ => none
    else none
  | _ => none

/-- A time of day at the front, with seconds and perhaps a fraction of them. -/
def afterTime? (cs : List Char) : Option (List Char) := do
  match ← twoDigits? 23 cs with
  | (_, ':' :: rest) =>
    match ← twoDigits? 59 rest with
    | (_, ':' :: rest) =>
      let (_, rest) ← twoDigits? 60 rest
      match rest with
      | '.' :: c :: rest => if c.isDigit then some (rest.dropWhile Char.isDigit) else none
      | '.' :: [] => none
      | rest => some rest
    | _ => none
  | _ => none

/-- An offset from UTC, or nothing, as the whole rest. -/
def isOffset : List Char → Bool
  | [] => true
  | ['Z'] | ['z'] => true
  | sign :: rest =>
    (sign == '+' || sign == '-') &&
      match twoDigits? 23 rest with
      | some (_, ':' :: rest) => (twoDigits? 59 rest).any (·.2.isEmpty)
      | _ => false

/-- Whether the characters are a time of day, or a date, or both with perhaps an offset. -/
def isDateTime (cs : List Char) : Bool :=
  match afterDate? cs with
  | some [] => true
  | some (mark :: rest) =>
    (mark == 'T' || mark == 't' || mark == ' ') && (afterTime? rest).any isOffset
  | none => (afterTime? cs).any (·.isEmpty)

/-- Whether the characters are a date, which a time may follow behind a blank. -/
def isDate (cs : List Char) : Bool := afterDate? cs == some []

/-- A date or time as a document. -/
def dateTimeDocument (cs : List Char) : Document :=
  .object [("date-time", .string (String.ofList cs))]

/-! ## Words -/

/-- The document of a row of characters without quotes. -/
def ofWord? (cs : List Char) : Option Document :=
  if cs = "true".toList then some (.bool true)
  else if cs = "false".toList then some (.bool false)
  else if isDateTime cs then some (dateTimeDocument cs)
  else if isFloat cs then some .unusable
  else match integer? cs with
    | some n => if holdsInteger n then some (.number (.integer n)) else none
    | none => none

theorem ofWord?_true : ofWord? "true".toList = some (.bool true) := by rfl

theorem ofWord?_false : ofWord? "false".toList = some (.bool false) := by rfl

end AccessReport.Toml
