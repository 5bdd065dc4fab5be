import AccessReport.Unified.Results
/-!
# Random uids

Uids made from 128 bits, in the usual form with the marks of version 4, and a supply of them from
two random seeds.
-/
namespace AccessReport.Uid

/-- The last digits of a number, in small hexadecimal digits. -/
def hexDigits (number : UInt64) : Nat → List Char
  | 0 => []
  | digits + 1 => hexDigits (number >>> 4) digits ++ [Json.hexDigit (number &&& 15).toNat]

/-- The uid of 128 bits, of which six are replaced by the marks of the version. -/
def ofBits (high low : UInt64) : String :=
  let high := (high &&& 0xFFFFFFFFFFFF0FFF) ||| 0x4000
  let low := (low &&& 0x3FFFFFFFFFFFFFFF) ||| 0x8000000000000000
  String.ofList (hexDigits (high >>> 32) 8 ++ ['-'] ++ hexDigits (high >>> 16) 4 ++ ['-']
    ++ hexDigits high 4 ++ ['-'] ++ hexDigits (low >>> 48) 4 ++ ['-'] ++ hexDigits low 12)

/-- Spreads the bits of a number evenly. -/
def mix (number : UInt64) : UInt64 :=
  let number := (number ^^^ (number >>> 30)) * 0xBF58476D1CE4E5B9
  let number := (number ^^^ (number >>> 27)) * 0x94D049BB133111EB
  number ^^^ (number >>> 31)

/-- The uids of two seeds. -/
def supply (first second : UInt64) : UidSupply := fun n =>
  let step := n.toUInt64 * 0x9E3779B97F4A7C15
  ofBits (mix (first + step)) (mix (second + step))

end AccessReport.Uid
