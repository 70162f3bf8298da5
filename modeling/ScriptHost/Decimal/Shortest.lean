/-!
# Shortest decimals

A finite binary64 is `m · 2 ^ q`.  The reals that round to it form an interval around it, which
contains its ends exactly when `m` is even.  The shortest decimal is the one with the fewest digits
in that interval and, of those, the one nearest to the number.  It is found on the decimal grids
from coarse to fine: on each grid only the two neighbours of the number can lie in the interval
first.
-/

namespace ScriptHost.Decimal

/-- A positive rational number with its rounding interval.  All three numerators share the
denominator. -/
structure Interval where
  low : Nat
  value : Nat
  high : Nat
  den : Nat
  /-- Whether the ends belong to the interval. -/
  closed : Bool

/-- The exponent bits of a binary64. -/
def exponentBits (bits : UInt64) : Nat := (bits.toNat >>> 52) % 2048

/-- The weight of the leading bit of a binary64, 2 ^ 52, which is not written. -/
def leadingBit : Nat := 4503599627370496

/-- The fraction bits of a binary64. -/
def fractionBits (bits : UInt64) : Nat := bits.toNat % leadingBit

/-- Whether the sign bit is set. -/
def isNegative (bits : UInt64) : Bool := 9223372036854775808 ≤ bits.toNat

/-- Whether a binary64 is neither an infinity nor a NaN. -/
def isFinite (bits : UInt64) : Bool := exponentBits bits ≠ 2047

/-- Whether a binary64 is one of the two zeros. -/
def isZero (bits : UInt64) : Bool := exponentBits bits = 0 && fractionBits bits = 0

/-- The magnitude of a finite binary64, as `m` and `q + 1074` of `m · 2 ^ q`. -/
def parts (bits : UInt64) : Nat × Nat :=
  match exponentBits bits with
  | 0 => (fractionBits bits, 0)
  | e + 1 => (leadingBit + fractionBits bits, e)

/-- The rounding interval of a finite binary64 other than zero.  Below a power of two the
neighbour is only half as far away. -/
def Interval.ofBits (bits : UInt64) : Interval :=
  let (m, shift) := parts bits
  let below := if m = leadingBit ∧ 0 < shift then 1 else 2
  let up := Nat.pow 2 (shift - 1076)
  let down := Nat.pow 2 (1076 - shift)
  ⟨(4 * m - below) * up, 4 * m * up, (4 * m + 2) * up, down, m % 2 = 0⟩

/-- A decimal `digits · 10 ^ exponent`. -/
structure Scaled where
  digits : Nat
  exponent : Int
  deriving DecidableEq, Repr

/-- Scale a numerator and a denominator so that their quotient counts units of `10 ^ exponent`. -/
def inUnits (num den : Nat) (exponent : Int) : Nat × Nat :=
  if exponent < 0 then (num * Nat.pow 10 (-exponent).toNat, den)
  else (num, den * Nat.pow 10 exponent.toNat)

namespace Interval

/-- Whether `digits · 10 ^ exponent` lies in the interval. -/
def contains (i : Interval) (d : Scaled) : Bool :=
  let (low, den) := inUnits i.low i.den d.exponent
  let high := (inUnits i.high i.den d.exponent).1
  let at_ := d.digits * den
  if i.closed then low ≤ at_ && at_ ≤ high else low < at_ && at_ < high

/-- The better of the two neighbours of the number on a grid, if one of them is in the interval.
Of two at the same distance the even one is better. -/
def onGrid (i : Interval) (exponent : Int) : Option Scaled :=
  let (num, den) := inUnits i.value i.den exponent
  let floor : Scaled := ⟨num / den, exponent⟩
  let ceiling : Scaled := ⟨num / den + 1, exponent⟩
  let rest := num % den
  let lowFirst := 2 * rest < den || (2 * rest = den && floor.digits % 2 = 0)
  match i.contains floor, i.contains ceiling with
  | true, true => some (if lowFirst then floor else ceiling)
  | true, false => some floor
  | false, true => some ceiling
  | false, false => none

end Interval

/-- The number of decimal digits of a natural number; zero has none. -/
def digitCount (n : Nat) : Nat := if n = 0 then 0 else (Nat.toDigits 10 n).length

/-- An exponent `e` for which a positive number is less than `10 ^ e` and not much less: at most one
digit is lost on a grid counted from it. -/
def magnitude (num den : Nat) : Int :=
  if den ≤ num then digitCount (num / den) else 1 - (digitCount (den / num) : Int)

/-- Drop trailing zeros of the digits. -/
def Scaled.trim (d : Scaled) : Scaled :=
  if _h : d.digits = 0 ∨ d.digits % 10 ≠ 0 then d else trim ⟨d.digits / 10, d.exponent + 1⟩
termination_by d.digits
decreasing_by
  simp only [not_or, Decidable.not_not] at _h
  show d.digits / 10 < d.digits
  omega

/-- The shortest decimal of a finite binary64 other than zero, without its sign. -/
def shortest (bits : UInt64) : Scaled :=
  let i := Interval.ofBits bits
  let top := magnitude i.value i.den
  let found := (List.range 18).findSome? fun (k : Nat) => i.onGrid (top - (k + 1 : Nat))
  (found.getD ⟨0, 0⟩).trim

end ScriptHost.Decimal
