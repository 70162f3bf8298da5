import ScriptHost.Decimal.Shortest

/-!
# Whole numbers and rounding

A finite binary64 is cut to a whole number by shifting its significand, and rounded to a number of
decimal digits by dividing exactly.  Of two decimals at the same distance the even one is taken.
-/

namespace ScriptHost.Decimal

/-- The magnitude of a finite binary64, cut to a whole number. -/
def wholeMagnitude (bits : UInt64) : Nat :=
  let (m, shift) := parts bits
  if 1074 ≤ shift then m <<< (shift - 1074) else m >>> (1074 - shift)

/-- Whether a finite binary64 has nothing after the point. -/
def isWhole (bits : UInt64) : Bool :=
  let (m, shift) := parts bits
  1074 ≤ shift || (m >>> (1074 - shift)) <<< (1074 - shift) = m

/-- The whole number nearest to a quotient; of two the even one. -/
def roundDiv (num den : Nat) : Nat :=
  let floor := num / den
  let rest := num % den
  if 2 * rest < den || (2 * rest = den && floor % 2 = 0) then floor else floor + 1

/-- The decimal with so many digits that is nearest to a finite binary64 other than zero, without its
sign. -/
def nearest (count : Nat) (bits : UInt64) : Scaled :=
  let i := Interval.ofBits bits
  let top := magnitude i.value i.den
  let onGrid (exponent : Int) : Scaled :=
    let (num, den) := inUnits i.value i.den exponent
    ⟨roundDiv num den, exponent⟩
  let coarse := onGrid (top - count)
  (if digitCount coarse.digits < count then onGrid (top - count - 1) else coarse).trim

end ScriptHost.Decimal
