import ScriptHost.Data.Value
import ScriptHost.Decimal.Whole
import ScriptHost.Fault.Host

/-!
# Delays given as binary64 numbers

Guest code may give a delay as any binary64.  A delay below zero is refused, however close to zero
it is, and so is one that is no number; every other is cut to whole milliseconds.  Where a whole
number of milliseconds does not fit a signed 64-bit number the nearest one that does stands for it.
-/

namespace ScriptHost.Timers

open Decimal (isNegative isFinite isZero isWhole fractionBits wholeMagnitude)

/-- The signed 64-bit number that is nearest to a number. -/
def clampSigned (n : Int) : Int := max minSigned (min maxSigned n)

/-- The greatest whole number that is not above a binary64, as a signed 64-bit number.  What is no
number counts as zero. -/
def floorMillis (bits : UInt64) : Int :=
  if !isFinite bits then
    if fractionBits bits ≠ 0 then 0 else if isNegative bits then minSigned else maxSigned
  else if isNegative bits then
    clampSigned (-(wholeMagnitude bits : Int) - if isWhole bits then 0 else 1)
  else clampSigned (wholeMagnitude bits)

/-- Whether a binary64 is no delay: it is below zero or no number. -/
def isRefused (bits : UInt64) : Bool :=
  if !isFinite bits && fractionBits bits ≠ 0 then true else isNegative bits && !isZero bits

/-- The delay that a binary64 stands for.  Below one and not below zero it is nothing. -/
def delayOfBits (bits : UInt64) : Except HostFault Nat :=
  if isRefused bits then .error (.invalidDelay (floorMillis bits))
  else if isFinite bits then .ok (min maxSigned.toNat (wholeMagnitude bits))
  else .ok maxSigned.toNat

end ScriptHost.Timers
