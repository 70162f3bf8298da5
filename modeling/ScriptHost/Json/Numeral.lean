import ScriptHost.Data.Value

/-!
# Written numbers

A numeral is a number as JSON text spells it.  It is read digit by digit, and its value is settled
afterwards: a whole number of the signed or unsigned 64-bit range is exact, and everything else is a
binary64.  The binary64 of a numeral is not always the nearest one: digits that no longer fit a
64-bit significand are dropped, and the power of ten is applied in one multiplication or division.
-/

namespace ScriptHost.Json

/-- The value of a numeral. -/
inductive Number where
  | int (n : Int)
  | float (bits : UInt64)
  deriving DecidableEq, Inhabited

/-- A numeral, complete or still being read.  Digits stand with the last one first. -/
structure Numeral where
  negative : Bool
  whole : List Nat
  fraction : Option (List Nat)
  /-- The exponent's sign, once it is known whether one is written, and its digits. -/
  exponent : Option (Option Bool × List Nat)
  deriving DecidableEq

namespace Numeral

/-- A numeral of which only the sign has been read. -/
def start (negative : Bool) : Numeral := ⟨negative, [], none, none⟩

/-- What one more character does to a numeral. -/
inductive Next where
  | more (n : Numeral)
  /-- The character is no part of the numeral, which is complete without it. -/
  | ended
  | malformed

/-- The value of a decimal digit. -/
def digit? (c : Char) : Option Nat :=
  if '0' ≤ c ∧ c ≤ '9' then some (c.toNat - '0'.toNat) else none

/-- Whether a numeral may end here: digits are due after a sign, a point and an exponent mark. -/
def complete (n : Numeral) : Bool :=
  !n.whole.isEmpty && n.fraction.all (fun ds => !ds.isEmpty) &&
    n.exponent.all (fun e => !e.2.isEmpty)

/-- The end of a numeral that the next character does not continue. -/
def close (n : Numeral) : Next := if n.complete then .ended else .malformed

/-- Read one more character.  A leading zero takes no further digit. -/
def next (n : Numeral) (c : Char) : Next :=
  match n.exponent with
  | some (sign, ds) =>
      match digit? c with
      | some d => .more { n with exponent := some (some (sign.getD false), d :: ds) }
      | none =>
          if sign.isNone && (c = '+' || c = '-') then
            .more { n with exponent := some (some (c = '-'), []) }
          else n.close
  | none =>
      if (c = 'e' || c = 'E') && n.complete then .more { n with exponent := some (none, []) }
      else
        match n.fraction with
        | some ds =>
            match digit? c with
            | some d => .more { n with fraction := some (d :: ds) }
            | none => n.close
        | none =>
            match digit? c with
            | some d =>
                if n.whole = [0] then .malformed else .more { n with whole := d :: n.whole }
            | none =>
                if c = '.' && n.complete then .more { n with fraction := some [] } else n.close

/-- A significand that takes digits for as long as it fits 64 bits. -/
structure Significand where
  value : Nat
  /-- Digits that found no room. -/
  dropped : Nat

/-- Take whole digits, first one first.  After the first digit without room none is taken. -/
def Significand.ofWhole (digits : List Nat) : Significand :=
  digits.foldl
    (fun s d =>
      if s.dropped = 0 ∧ s.value * 10 + d ≤ maxWord then ⟨s.value * 10 + d, 0⟩
      else ⟨s.value, s.dropped + 1⟩)
    ⟨0, 0⟩

/-- Take fraction digits, first one first, and count those taken.  The first digit without room
ends the significand. -/
def Significand.takeFraction (value : Nat) : List Nat → Nat × Nat
  | [] => (value, 0)
  | d :: rest =>
      if value * 10 + d ≤ maxWord then
        let (v, n) := takeFraction (value * 10 + d) rest
        (v, n + 1)
      else (value, 0)

/-- `10 ^ n` as a binary64. -/
def powerOfTen (n : Nat) : Float := Float.ofScientific 1 false n

/-- Divide by `10 ^ n`, in steps of at most `10 ^ 308`. -/
def shrink (f : Float) (n : Nat) : Float :=
  if _h : n ≤ 308 then f / powerOfTen n
  else if f == 0.0 then f
  else shrink (f / powerOfTen 308) (n - 308)
termination_by n

/-- The binary64 `value · 10 ^ exponent`, or nothing when it is too large for one. -/
def scale (value : Nat) (exponent : Int) : Option Float :=
  let f := value.toUInt64.toFloat
  if exponent < 0 then some (shrink f (-exponent).toNat)
  else if exponent ≤ 308 then
    let scaled := f * powerOfTen exponent.toNat
    if scaled.isInf then none else some scaled
  else if f == 0.0 then some f
  else none

/-- The largest exponent, and the limit of exponent arithmetic. -/
def maxExponent : Int := 2147483647

/-- Keep an exponent inside the signed 32-bit range. -/
def clampExponent (e : Int) : Int := max (-2147483648) (min maxExponent e)

/-- Put the sign on a binary64. -/
def signed (negative : Bool) (f : Float) : Number :=
  .float (if negative then -f else f).toBits

/-- The number that a numeral denotes, or nothing when it is beyond the binary64 range. -/
def value? (n : Numeral) : Option Number :=
  let whole := Significand.ofWhole n.whole.reverse
  match n.fraction, n.exponent with
  | none, none =>
      if whole.dropped = 0 then
        if !n.negative then some (.int whole.value)
        else if 0 < whole.value ∧ minSigned ≤ -(whole.value : Int) then
          some (.int (-(whole.value : Int)))
        else some (signed true whole.value.toUInt64.toFloat)
      else (scale whole.value whole.dropped).map (signed n.negative)
  | fraction, exponent =>
      let (value, taken) := Significand.takeFraction whole.value (fraction.getD []).reverse
      let base : Int := whole.dropped - taken
      match exponent with
      | none => (scale value base).map (signed n.negative)
      | some (sign, digits) =>
          let written : Int := (digits.reverse.foldl (fun e d => e * 10 + d) 0 : Nat)
          let below := sign.getD false
          if maxExponent < written then
            if value ≠ 0 ∧ !below then none else some (signed n.negative 0.0)
          else
            (scale value (clampExponent (if below then base - written else base + written))).map
              (signed n.negative)

end Numeral
end ScriptHost.Json
