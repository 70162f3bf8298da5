import ScriptHost.Decimal.Shortest

/-!
# Writing decimals

How a decimal is written is decided by a record: which numbers are written positionally, and what
the exponent of any other looks like.  A decimal always shows that it is no whole number by a point
or an exponent.
-/

namespace ScriptHost.Decimal

/-- The decisions of a decimal notation. -/
structure Notation where
  /-- The least and the greatest power of ten of a leading digit that stands in a positional
  number. -/
  positionalFrom : Int
  positionalTo : Int
  /-- The sign of an exponent that is not negative. -/
  plus : String
  /-- The least number of digits of an exponent. -/
  exponentDigits : Nat

/-- A run of zeros. -/
def zeros (n : Nat) : String := String.ofList (List.replicate n '0')

/-- Write a decimal with a leading digit other than zero. -/
def Notation.write (style : Notation) (d : Scaled) : String :=
  let digits := Nat.toDigits 10 d.digits
  let count := digits.length
  let lead : Int := d.exponent + count - 1
  if style.positionalFrom ≤ lead ∧ lead ≤ style.positionalTo then
    if 0 ≤ d.exponent then String.ofList digits ++ zeros d.exponent.toNat ++ ".0"
    else if 0 ≤ lead then
      let whole := lead.toNat + 1
      String.ofList (digits.take whole) ++ "." ++ String.ofList (digits.drop whole)
    else "0." ++ zeros (-lead - 1).toNat ++ String.ofList digits
  else
    let power := toString lead.natAbs
    let mark := (if lead < 0 then "e-" else "e" ++ style.plus) ++
      zeros (style.exponentDigits - power.length) ++ power
    match digits with
    | first :: [] => String.ofList [first] ++ mark
    | first :: rest => String.ofList [first] ++ "." ++ String.ofList rest ++ mark
    | [] => mark

/-- Write a binary64. -/
def Notation.writeBits (style : Notation) (bits : UInt64) : String :=
  let sign := if isNegative bits then "-" else ""
  if !isFinite bits then if fractionBits bits = 0 then sign ++ "inf" else "NaN"
  else if isZero bits then sign ++ "0.0"
  else sign ++ style.write (shortest bits)

end ScriptHost.Decimal
