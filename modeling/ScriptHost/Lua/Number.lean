import ScriptHost.Data.Value
import ScriptHost.Decimal.Notation
import ScriptHost.Decimal.Whole
import ScriptHost.Text.Hex

/-!
# Lua numbers

A number is a signed 64-bit integer, whose arithmetic wraps, or a binary64.  Division by `/` and
powers are always computed with binary64 numbers; the other operations keep integers as they are when
both operands are.  `//` rounds toward the floor, and the remainder of `%` has the sign of the
divisor.
-/

namespace ScriptHost.Lua

/-- A number. -/
inductive Number where
  | int (n : Int)
  | float (x : Float)
  deriving Inhabited

/-- The signed 64-bit integer that is congruent to an integer modulo the word size. -/
def wrap (n : Int) : Int := Int.bmod n 18446744073709551616

/-- The word of a signed 64-bit integer. -/
def toWord (n : Int) : Nat := (n % 18446744073709551616).toNat

/-- The whole value of a binary64, if it has one. -/
def wholeValue? (x : Float) : Option Int :=
  let bits := x.toBits
  if Decimal.isFinite bits && Decimal.isWhole bits then
    let magnitude : Int := Decimal.wholeMagnitude bits
    some (if Decimal.isNegative bits then -magnitude else magnitude)
  else none

/-- The integer that is equal to a binary64, if there is one. -/
def integer? (x : Float) : Option Int :=
  (wholeValue? x).filter fun n => minSigned ≤ n ∧ n ≤ maxSigned

/-- The binary64 nearest to an integer. -/
def floatOfInt (n : Int) : Float :=
  if n < 0 then -(Float.ofNat n.natAbs) else Float.ofNat n.natAbs

namespace Number

/-- The value as a binary64. -/
def toFloat : Number → Float
  | int n => floatOfInt n
  | float x => x

/-- The value as an integer, if it is one. -/
def toInteger? : Number → Option Int
  | int n => some n
  | float x => integer? x

/-- The remainder of exact division, with the sign of the divisor.  Both are finite and the divisor
is not zero. -/
def remainder (x y : Float) : Float :=
  let signed (bits : UInt64) (m : Nat) : Int := if Decimal.isNegative bits then -m else m
  let (mx, qx) := Decimal.parts x.toBits
  let (my, qy) := Decimal.parts y.toBits
  let q := min qx qy
  let nx := signed x.toBits (mx <<< (qx - q))
  let ny := signed y.toBits (my <<< (qy - q))
  let r := Int.fmod nx ny
  if r = 0 then if Decimal.isNegative x.toBits then -0.0 else 0.0
  else
    let magnitude := (Float.ofNat r.natAbs).scaleB ((q : Int) - 1074)
    if r < 0 then -magnitude else magnitude

/-- The remainder of any two binary64 numbers. -/
def floatMod (x y : Float) : Float :=
  if x.isNaN || y.isNaN || x.isInf || y == 0 then 0.0 / 0.0
  else if y.isInf then
    if x == 0 || (x < 0) == (y < 0) then x else y
  else remainder x y

/-- The order of an integer and a binary64: whether the integer is less, and whether it is equal. -/
def compareMixed (n : Int) (x : Float) : Bool × Bool :=
  if x.isNaN then (false, false)
  else if x.isInf then (0 < x, false)
  else
    let (m, q) := Decimal.parts x.toBits
    let num : Int := if Decimal.isNegative x.toBits then -(m : Int) else m
    let left := n * Int.pow 2 (1074 - q)
    let right := num * Int.pow 2 (q - 1074)
    (left < right, left = right)

/-- Whether two numbers are equal. -/
def eq : Number → Number → Bool
  | int m, int n => m = n
  | float x, float y => x == y
  | int n, float x | float x, int n => (compareMixed n x).2

/-- Whether a number is less than another one. -/
def lt : Number → Number → Bool
  | int m, int n => m < n
  | float x, float y => x < y
  | int n, float x => (compareMixed n x).1
  | float x, int n =>
      let (less, equal) := compareMixed n x
      !x.isNaN && !less && !equal

/-- Whether a number is at most another one. -/
def le (a b : Number) : Bool := a.lt b || a.eq b

/-- How numbers are written: up to fourteen digits, positional from 0.0001 to below 10^14. -/
def style : Decimal.Notation := ⟨-4, 13, "+", 2⟩

/-- The text of a binary64. -/
def floatText (x : Float) : String :=
  let bits := x.toBits
  let sign := if Decimal.isNegative bits then "-" else ""
  if x.isNaN then "-nan"
  else if x.isInf then sign ++ "inf"
  else if Decimal.isZero bits then sign ++ "0.0"
  else sign ++ style.write (Decimal.nearest 14 bits)

/-- The text of a number. -/
def text : Number → String
  | int n => toString n
  | float x => floatText x

end Number

/-! ## Written numbers -/

/-- The value of digits in a base. -/
def digitsValue (base : Nat) (cs : List Char) : Nat :=
  cs.foldl (fun n c => n * base + (Text.hexDigit? c).getD 0) 0

/-- An exponent: an optional sign and at least one digit. -/
def exponent? (cs : List Char) : Option Int :=
  let (negative, digits) := match cs with
    | '-' :: rest => (true, rest)
    | '+' :: rest => (false, rest)
    | rest => (false, rest)
  if digits.isEmpty || !digits.all Char.isDigit then none
  else
    let value : Int := digitsValue 10 digits
    some (if negative then -value else value)

/-- The parts of a numeral whose digits satisfy a test: digits before and after the point, whether
there is a point, and what follows the exponent mark. -/
def numeralParts (isDigit isMark : Char → Bool) (cs : List Char) :
    Option (List Char × Option (List Char) × Option (List Char)) :=
  let (whole, rest) := cs.span isDigit
  let (fraction, rest) := match rest with
    | '.' :: rest =>
        let (fraction, rest) := rest.span isDigit
        (some fraction, rest)
    | rest => (none, rest)
  if whole.isEmpty && (fraction.getD []).isEmpty then none
  else
    match rest with
    | [] => some (whole, fraction, none)
    | mark :: exponent => if isMark mark then some (whole, fraction, some exponent) else none

/-- The binary64 nearest to `digits · 10 ^ scale`. -/
def scaled (digits : Nat) (scale : Int) : Float :=
  let lead := (Decimal.digitCount digits : Int) + scale
  if digits = 0 || lead < -400 then 0.0
  else if 400 < lead then 1.0 / 0.0
  else Float.ofScientific digits (scale < 0) scale.natAbs

/-- The value of an unsigned numeral. -/
def numeral? (cs : List Char) : Option Number :=
  match cs with
  | '0' :: x :: rest =>
      if x = 'x' || x = 'X' then do
        let (whole, fraction, exponent) ←
          numeralParts Text.isHexDigit (fun c => c = 'p' || c = 'P') rest
        match fraction, exponent with
        | none, none => some (.int (wrap (digitsValue 16 whole)))
        | _, _ =>
            let power ← match exponent with
              | none => some 0
              | some e => exponent? e
            let digits := whole ++ fraction.getD []
            let shift := power - 4 * ((fraction.getD []).length : Int)
            some (.float ((Float.ofNat (digitsValue 16 digits)).scaleB shift))
      else decimal? cs
  | _ => decimal? cs
where
  decimal? (cs : List Char) : Option Number := do
    let (whole, fraction, exponent) ←
      numeralParts Char.isDigit (fun c => c = 'e' || c = 'E') cs
    match fraction, exponent with
    | none, none =>
        let n := digitsValue 10 whole
        if (n : Int) ≤ maxSigned then some (.int n) else some (.float (Float.ofNat n))
    | _, _ =>
        let power ← match exponent with
          | none => some 0
          | some e => exponent? e
        let fraction := fraction.getD []
        some (.float (scaled (digitsValue 10 (whole ++ fraction)) (power - fraction.length)))

/-- Whether a character is a blank between tokens and around numerals. -/
def isSpace (c : Char) : Bool := c = ' ' || (0x9 ≤ c.toNat && c.toNat ≤ 0xd)

/-- Text without blanks at either end. -/
def trim (cs : List Char) : List Char :=
  ((cs.dropWhile isSpace).reverse.dropWhile isSpace).reverse

/-- The number that text stands for where a number is wanted. -/
def numberOfText? (s : String) : Option Number :=
  match trim s.toList with
  | '-' :: rest =>
      (numeral? rest).map fun n => match n with
        | .int n => .int (wrap (-n))
        | .float x => .float (-x)
  | '+' :: rest => numeral? rest
  | rest => numeral? rest

end ScriptHost.Lua
