import ScriptHost.Lua.Heap

/-!
# Operators on Lua values

The operators on numbers and strings, and why one does not apply.  A string that spells a number is a
number for arithmetic, but not for comparison.
-/

namespace ScriptHost.Lua

/-- Why an operator does not apply. -/
inductive OperatorFault where
  /-- An integer division or remainder by zero. -/
  | divisionByZero
  | modByZero
  /-- An operand of a bit operation that is no integer. -/
  | notInteger
  /-- The operands are of the wrong types. -/
  | wrongTypes
  deriving DecidableEq

/-- The fault of a division or remainder as text. -/
def OperatorFault.message : OperatorFault → String
  | divisionByZero => "attempt to perform 'n//0'"
  | modByZero => "attempt to perform 'n%%0'"
  | notInteger => "number has no integer representation"
  | wrongTypes => "attempt to perform arithmetic on wrong types"

/-- The name under which a table gives an operator a meaning of its own. -/
def BinaryOp.event : BinaryOp → String
  | .add => "__add"
  | .sub => "__sub"
  | .mul => "__mul"
  | .div => "__div"
  | .floorDiv => "__idiv"
  | .mod => "__mod"
  | .pow => "__pow"
  | .bitAnd => "__band"
  | .bitOr => "__bor"
  | .bitXor => "__bxor"
  | .shiftLeft => "__shl"
  | .shiftRight => "__shr"
  | .concat => "__concat"
  | .eq | .ne => "__eq"
  | .lt | .gt => "__lt"
  | .le | .ge => "__le"
  | .and | .or => ""

/-- Whether an operator works on the bits of integers. -/
def BinaryOp.isBitwise : BinaryOp → Bool
  | .bitAnd | .bitOr | .bitXor | .shiftLeft | .shiftRight => true
  | _ => false

/-- A word shifted to the left, or to the right by a negative amount. -/
def shiftWord (word : Nat) (amount : Int) : Int :=
  if amount ≤ -64 ∨ 64 ≤ amount then 0
  else if 0 ≤ amount then wrap (word <<< amount.toNat : Nat)
  else wrap (word >>> (-amount).toNat : Nat)

/-- A bit operation on two integers. -/
def bitwise (op : BinaryOp) (m n : Int) : Int :=
  match op with
  | .bitAnd => wrap (toWord m &&& toWord n : Nat)
  | .bitOr => wrap (toWord m ||| toWord n : Nat)
  | .bitXor => wrap (toWord m ^^^ toWord n : Nat)
  | .shiftLeft => shiftWord (toWord m) n
  | _ => shiftWord (toWord m) (-n)

/-- An arithmetic operation on two integers. -/
def integerArithmetic (op : BinaryOp) (m n : Int) : Except OperatorFault Number :=
  match op with
  | .add => .ok (.int (wrap (m + n)))
  | .sub => .ok (.int (wrap (m - n)))
  | .mul => .ok (.int (wrap (m * n)))
  | .floorDiv => if n = 0 then .error .divisionByZero else .ok (.int (wrap (Int.fdiv m n)))
  | .mod => if n = 0 then .error .modByZero else .ok (.int (wrap (Int.fmod m n)))
  | .div => .ok (.float (floatOfInt m / floatOfInt n))
  | _ => .ok (.float (Float.pow (floatOfInt m) (floatOfInt n)))

/-- An arithmetic operation on two binary64 numbers. -/
def floatArithmetic (op : BinaryOp) (x y : Float) : Float :=
  match op with
  | .add => x + y
  | .sub => x - y
  | .mul => x * y
  | .div => x / y
  | .floorDiv => (x / y).floor
  | .mod => Number.floatMod x y
  | _ => Float.pow x y

/-- An arithmetic or bit operation on two numbers. -/
def arithmetic (op : BinaryOp) (a b : Number) : Except OperatorFault Number :=
  if op.isBitwise then
    match a.toInteger?, b.toInteger? with
    | some m, some n => .ok (.int (bitwise op m n))
    | _, _ => .error .notInteger
  else
    match a, b with
    | .int m, .int n => integerArithmetic op m n
    | a, b => .ok (.float (floatArithmetic op a.toFloat b.toFloat))

/-- Arithmetic on two values. -/
def arithmeticVal (op : BinaryOp) (a b : Val) : Except OperatorFault Val :=
  match a.number?, b.number? with
  | some m, some n => (arithmetic op m n).map Val.number
  | _, _ => .error .wrongTypes

/-- The order of two strings, byte by byte. -/
def bytesLt : List UInt8 → List UInt8 → Bool
  | _, [] => false
  | [], _ :: _ => true
  | a :: as, b :: bs => a < b || (a = b && bytesLt as bs)

/-- A comparison of two values that need no help from their tables; nothing if they cannot be
compared. -/
def compare? (op : BinaryOp) (a b : Val) : Option Bool :=
  match op, a, b with
  | .lt, .number m, .number n | .gt, .number n, .number m => some (m.lt n)
  | .le, .number m, .number n | .ge, .number n, .number m => some (m.le n)
  | .lt, .str s, .str t | .gt, .str t, .str s => some (bytesLt s.toList t.toList)
  | .le, .str s, .str t | .ge, .str t, .str s => some (!bytesLt t.toList s.toList)
  | _, _, _ => none

/-- The text of a string or a number; nothing for other values. -/
def Val.text? : Val → Option ByteArray
  | .str s => some s
  | .number n => some n.text.toUTF8
  | _ => none

/-- The verb for an operator in messages. -/
def BinaryOp.verb (op : BinaryOp) : String :=
  if op.isBitwise then "perform bitwise operation on"
  else if op = .concat then "concatenate"
  else "perform arithmetic on"

/-- Where a chunk says that something happened: its name as shown, and a line. -/
def site (chunk : String) (line : Nat) : String := chunk ++ ":" ++ toString line ++ ": "

/-- The room for the name of a chunk in messages. -/
def chunkRoom : Nat := 60

/-- The name of a chunk as it is shown: a name that starts with `=` or `@` is shown without that, and
anything else as a piece of source. -/
def shownChunk (name : String) : String :=
  match name.toList with
  | '=' :: rest => String.ofList (rest.take (chunkRoom - 1))
  | '@' :: rest =>
      if rest.length < chunkRoom then String.ofList rest
      else "..." ++ String.ofList (rest.drop (rest.length - (chunkRoom - 4)))
  | cs =>
      let first := cs.takeWhile (· ≠ '\n')
      let room := chunkRoom - 15
      if first.length = cs.length && cs.length < room then "[string \"" ++ name ++ "\"]"
      else "[string \"" ++ String.ofList (first.take room) ++ "...\"]"

end ScriptHost.Lua
