import ScriptHost.Text.Utf8

/-!
# Where text is malformed

For bytes that are no UTF-8: where the first ill-formed part starts and how long it is, if anything
follows it.
-/

namespace ScriptHost.Text

/-- The first ill-formed part of bytes. -/
inductive Malformed where
  /-- A part of a length at an index. -/
  | invalid (length index : Nat)
  /-- The bytes end inside a character that starts at an index. -/
  | incomplete (index : Nat)
  deriving DecidableEq, Inhabited

/-- The first ill-formed part, read from a state of the machine.  The character that is being read
starts at `start`, and `taken` of its bytes have been read. -/
def malformedFrom : Utf8State → Nat → Nat → List UInt8 → Option Malformed
  | .between, _, _, [] => none
  | .inside _ _ _ _, start, _, [] => some (.incomplete start)
  | .between, start, _, b :: rest =>
      match Utf8State.start b with
      | none => some (.invalid 1 start)
      | some (_, .between) => malformedFrom .between (start + 1) 0 rest
      | some (_, state) => malformedFrom state start 1 rest
  | .inside more low high bits, start, taken, b :: rest =>
      if low ≤ b ∧ b ≤ high then
        match Utf8State.continue_ more bits b with
        | (_, .between) => malformedFrom .between (start + taken + 1) 0 rest
        | (_, state) => malformedFrom state start (taken + 1) rest
      else some (.invalid taken start)

/-- The first ill-formed part of bytes. -/
def malformed? (bytes : ByteArray) : Option Malformed := malformedFrom .between 0 0 bytes.toList

/-- What is said about an ill-formed part. -/
def Malformed.message : Malformed → String
  | invalid length index =>
      "invalid utf-8 sequence of " ++ toString length ++ " bytes from index " ++ toString index
  | incomplete index => "incomplete utf-8 byte sequence from index " ++ toString index

end ScriptHost.Text
