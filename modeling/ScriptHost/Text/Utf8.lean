/-!
# Text from bytes

Bytes are read as UTF-8 by a machine that stands either between two characters or inside one.  Inside
a character it knows how many bytes are still due and in which range the next one must lie.  The
strict reading refuses text with an ill-formed part; the lossy one replaces each longest ill-formed
part by one replacement character, so it keeps exactly the bytes of well-formed text.
-/

namespace ScriptHost.Text

/-- Where the machine stands between two bytes. -/
inductive Utf8State where
  | between
  /-- Inside a character: the bytes still due after the next one, the range of the next one, and the
  bits read so far. -/
  | inside (more : Nat) (low high : UInt8) (bits : Nat)
  deriving DecidableEq

/-- The character that stands for an ill-formed part. -/
def replacement : Char := '\ufffd'

/-- The start of a character; nothing if no character starts with this byte. -/
def Utf8State.start (b : UInt8) : Option (Option Char × Utf8State) :=
  if b < 0x80 then some (some (Char.ofNat b.toNat), between)
  else if 0xC2 ≤ b ∧ b ≤ 0xDF then some (none, inside 0 0x80 0xBF (b.toNat - 0xC0))
  else if b = 0xE0 then some (none, inside 1 0xA0 0xBF 0)
  else if b = 0xED then some (none, inside 1 0x80 0x9F (b.toNat - 0xE0))
  else if 0xE1 ≤ b ∧ b ≤ 0xEF then some (none, inside 1 0x80 0xBF (b.toNat - 0xE0))
  else if b = 0xF0 then some (none, inside 2 0x90 0xBF 0)
  else if 0xF1 ≤ b ∧ b ≤ 0xF3 then some (none, inside 2 0x80 0xBF (b.toNat - 0xF0))
  else if b = 0xF4 then some (none, inside 2 0x80 0x8F (b.toNat - 0xF0))
  else none

/-- Go on inside a character with a byte of the right range. -/
def Utf8State.continue_ (more bits : Nat) (b : UInt8) : Option Char × Utf8State :=
  let bits := bits * 64 + (b.toNat - 0x80)
  match more with
  | 0 => (some (Char.ofNat bits), between)
  | more + 1 => (none, inside more 0x80 0xBF bits)

/-- The characters of bytes, read lossily from a state of the machine. -/
def lossyFrom : Utf8State → List UInt8 → List Char
  | .between, [] => []
  | .inside _ _ _ _, [] => [replacement]
  | .between, b :: rest =>
      match Utf8State.start b with
      | some (char, state) => char.toList ++ lossyFrom state rest
      | none => replacement :: lossyFrom .between rest
  | .inside more low high bits, b :: rest =>
      if low ≤ b ∧ b ≤ high then
        let (char, state) := Utf8State.continue_ more bits b
        char.toList ++ lossyFrom state rest
      else
        match Utf8State.start b with
        | some (char, state) => replacement :: char.toList ++ lossyFrom state rest
        | none => replacement :: replacement :: lossyFrom .between rest

/-- The characters of bytes, read strictly from a state of the machine. -/
def strictFrom : Utf8State → List UInt8 → Option (List Char)
  | .between, [] => some []
  | .inside _ _ _ _, [] => none
  | .between, b :: rest => do
      let (char, state) ← Utf8State.start b
      (strictFrom state rest).map (char.toList ++ ·)
  | .inside more low high bits, b :: rest =>
      if low ≤ b ∧ b ≤ high then
        let (char, state) := Utf8State.continue_ more bits b
        (strictFrom state rest).map (char.toList ++ ·)
      else none

/-- The text of bytes, with a replacement character for each ill-formed part. -/
def lossy (bytes : ByteArray) : String := String.ofList (lossyFrom .between bytes.toList)

/-- The text of bytes, if they are well formed. -/
def strict? (bytes : ByteArray) : Option String :=
  (strictFrom .between bytes.toList).map String.ofList

end ScriptHost.Text
