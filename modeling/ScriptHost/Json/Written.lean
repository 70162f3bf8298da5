import ScriptHost.Data.Value
import ScriptHost.Decimal.Notation
import ScriptHost.Text.Hex

/-!
# Written documents

A value is written without blanks, or with one item a line and two blanks of indentation for each
level.  The indented form lists the members of an object by their names, unless their own order is
asked for.
-/

namespace ScriptHost.Json

/-- How numbers that are not whole are written. -/
def floatNotation : Decimal.Notation := ⟨-5, 15, "+", 2⟩

/-- The characters that stand for one character in a string. -/
def escaped (c : Char) : List Char :=
  match c with
  | '"' => ['\\', '"']
  | '\\' => ['\\', '\\']
  | '\n' => ['\\', 'n']
  | '\r' => ['\\', 'r']
  | '\t' => ['\\', 't']
  | '\x08' => ['\\', 'b']
  | '\x0c' => ['\\', 'f']
  | c =>
      if c.toNat < 0x20 then ['\\', 'u'] ++ Text.hexDigits 4 c.toNat else [c]

/-- A string between quotation marks. -/
def quoted (s : String) : String :=
  String.ofList ('"' :: s.toList.flatMap escaped ++ ['"'])

/-- A value that holds no other values. -/
def scalar : Value → String
  | .bool b => if b then "true" else "false"
  | .int n => toString n
  | .float bits => if Decimal.isFinite bits then floatNotation.writeBits bits else "null"
  | .string s => quoted s
  | _ => "null"

mutual

/-- A value without blanks. -/
def compact : Value → String
  | .array items => "[" ++ ",".intercalate (compactItems items) ++ "]"
  | .object members => "\x7b" ++ ",".intercalate (compactMembers members) ++ "\x7d"
  | v => scalar v

/-- Several values without blanks. -/
def compactItems : List Value → List String
  | [] => []
  | v :: rest => compact v :: compactItems rest

/-- Several members without blanks. -/
def compactMembers : List (String × Value) → List String
  | [] => []
  | (name, v) :: rest => (quoted name ++ ":" ++ compact v) :: compactMembers rest

end

/-- The start of a line at a level. -/
def lineStart (level : Nat) : String := "\n" ++ String.ofList (List.replicate (2 * level) ' ')

/-- Lines of a level between two brackets; none at all leaves the brackets alone. -/
def bracketed (opening closing : String) (level : Nat) (lines : List String) : String :=
  if lines.isEmpty then opening ++ closing
  else
    opening ++ ",".intercalate (lines.map (lineStart (level + 1) ++ ·)) ++ lineStart level ++ closing

mutual

/-- A value at a level, indented, with the members of objects in sorted order or their own. -/
def indentedAt (sorted : Bool) (level : Nat) : Value → String
  | .array items => bracketed "[" "]" level (indentedItems sorted (level + 1) items)
  | .object members =>
      let lines := indentedMembers sorted (level + 1) members
      let lines := if sorted then lines.mergeSort fun a b => decide (a.1 ≤ b.1) else lines
      bracketed "\x7b" "\x7d" level (lines.map (·.2))
  | v => scalar v

/-- Several values at a level, indented. -/
def indentedItems (sorted : Bool) (level : Nat) : List Value → List String
  | [] => []
  | v :: rest => indentedAt sorted level v :: indentedItems sorted level rest

/-- Several members at a level, indented, with their names. -/
def indentedMembers (sorted : Bool) (level : Nat) :
    List (String × Value) → List (String × String)
  | [] => []
  | (name, v) :: rest =>
      (name, quoted name ++ ": " ++ indentedAt sorted level v) :: indentedMembers sorted level rest

end

/-- A value, indented, with the members of objects sorted by their names. -/
def indented (v : Value) : String := indentedAt true 0 v

/-- A value, indented, with the members of objects in their own order. -/
def listed (v : Value) : String := indentedAt false 0 v

end ScriptHost.Json
