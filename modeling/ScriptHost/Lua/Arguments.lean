import ScriptHost.Desk.Ask
import ScriptHost.Lua.Arithmetic
import ScriptHost.Text.Malformed

/-!
# Arguments of host functions

A host function converts its arguments in order, and the first one that cannot be converted decides.
Missing arguments count as `nil`, and extra ones are ignored.  What comes out is a request to the
desk.
-/

namespace ScriptHost.Lua

/-- The name of the type of an argument in messages, which tells the two kinds of numbers apart. -/
def argumentType : Val → String
  | .number (.int _) => "integer"
  | .fault _ => "error"
  | v => v.typeName

/-- The fault of an argument, counted from 1, that cannot be converted. -/
def conversionFault (number : Nat) (v : Val) (target detail : String) : String :=
  "bad argument #" ++ toString number ++ ": error converting Lua " ++ argumentType v ++ " to " ++
    target ++ (if detail.isEmpty then "" else " (" ++ detail ++ ")")

namespace Arguments

/-- Converting arguments, or saying which one cannot be. -/
abbrev Conversion := Except String

variable (args : List Val)

/-- An argument, counted from 0. -/
def get (i : Nat) : Val := (args[i]?).getD .nil

/-- An argument that cannot be converted. -/
def refuse {α : Type} (i : Nat) (target detail : String) : Conversion α :=
  .error (conversionFault (i + 1) (get args i) target detail)

/-- A function. -/
def function (i : Nat) : Conversion Val :=
  match get args i with
  | .closure r => .ok (.closure r)
  | .builtin f => .ok (.builtin f)
  | _ => refuse args i "function" ""

/-- A number of any kind. -/
def number (i : Nat) (target : String) : Conversion Number :=
  match (get args i).number? with
  | some n => .ok n
  | none => refuse args i target "expected number or string coercible to number"

/-- A binary64 as its bits; `nil` is nothing. -/
def optionalFloat (i : Nat) : Conversion (Option UInt64) :=
  match get args i with
  | .nil => .ok none
  | _ => return some (← number args i "f64").toFloat.toBits

/-- The whole part of a number, if it is finite. -/
def wholePart? : Number → Option Int
  | .int n => some n
  | .float x =>
      let bits := x.toBits
      if Decimal.isFinite bits then
        let magnitude : Int := Decimal.wholeMagnitude bits
        some (if Decimal.isNegative bits then -magnitude else magnitude)
      else none

/-- A whole number from zero up to a greatest one. -/
def natural (i : Nat) (target : String) (greatest : Nat) : Conversion Nat := do
  match wholePart? (← number args i target) with
  | some n => if 0 ≤ n ∧ n ≤ greatest then return n.toNat else refuse args i target "out of range"
  | none => refuse args i target "out of range"

/-- The number of a handle. -/
def handle (i : Nat) : Conversion Nat := natural args i "u64" maxWord

/-- A port. -/
def port (i : Nat) : Conversion Nat := natural args i "u16" 65535

/-- A number of bytes; `nil` is nothing. -/
def optionalSize (i : Nat) : Conversion (Option Nat) :=
  match get args i with
  | .nil => .ok none
  | _ => return some (← natural args i "usize" maxWord)

/-- Bytes. -/
def bytes (i : Nat) (target : String) : Conversion ByteArray :=
  match (get args i).text? with
  | some s => .ok s
  | none => refuse args i target "expected string or number"

/-- Text. -/
def text (i : Nat) : Conversion String := do
  let s ← bytes args i "String"
  match Text.malformed? s with
  | some m => refuse args i "String" m.message
  | none => return Text.lossy s

end Arguments

/-! ## Drafts of web requests -/

namespace Draft

open Network

/-- The fault of a value that is no part of a draft. -/
def unexpected (what expected : String) : String :=
  "deserialize error: invalid type: " ++ what ++ ", expected " ++ expected

/-- How a value is named in the faults of drafts. -/
def describe (h : Heap) : Val → String
  | .nil => "nil"
  | .bool b => "boolean `" ++ (if b then "true" else "false") ++ "`"
  | .number (.int n) => "integer `" ++ toString n ++ "`"
  | .number (.float x) => "floating point `" ++ Number.floatText x ++ "`"
  | .str _ => "string"
  | .table ref => if 0 < (h.tab ref).length then "sequence" else "map"
  | v => v.typeName

/-- How a value is named where a table is wanted. -/
def describeKind : Val → String
  | .number (.int _) => "integer"
  | v => v.typeName

/-- Text in a draft. -/
def text (h : Heap) : Val → Except String String
  | .str s =>
      match Text.strict? s with
      | some t => .ok t
      | none => .error (unexpected "byte array" "a string")
  | v => .error (unexpected (describe h v) "a string")

/-- The pairs of keys and values of a table in a draft. -/
def pairs (h : Heap) : Val → Except String (List (Key × Val))
  | .table ref => .ok (h.tab ref).pairs
  | v => .error (unexpected (describeKind v) "table")

/-- The headers of a draft. -/
def headers (h : Heap) (v : Val) : Except String (List (String × String)) := do
  (← pairs h v).mapM fun (k, v) => do
    let name ← text h k.toVal
    return (name, ← text h v)

/-- A draft with some of its parts set. -/
def add (h : Heap) (d : Http.Draft) (entry : Key × Val) : Except String Http.Draft :=
  match entry with
  | (.str k, v) =>
      if k = "method".toUTF8 then return { d with method := ← text h v }
      else if k = "url".toUTF8 then return { d with url := ← text h v }
      else if k = "headers".toUTF8 then return { d with headers := ← headers h v }
      else if k = "body".toUTF8 then return { d with body := some (← text h v) }
      else .ok d
  | (k, _) => .error (unexpected (describe h k.toVal) "field identifier")

/-- The draft that a value describes. -/
def ofVal (h : Heap) (v : Val) : Except String Http.Draft := do
  (← pairs h v).foldlM (add h) .standard

end Draft

open Arguments in
/-- What a host function asks for, when it is called with some arguments. -/
def HostFunction.ask (f : HostFunction) (h : Heap) (args : List Val) :
    Except String (Desk.Ask Val) := do
  match f with
  | .setTimer repeating =>
      let closure ← function args 0
      return .setTimer closure (← optionalFloat args 1) repeating
  | .clearTimer =>
      match get args 0 with
      | .nil => return .clearTimer none
      | _ => return .clearTimer (some (← natural args 0 "u64" maxWord))
  | .connect => address fun host port => .connect host port
  | .listen => address fun host port => .listen host port
  | .bind => address fun host port => .bind host port
  | .accept =>
      let listener ← handle args 0
      return .start (← function args 1) (.accept listener)
  | .read => receiving fun id limit => .read id limit
  | .receive => receiving fun id limit => .receive id limit
  | .write =>
      let id ← handle args 0
      let data ← bytes args 1 "string"
      return .start (← function args 2) (.write id data)
  | .send =>
      let id ← handle args 0
      let host ← text args 1
      let port ← port args 2
      let data ← bytes args 3 "string"
      return .start (← function args 4) (.send id host port data)
  | .close kind => return .close kind (← handle args 0)
  | .fetch =>
      let closure ← function args 1
      return .start closure (.fetch (← Draft.ofVal h (get args 0)))
where
  address (request : String → Nat → Network.Request) : Except String (Desk.Ask Val) := do
    let host ← text args 0
    let port ← port args 1
    return .start (← function args 2) (request host port)
  receiving (request : Nat → Nat → Network.Request) : Except String (Desk.Ask Val) := do
    let id ← handle args 0
    let size ← optionalSize args 1
    return .start (← function args 2) (request id (h.settings.readLimit size))

end ScriptHost.Lua
