import Std.Data.HashMap
import ScriptHost.Lua.Number
import ScriptHost.Lua.Syntax
import ScriptHost.Network.Handles
import ScriptHost.Settings.Basic
import ScriptHost.Text.Utf8

/-!
# Lua values and the heap

Tables, functions and variables live in a heap and are referred to by number; nothing leaves it.  A
table keeps the values of the keys 1, 2, … as a run of items, which never ends in `nil`, and all other
keys in the order in which they were first set.
-/

namespace ScriptHost.Lua

/-- The functions that the host adds to the language. -/
inductive HostFunction where
  | setTimer (repeating : Bool)
  | clearTimer
  | connect
  | listen
  | accept
  | read
  | write
  | close (kind : Network.Kind)
  | bind
  | send
  | receive
  | fetch
  deriving DecidableEq, Hashable, Inhabited

/-- The functions of the language's own library. -/
inductive Builtin where
  | print | error | pcall | assert | type | tostring | tonumber | select
  | setmetatable | getmetatable | rawget | rawset | rawequal | rawlen | next | pairs | ipairs
  /-- A step through the items of a table. -/
  | ipairsStep
  | stringRep | stringByte | stringChar | stringSub | stringLen | stringUpper | stringLower
  | stringReverse
  | tableInsert | tableRemove | tableConcat | tableUnpack
  | mathFloor | mathCeil | mathAbs | mathMax | mathMin | mathType | mathToInteger
  /-- Writing to and flushing the output. -/
  | write | flush
  | host (f : HostFunction)
  deriving DecidableEq, Hashable, Inhabited

/-- A value. -/
inductive Val where
  | nil
  | bool (b : Bool)
  | number (n : Number)
  | str (s : ByteArray)
  | table (ref : Nat)
  | closure (ref : Nat)
  | builtin (f : Builtin)
  /-- A failure of a host function. -/
  | fault (message : String)
  deriving Inhabited

/-- Bytes are equal when their arrays are. -/
instance (priority := 2000) decEqBytes : DecidableEq ByteArray := fun a b =>
  if h : a.data = b.data then isTrue (ByteArray.ext h)
  else isFalse fun hab => h (congrArg ByteArray.data hab)

/-- A key of a table: a value other than `nil` and NaN, with whole numbers as integers. -/
inductive Key where
  | bool (b : Bool)
  | int (n : Int)
  | float (bits : UInt64)
  | str (s : ByteArray)
  | table (ref : Nat)
  | closure (ref : Nat)
  | builtin (f : Builtin)
  | fault (message : String)
  deriving DecidableEq, Hashable, Inhabited

/-- A table. -/
structure Tab where
  items : Array Val
  fields : Array (Key × Val)
  places : Std.HashMap Key Nat
  metatable : Option Nat
  /-- Whether the table was made from a list, which it stays when it is empty. -/
  isList : Bool

instance : Inhabited Tab := ⟨⟨#[], #[], ∅, none, false⟩⟩

/-- A variable in scope: its cell, and how many functions deep it was declared. -/
structure Binding where
  name : String
  cell : Nat
  depth : Nat

/-- A function made by a chunk. -/
structure Closure where
  body : Body
  scope : List Binding
  /-- How many functions deep its body is. -/
  depth : Nat
  /-- The name of its chunk in messages. -/
  chunk : String

instance : Inhabited Closure := ⟨⟨default, [], 0, ""⟩⟩

/-- The heap, with what has been written, the last piece first, and the settings that limit what
code may ask for. -/
structure Heap where
  tables : Array Tab
  closures : Array Closure
  cells : Array Val
  output : List ByteArray
  settings : NetworkSettings

namespace Val

/-- Text as a value. -/
def ofString (s : String) : Val := str s.toUTF8

/-- An integer as a value. -/
def ofInt (n : Int) : Val := number (.int n)

/-- Everything but `nil` and `false` is true. -/
def truthy : Val → Bool
  | nil | bool false => false
  | _ => true

/-- The name of the type of a value. -/
def typeName : Val → String
  | nil => "nil"
  | bool _ => "boolean"
  | number _ => "number"
  | str _ => "string"
  | table _ => "table"
  | closure _ | builtin _ => "function"
  | fault _ => "userdata"

/-- Whether two values are the same. -/
def rawEq : Val → Val → Bool
  | nil, nil => true
  | bool a, bool b => a = b
  | number a, number b => a.eq b
  | str a, str b => a = b
  | table a, table b => a = b
  | closure a, closure b => a = b
  | builtin a, builtin b => a = b
  | fault a, fault b => a = b
  | _, _ => false

/-- The number that a value stands for in arithmetic. -/
def number? : Val → Option Number
  | number n => some n
  | str s => (Text.strict? s).bind numberOfText?
  | _ => none

end Val

/-- Why a value is no key. -/
inductive KeyFault where
  | isNil
  | isNaN

/-- The key that a value is. -/
def Key.ofVal : Val → Except KeyFault Key
  | .nil => .error .isNil
  | .bool b => .ok (.bool b)
  | .number (.int n) => .ok (.int n)
  | .number (.float x) =>
      if x.isNaN then .error .isNaN
      else match integer? x with
        | some n => .ok (.int n)
        | none => .ok (.float x.toBits)
  | .str s => .ok (.str s)
  | .table r => .ok (.table r)
  | .closure r => .ok (.closure r)
  | .builtin f => .ok (.builtin f)
  | .fault m => .ok (.fault m)

/-- The value of a key. -/
def Key.toVal : Key → Val
  | .bool b => .bool b
  | .int n => .ofInt n
  | .float bits => .number (.float (Float.ofBits bits))
  | .str s => .str s
  | .table r => .table r
  | .closure r => .closure r
  | .builtin f => .builtin f
  | .fault m => .fault m

namespace Tab

/-- A table without keys. -/
def empty : Tab := default

/-- The value of a key. -/
def get (t : Tab) (k : Key) : Val :=
  let inFields : Val :=
    match t.places[k]? with
    | some i => (t.fields[i]?.map (·.2)).getD .nil
    | none => .nil
  match k with
  | .int n => if 1 ≤ n ∧ n ≤ t.items.size then t.items[(n - 1).toNat]?.getD .nil else inFields
  | _ => inFields

/-- Drop trailing `nil` items. -/
def trimItems : Nat → Array Val → Array Val
  | 0, items => items
  | bound + 1, items =>
      match items.back? with
      | some .nil => trimItems bound items.pop
      | _ => items

/-- Set a key among the fields. -/
def setField (t : Tab) (k : Key) (v : Val) : Tab :=
  match t.places[k]? with
  | some i => { t with fields := t.fields.modify i fun e => (e.1, v) }
  | none =>
      match v with
      | .nil => t
      | v => { t with fields := t.fields.push (k, v), places := t.places.insert k t.fields.size }

/-- Take the keys that follow the items from the fields into the items. -/
def migrate : Nat → Tab → Tab
  | 0, t => t
  | bound + 1, t =>
      let k : Key := .int (t.items.size + 1)
      match t.places[k]? with
      | none => t
      | some i =>
          match (t.fields[i]?.map (·.2)).getD .nil with
          | .nil => t
          | v => migrate bound ({ t.setField k .nil with items := t.items.push v })

/-- Set a key. -/
def set (t : Tab) (k : Key) (v : Val) : Tab :=
  match k with
  | .int n =>
      if 1 ≤ n ∧ n ≤ t.items.size then
        let items := t.items.set! (n - 1).toNat v
        { t with items := trimItems items.size items }
      else if n = t.items.size + 1 then
        match v with
        | .nil => t.setField k .nil
        | v => migrate (t.fields.size + 1) { t.setField k .nil with items := t.items.push v }
      else t.setField k v
  | k => t.setField k v

/-- The number of items, which is a border of the table. -/
def length (t : Tab) : Nat := t.items.size

/-- The pairs of keys and values: items first, and then fields in order. -/
def pairs (t : Tab) : List (Key × Val) :=
  let items := t.items.toList.zipIdx.map fun (v, i) => (Key.int (i + 1 : Nat), v)
  (items ++ t.fields.toList).filter fun e => match e.2 with
    | .nil => false
    | _ => true

end Tab

namespace Heap

/-- The table with a number. -/
def tab (h : Heap) (ref : Nat) : Tab := h.tables[ref]?.getD .empty

/-- Change a table. -/
def modifyTab (h : Heap) (ref : Nat) (f : Tab → Tab) : Heap :=
  { h with tables := h.tables.modify ref f }

/-- A new table. -/
def newTable (h : Heap) (t : Tab) : Val × Heap :=
  (.table h.tables.size, { h with tables := h.tables.push t })

/-- A new function. -/
def newClosure (h : Heap) (c : Closure) : Val × Heap :=
  (.closure h.closures.size, { h with closures := h.closures.push c })

/-- A new variable. -/
def newCell (h : Heap) (v : Val) : Nat × Heap :=
  (h.cells.size, { h with cells := h.cells.push v })

/-- The value of a variable. -/
def cell (h : Heap) (ref : Nat) : Val := h.cells[ref]?.getD .nil

/-- Set a variable. -/
def setCell (h : Heap) (ref : Nat) (v : Val) : Heap := { h with cells := h.cells.set! ref v }

/-- The table of global variables. -/
def globals : Nat := 0

/-- The value of a field with a name in a table. -/
def field (h : Heap) (ref : Nat) (name : String) : Val := (h.tab ref).get (.str name.toUTF8)

/-- A field of the metatable of a value.  The fields of strings are those of the `string` library. -/
def metafield (h : Heap) (v : Val) (name : String) : Val :=
  match v with
  | .table ref =>
      match (h.tab ref).metatable with
      | some meta_ => h.field meta_ name
      | none => .nil
  | .str _ => if name = "__index" then h.field globals "string" else .nil
  | _ => .nil

/-- The name of the type of a value in messages: tables may name themselves. -/
def typeName (h : Heap) (v : Val) : String :=
  match v, h.metafield v "__name" with
  | .table _, .str s => Text.lossy s
  | v, _ => v.typeName

end Heap

/-- The text by which a value is told from others. -/
def address (ref : Nat) : String :=
  "0x" ++ String.ofList (Text.hexDigits 14 (0x55d0c0000000 + 32 * ref))

end ScriptHost.Lua
