import ScriptHost.Lua.Arithmetic

/-!
# Library functions without calls

The functions of the library that neither call other functions nor look at metatables.  Arguments
that a function does not know are ignored; a fault says which argument is bad and why.
-/

namespace ScriptHost.Lua.Library

/-- The name of a builtin in messages, which is also the key under which it is found. -/
def name : Builtin → String
  | .print => "print" | .error => "error" | .pcall => "pcall" | .assert => "assert"
  | .type => "type" | .tostring => "tostring" | .tonumber => "tonumber" | .select => "select"
  | .setmetatable => "setmetatable" | .getmetatable => "getmetatable" | .rawget => "rawget"
  | .rawset => "rawset" | .rawequal => "rawequal" | .rawlen => "rawlen" | .next => "next"
  | .pairs => "pairs" | .ipairs => "ipairs" | .ipairsStep => "for iterator"
  | .stringRep => "rep" | .stringByte => "byte" | .stringChar => "char" | .stringSub => "sub"
  | .stringLen => "len" | .stringUpper => "upper" | .stringLower => "lower"
  | .stringReverse => "reverse"
  | .tableInsert => "insert" | .tableRemove => "remove" | .tableConcat => "concat"
  | .tableUnpack => "unpack"
  | .mathFloor => "floor" | .mathCeil => "ceil" | .mathAbs => "abs" | .mathMax => "max"
  | .mathMin => "min" | .mathType => "type" | .mathToInteger => "tointeger"
  | .write => "write" | .flush => "flush"
  | .host (.setTimer false) => "setTimeout" | .host (.setTimer true) => "setInterval"
  | .host .clearTimer => "clearTimeout"
  | .host .connect => "tcp_connect" | .host .listen => "tcp_listen" | .host .accept => "tcp_accept"
  | .host .read => "tcp_read" | .host .write => "tcp_write"
  | .host (.close .stream) => "tcp_close" | .host (.close .listener) => "tcp_close_listener"
  | .host (.close .datagram) => "udp_close"
  | .host .bind => "udp_bind" | .host .send => "udp_send" | .host .receive => "udp_recv"
  | .host .fetch => "http_request"

/-- A fault of an argument, which is counted from 1. -/
def badArgument (f : Builtin) (number : Nat) (why : String) : String :=
  "bad argument #" ++ toString number ++ " to '" ++ name f ++ "' (" ++ why ++ ")"

/-- Looking at the arguments of a builtin. -/
abbrev Reading := Except String

/-- What is found in place of an argument. -/
def found (args : List Val) (i : Nat) : String :=
  match args[i]? with
  | some v => v.typeName
  | none => "no value"

/-- An argument of the wrong type. -/
def wrongType {α : Type} (f : Builtin) (args : List Val) (i : Nat) (expected : String) :
    Reading α :=
  .error (badArgument f (i + 1) (expected ++ " expected, got " ++ found args i))

/-- An argument that must be there. -/
def anyArg (f : Builtin) (args : List Val) (i : Nat) : Reading Val :=
  match args[i]? with
  | some v => .ok v
  | none => .error (badArgument f (i + 1) "value expected")

/-- A table as an argument. -/
def tableArg (f : Builtin) (args : List Val) (i : Nat) : Reading Nat :=
  match args[i]? with
  | some (.table ref) => .ok ref
  | _ => wrongType f args i "table"

/-- A string as an argument. -/
def textArg (f : Builtin) (args : List Val) (i : Nat) : Reading ByteArray :=
  match (args[i]?).bind Val.text? with
  | some s => .ok s
  | none => wrongType f args i "string"

/-- A number as an argument. -/
def numberArg (f : Builtin) (args : List Val) (i : Nat) : Reading Number :=
  match (args[i]?).bind Val.number? with
  | some n => .ok n
  | none => wrongType f args i "number"

/-- An integer as an argument. -/
def intArg (f : Builtin) (args : List Val) (i : Nat) : Reading Int := do
  match (← numberArg f args i).toInteger? with
  | some n => .ok n
  | none => .error (badArgument f (i + 1) "number has no integer representation")

/-- An integer as an argument that may be left out. -/
def optInt (f : Builtin) (args : List Val) (i : Nat) (standard : Int) : Reading Int :=
  match args[i]? with
  | none | some .nil => .ok standard
  | some _ => intArg f args i

/-- The start of a range in a string; a negative one is counted from the end. -/
def rangeStart (i : Int) (length : Nat) : Nat :=
  if 0 < i then i.toNat else if i = 0 then 1 else if i < -(length : Int) then 1
  else (length + 1 + i).toNat

/-- The end of a range in a string; a negative one is counted from the end. -/
def rangeEnd (i : Int) (length : Nat) : Nat :=
  if (length : Int) < i then length else if 0 ≤ i then i.toNat
  else if i < -(length : Int) then 0 else (length + 1 + i).toNat

/-- The items of a range in a list. -/
def slice {α : Type} (xs : List α) (first last : Nat) : List α :=
  (xs.take last).drop (first - 1)

/-- Bytes changed one by one. -/
def mapBytes (g : UInt8 → UInt8) (s : ByteArray) : ByteArray := ⟨s.data.map g⟩

/-- A string several times, with a separator in between. -/
def repeated (s separator : ByteArray) (count : Nat) : ByteArray :=
  (List.range count).foldl
    (fun acc i => if i = 0 then acc ++ s else acc ++ separator ++ s) ByteArray.empty

/-- The greatest length of a string that is made by repeating. -/
def maxLength : Nat := 268435456

/-- The number that digits stand for in a base, if they do. -/
def ofBase? (base : Nat) (cs : List Char) : Option Int :=
  let value? (c : Char) : Option Nat :=
    let v := if c.isDigit then some (c.toNat - '0'.toNat)
      else if c.isAlpha then some (c.toLower.toNat - 'a'.toNat + 10) else none
    v.filter (· < base)
  let (negative, digits) := match trim cs with
    | '-' :: rest => (true, rest)
    | rest => (false, rest)
  if digits.isEmpty then none
  else do
    let n ← digits.foldlM (fun n c => do return n * base + (← value? c)) 0
    some (wrap (if negative then -(n : Int) else n))

/-- The number that comes first, by an order, among an argument and those after it. -/
def best (f : Builtin) (before : Number → Number → Bool) (args : List Val) : Reading Number := do
  let first ← numberArg f args 0
  (List.range (args.length - 1)).foldlM
    (fun so_far i => do
      let n ← numberArg f args (i + 1)
      return if before n so_far then n else so_far)
    first

/-- Round a number by a rounding of binary64 numbers. -/
def rounded (g : Float → Float) : Number → Number
  | .int n => .int n
  | .float x =>
      match integer? (g x) with
      | some n => .int n
      | none => .float (g x)

/-- The key and value that follow a key in a table. -/
def nextPair (t : Tab) (after : Val) : Reading (List Val) :=
  let pairs := t.pairs
  let rest := match Key.ofVal after with
    | .ok k => (pairs.dropWhile fun (e : Key × Val) => e.1 ≠ k).drop 1
    | .error _ => pairs
  match rest with
  | (k, v) :: _ => .ok [k.toVal, v]
  | [] => .ok [.nil]

/-- What a builtin of this kind does: its values, and the table that it changes, if it does. -/
abbrev Effect := List Val × Option (Nat × (Tab → Tab))

/-- Run a builtin of this kind.  One of another kind does nothing. -/
def run (f : Builtin) (args : List Val) (h : Heap) : Reading Effect :=
  let values (r : Reading (List Val)) : Reading Effect := r.map fun vs => (vs, none)
  let one (r : Reading Val) : Reading Effect := values (r.map ([·]))
  let text (g : ByteArray → ByteArray) : Reading Effect :=
    one ((textArg f args 0).map fun s => Val.str (g s))
  match f with
  | .type => one ((anyArg f args 0).map fun v => Val.ofString v.typeName)
  | .tonumber => one do
      let v ← anyArg f args 0
      match args[1]? with
      | none | some .nil =>
          return (v.number?.map Val.number).getD .nil
      | some _ =>
          let base ← intArg f args 1
          let s ← textArg f args 0
          if base < 2 ∨ 36 < base then .error (badArgument f 2 "base out of range")
          else
            let n := (Text.strict? s).bind fun s => ofBase? base.toNat s.toList
            return (n.map Val.ofInt).getD .nil
  | .select => values do
      match args with
      | .str s :: rest =>
          if s = "#".toUTF8 then return [Val.ofInt rest.length]
          else
            let n ← intArg f args 0
            choose n rest
      | _ => choose (← intArg f args 0) args.tail
  | .rawequal => one do
      return .bool ((← anyArg f args 0).rawEq (← anyArg f args 1))
  | .rawlen => one do
      match (args[0]? : Option Val) with
      | some (.table ref) => return Val.ofInt (h.tab ref).length
      | some (.str s) => return Val.ofInt s.size
      | _ => .error (badArgument f 1 "table or string expected")
  | .rawget => one do
      let t ← tableArg f args 0
      match Key.ofVal (← anyArg f args 1) with
      | .ok k => return (h.tab t).get k
      | .error _ => return .nil
  | .rawset => do
      let t ← tableArg f args 0
      let k ← anyArg f args 1
      let v ← anyArg f args 2
      match Key.ofVal k with
      | .ok k => return ([.table t], some (t, fun tab => tab.set k v))
      | .error .isNil => .error "table index is nil"
      | .error .isNaN => .error "table index is NaN"
  | .next => values do
      let t ← tableArg f args 0
      nextPair (h.tab t) ((args[1]?).getD .nil)
  | .setmetatable => do
      let t ← tableArg f args 0
      match (args[1]? : Option Val) with
      | some .nil => return ([.table t], some (t, fun tab => { tab with metatable := none }))
      | some (.table m) => return ([.table t], some (t, fun tab => { tab with metatable := some m }))
      | _ => wrongType f args 1 "nil or table"
  | .getmetatable => one do
      match ← anyArg f args 0 with
      | .table t =>
          match (h.tab t).metatable with
          | some m => return .table m
          | none => return .nil
      | _ => return .nil
  | .stringRep => one do
      let s ← textArg f args 0
      let n ← intArg f args 1
      let separator ← match args[2]? with
        | none | some .nil => pure ByteArray.empty
        | some _ => textArg f args 2
      if (maxLength : Int) ≤ (s.size + separator.size) * n then .error "resulting string too large"
      else return .str (repeated s separator n.toNat)
  | .stringByte => values do
      let s ← textArg f args 0
      let i ← optInt f args 1 1
      let j ← optInt f args 2 i
      return (slice s.toList (rangeStart i s.size) (rangeEnd j s.size)).map fun b =>
        Val.ofInt b.toNat
  | .stringSub => one do
      let s ← textArg f args 0
      let i ← intArg f args 1
      let j ← optInt f args 2 (-1)
      return .str ⟨(slice s.toList (rangeStart i s.size) (rangeEnd j s.size)).toArray⟩
  | .stringChar => one do
      let bytes ← (List.range args.length).mapM fun i => do
        let n ← intArg f args i
        if n < 0 ∨ 255 < n then .error (badArgument f (i + 1) "value out of range")
        else return n.toNat.toUInt8
      return .str ⟨bytes.toArray⟩
  | .stringLen => one ((textArg f args 0).map fun s => Val.ofInt s.size)
  | .stringUpper => text (mapBytes fun b => if 97 ≤ b && b ≤ 122 then b - 32 else b)
  | .stringLower => text (mapBytes fun b => if 65 ≤ b && b ≤ 90 then b + 32 else b)
  | .stringReverse => text fun s => ⟨s.data.reverse⟩
  | .tableInsert => do
      let t ← tableArg f args 0
      let size : Int := (h.tab t).length
      match args.length with
      | 2 =>
          let v := (args[1]?).getD .nil
          return ([], some (t, fun tab => tab.set (.int (size + 1)) v))
      | 3 =>
          let at_ ← intArg f args 1
          let v := (args[2]?).getD .nil
          if at_ < 1 ∨ size + 1 < at_ then .error (badArgument f 2 "position out of bounds")
          else return ([], some (t, fun tab => withItems tab fun items =>
            items.take (at_ - 1).toNat ++ [v] ++ items.drop (at_ - 1).toNat))
      | _ => .error "wrong number of arguments to 'insert'"
  | .tableRemove => do
      let t ← tableArg f args 0
      let size : Int := (h.tab t).length
      let at_ ← optInt f args 1 size
      if size + 1 ≠ at_ && (at_ < 1 || size + 1 < at_) && !(size = 0 && at_ = 0) then
        .error (badArgument f 2 "position out of bounds")
      else
        let v := (h.tab t).get (.int at_)
        if 1 ≤ at_ ∧ at_ ≤ size then
          return ([v], some (t, fun tab => withItems tab fun items =>
            items.take (at_ - 1).toNat ++ items.drop at_.toNat))
        else return ([v], none)
  | .tableConcat => one do
      let t ← tableArg f args 0
      let separator ← match args[1]? with
        | none | some .nil => pure ByteArray.empty
        | some _ => textArg f args 1
      let tab := h.tab t
      let first ← optInt f args 2 1
      let last ← optInt f args 3 tab.length
      let pieces ← (List.range (last - first + 1).toNat).mapM fun i => do
        let v := tab.get (.int (first + (i : Nat)))
        match v.text? with
        | some s => pure s
        | none => .error ("invalid value (at index " ++ toString (first + (i : Nat)) ++
            ") in table for 'concat'")
      return .str (pieces.zipIdx.foldl
        (fun acc (s, i) => if i = 0 then acc ++ s else acc ++ separator ++ s) ByteArray.empty)
  | .tableUnpack => values do
      let t ← tableArg f args 0
      let tab := h.tab t
      let first ← optInt f args 1 1
      let last ← optInt f args 2 tab.length
      if 1000000 ≤ last - first then .error "too many results to unpack"
      else return (List.range (last - first + 1).toNat).map fun i => tab.get (.int (first + (i : Nat)))
  | .mathFloor => one ((numberArg f args 0).map fun n => .number (rounded Float.floor n))
  | .mathCeil => one ((numberArg f args 0).map fun n => .number (rounded Float.ceil n))
  | .mathAbs => one ((numberArg f args 0).map fun n => .number (match n with
      | .int n => .int (if n < 0 then wrap (-n) else n)
      | .float x => .float x.abs))
  | .mathMax => one ((best f (fun a b => b.lt a) args).map .number)
  | .mathMin => one ((best f (fun a b => a.lt b) args).map .number)
  | .mathType => one ((anyArg f args 0).map fun v => match v with
      | .number (.int _) => .ofString "integer"
      | .number (.float _) => .ofString "float"
      | _ => .nil)
  | .mathToInteger => one ((anyArg f args 0).map fun v => match v with
      | .number n => (n.toInteger?.map Val.ofInt).getD .nil
      | _ => .nil)
  | _ => .ok ([], none)
where
  withItems (tab : Tab) (g : List Val → List Val) : Tab :=
    let items := g tab.items.toList
    { tab with items := Tab.trimItems items.length items.toArray }
  choose (n : Int) (rest : List Val) : Reading (List Val) :=
    let start : Int := if n < 0 then (rest.length : Int) + n else n - 1
    if n = 0 ∨ start < 0 then .error (badArgument .select 1 "index out of range")
    else .ok (rest.drop start.toNat)

/-- The library as the global variables that hold it. -/
def globals : List (String × Builtin) :=
  [Builtin.print, .error, .pcall, .assert, .type, .tostring, .tonumber, .select, .setmetatable,
    .getmetatable, .rawget, .rawset, .rawequal, .rawlen, .next, .pairs, .ipairs,
    .host (.setTimer false), .host (.setTimer true), .host .clearTimer, .host .connect,
    .host .listen, .host .accept, .host .read, .host .write, .host (.close .stream),
    .host (.close .listener), .host (.close .datagram), .host .bind, .host .send, .host .receive,
    .host .fetch].map (fun f => (name f, f)) ++ [("clearInterval", .host .clearTimer)]

/-- The builtins that are found in tables, by the names of the tables. -/
def modules : List (String × List Builtin) :=
  [("string", [.stringRep, .stringByte, .stringChar, .stringSub, .stringLen, .stringUpper,
      .stringLower, .stringReverse]),
    ("table", [.tableInsert, .tableRemove, .tableConcat, .tableUnpack]),
    ("math", [.mathFloor, .mathCeil, .mathAbs, .mathMax, .mathMin, .mathType, .mathToInteger]),
    ("io", [.write])]

/-- A table with builtins under their names. -/
def tableOf (fs : List Builtin) : Tab :=
  fs.foldl (fun t f => t.set (.str (name f).toUTF8) (.builtin f)) .empty

/-- A heap in which the library is there and nothing else. -/
def heap (settings : NetworkSettings) : Heap :=
  let start : Heap := ⟨#[.empty], #[], #[], [], settings⟩
  let put (h : Heap) (n : String) (v : Val) : Heap :=
    h.modifyTab Heap.globals fun t => t.set (.str n.toUTF8) v
  let h := globals.foldl (fun h (n, f) => put h n (.builtin f)) start
  let h := modules.foldl
    (fun h (n, fs) => let (t, h) := h.newTable (tableOf fs); put h n t) h
  let (standardOutput, h) := h.newTable (tableOf [.write, .flush])
  let within (h : Heap) (outer inner : String) (v : Val) : Heap :=
    match h.field Heap.globals outer with
    | .table ref => h.modifyTab ref fun t => t.set (.str inner.toUTF8) v
    | _ => h
  let h := within h "io" "stdout" standardOutput
  let h := within h "math" "huge" (.number (.float (1.0 / 0.0)))
  let h := within h "math" "pi" (.number (.float 3.141592653589793))
  let h := within h "math" "maxinteger" (Val.ofInt maxSigned)
  let h := within h "math" "mininteger" (Val.ofInt minSigned)
  let h := put h "_VERSION" (.ofString "Lua 5.4")
  put h "_G" (.table Heap.globals)

end ScriptHost.Lua.Library
