import ScriptHost.Lua.Eval
import ScriptHost.Ready.Callback

/-!
# Lua values as data

A value becomes a datum if it has one: numbers that are not finite are nothing, a table with items or
one that was made from a list is a list of its items, and any other table is an object, whose keys
must be text.  Functions, text that is no UTF-8 and tables that contain themselves have no datum, and
neither has anything that contains one of these.

The other way, a list becomes a table that stays a list, members that are nothing vanish, and whole
numbers beyond the signed range become binary64 numbers.
-/

namespace ScriptHost.Lua

open Ready (Outcome)

/-- The datum of a binary64. -/
def floatDatum (x : Float) : Value :=
  if x.isNaN || x.isInf then .null else .float x.toBits

mutual

/-- The datum of a value that is not deeper than a bound, outside the tables that contain it. -/
def datumFrom? (h : Heap) : Nat → List Nat → Val → Option Value
  | 0, _, _ => none
  | bound + 1, outer, v =>
      match v with
      | .nil => some .null
      | .bool b => some (.bool b)
      | .number (.int n) => some (.int n)
      | .number (.float x) => some (floatDatum x)
      | .str s => (Text.strict? s).map Value.string
      | .table ref =>
          let t := h.tab ref
          if outer.contains ref then none
          else if 0 < t.length || t.isList then
            (listFrom? h bound (ref :: outer) t.items.toList).map Value.array
          else (membersFrom? h bound (ref :: outer) t.pairs).map Value.object
      | _ => none

/-- The data of several values. -/
def listFrom? (h : Heap) : Nat → List Nat → List Val → Option (List Value)
  | _, _, [] => some []
  | bound, outer, v :: rest => do
      let d ← datumFrom? h bound outer v
      return d :: (← listFrom? h bound outer rest)

/-- The members of a table. -/
def membersFrom? (h : Heap) : Nat → List Nat → List (Key × Val) → Option (List (String × Value))
  | _, _, [] => some []
  | bound, outer, (k, v) :: rest => do
      let name ← match k with
        | .str s => Text.strict? s
        | _ => none
      let d ← datumFrom? h bound outer v
      return (name, d) :: (← membersFrom? h bound outer rest)

end

/-- The datum of a value, if it has one. -/
def datum? (h : Heap) (v : Val) : Option Value := datumFrom? h (h.tables.size + 2) [] v

mutual

/-- The value of a datum. -/
def ofDatum (h : Heap) : Value → Val × Heap
  | .null => (.nil, h)
  | .bool b => (.bool b, h)
  | .int n =>
      (.number (if minSigned ≤ n ∧ n ≤ maxSigned then .int n else .float (floatOfInt n)), h)
  | .float bits => (.number (.float (Float.ofBits bits)), h)
  | .string s => (.ofString s, h)
  | .array items =>
      let (vs, h) := ofData h items
      h.newTable { Tab.empty with
        items := Tab.trimItems vs.length vs.toArray
        isList := true }
  | .object members =>
      let (t, h) := ofMembers h .empty members
      h.newTable t

/-- The values of data. -/
def ofData (h : Heap) : List Value → List Val × Heap
  | [] => ([], h)
  | d :: rest =>
      let (v, h) := ofDatum h d
      let (vs, h) := ofData h rest
      (v :: vs, h)

/-- A table with members added. -/
def ofMembers (h : Heap) (t : Tab) : List (String × Value) → Tab × Heap
  | [] => (t, h)
  | (name, d) :: rest =>
      let (v, h) := ofDatum h d
      ofMembers h (t.set (.str name.toUTF8) v) rest

end

/-- The datum of the result of a chunk.  A value without one is shown by what the global function
`tostring` says of it; if that says nothing usable, the result is nothing. -/
def resultDatum (v : Val) : Run Value := do
  let h ← Run.heap
  match datum? h v with
  | some d => return d
  | none =>
      let tostring := h.field Heap.globals "tostring"
      if tostring.typeName ≠ "function" then return .null
      else
        match ← Run.attempt (call bound [""] "" tostring [v]) with
        | .error _ => return .null
        | .ok vs => return (((first vs).text?.bind Text.strict?).map Value.string).getD .null

/-- The text of a raised value. -/
def raisedText (v : Val) : Run String :=
  match v with
  | .fault message => pure message
  | v => do
      let h ← Run.heap
      match ← Run.attempt (textOf bound [""] v) with
      | .ok s => return "runtime error: " ++ Text.lossy s
      | .error _ => return "runtime error: " ++ Text.lossy (plainText h v)

/-- The arguments that a closure is called with: none for a timer, and otherwise whether the operation
succeeded, with its data or its failure. -/
def outcomeArguments (h : Heap) : Option Outcome → List Val × Heap
  | none => ([], h)
  | some .noData | some (.success .nothing) => ([.bool true, .nil], h)
  | some (.success (.bytes data)) => ([.bool true, .str data], h)
  | some (.success (.value d)) =>
      let (v, h) := ofDatum h d
      ([.bool true, v], h)
  | some (.failure reason) => ([.bool false, .ofString reason], h)

end ScriptHost.Lua
