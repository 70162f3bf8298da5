import ScriptHost.Lua.Library
import ScriptHost.Lua.Run

/-!
# Running Lua

Chunks are run by recursion with a bound on its depth, in which each turn of a loop counts as one
level.  What needs more than the bound allows is taken to go on for ever.  There is a pause in each
call of a function and in each turn of a loop.

Messages say where something went wrong and, if a value of the wrong type came from a variable or a
field, which one it was.
-/

namespace ScriptHost.Lua

/-- What a statement sees. -/
structure Frame where
  scope : List Binding
  depth : Nat
  varargs : List Val
  /-- The name of the chunk as it is shown. -/
  chunk : String
  /-- Where the function was called, the last call first; nothing for a call that is not in Lua. -/
  sites : List String

/-- How a block ends. -/
inductive Flow where
  | next
  | broken
  | returned (values : List Val)

namespace Frame

/-- The variable with a name. -/
def find? (f : Frame) (name : String) : Option Binding := f.scope.find? (·.name = name)

/-- The sites for a call on a line. -/
def sitesAt (f : Frame) (line : Nat) : List String := site f.chunk line :: f.sites

/-- Where the value of an expression came from, for messages. -/
def origin (f : Frame) : Expr → String
  | .name n =>
      match f.find? n with
      | some b => if b.depth = f.depth then " (local '" ++ n ++ "')" else " (upvalue '" ++ n ++ "')"
      | none => " (global '" ++ n ++ "')"
  | .index _ _ (.str s) => " (field '" ++ Text.lossy s ++ "')"
  | .method _ _ n _ => " (method '" ++ n ++ "')"
  | .str s => " (constant '" ++ Text.lossy s ++ "')"
  | _ => ""

end Frame

/-- Raise text with the place of the innermost call in front. -/
def failAt {α : Type} (sites : List String) (message : String) : Run α :=
  Run.fail (sites.head?.getD "" ++ message)

/-- The first of several values. -/
def first (vs : List Val) : Val := vs.head?.getD .nil

/-- Declare a variable. -/
def declare (f : Frame) (name : String) (v : Val) : Run Frame := do
  let cell ← Run.update fun h => h.newCell v
  return { f with scope := ⟨name, cell, f.depth⟩ :: f.scope }

/-- Declare several variables; values that are missing are `nil`. -/
def declareAll (f : Frame) : List String → List Val → Run Frame
  | [], _ => pure f
  | name :: names, vs => do declareAll (← declare f name (first vs)) names vs.tail

/-- The key that a value is where it is set. -/
def keyOf (sites : List String) (v : Val) : Run Key :=
  match Key.ofVal v with
  | .ok k => pure k
  | .error .isNil => failAt sites "table index is nil"
  | .error .isNaN => failAt sites "table index is NaN"

/-- The text of a value that does not say it itself. -/
def plainText (h : Heap) (v : Val) : ByteArray :=
  let text : String := match v with
    | .nil => "nil"
    | .bool true => "true"
    | .bool false => "false"
    | .number n => n.text
    | .str s => Text.lossy s
    | .table ref => h.typeName v ++ ": " ++ address ref
    | .closure ref => "function: " ++ address (ref + 0x100000)
    | .builtin f => "function: " ++ address (0x200000 + (Library.name f).length)
    | .fault message => message
  match v with
  | .str s => s
  | _ => text.toUTF8

/-- The text in a raised value that `error` was given, with a place in front of text. -/
def placed (sites : List String) (v : Val) (level : Int) : Val :=
  match v with
  | .str s =>
      if level ≤ 0 then v
      else .str (((sites[(level - 1).toNat]?).getD "").toUTF8 ++ s)
  | v => v

/-- What sets a key in place of a table itself, if anything does. -/
def Heap.setter (h : Heap) (o k : Val) : Val :=
  let present : Bool := match o, Key.ofVal k with
    | .table ref, .ok key =>
        match (h.tab ref).get key with
        | .nil => false
        | _ => true
    | _, _ => false
  if present then .nil else h.metafield o "__newindex"

/-- Whether a numeric loop goes on. -/
def inRange (i last step : Number) : Bool :=
  if Number.lt (.int 0) step then i.le last else last.le i

/-- The next value of a numeric loop, if there is one: integers do not wrap. -/
def advance? (i last step : Number) : Option Number :=
  match i, step with
  | .int m, .int s =>
      let n := m + s
      if minSigned ≤ n ∧ n ≤ maxSigned ∧ inRange (.int n) last step then some (.int n) else none
  | i, s =>
      let n : Number := .float (i.toFloat + s.toFloat)
      if inRange n last step then some n else none

/-- How deep recursion may go. -/
def bound : Nat := 2000000

mutual

/-- The value of an expression. -/
def eval : Nat → Frame → Expr → Run Val
  | 0, _, _ => Run.endless
  | n + 1, f, e => do
      match e with
      | .nil => return .nil
      | .bool b => return .bool b
      | .int k => return Val.ofInt k
      | .float x => return .number (.float x)
      | .str s => return .str s
      | .varargs => return first f.varargs
      | .name name =>
          match f.find? name with
          | some b => Run.look fun h => h.cell b.cell
          | none => index n (f.sitesAt 0) "" (.table Heap.globals) (.ofString name)
      | .index line object key => do
          let o ← eval n f object
          let k ← eval n f key
          index n (f.sitesAt line) (f.origin object) o k
      | .call _ _ _ | .method _ _ _ _ => return first (← evalMulti n f e)
      | .function body =>
          Run.update fun h => h.newClosure ⟨body, f.scope, f.depth + 1, f.chunk⟩
      | .binary line op left right => do
          match op with
          | .and =>
              let a ← eval n f left
              if a.truthy then eval n f right else return a
          | .or =>
              let a ← eval n f left
              if a.truthy then return a else eval n f right
          | _ =>
              let a ← eval n f left
              let b ← eval n f right
              binary n (f.sitesAt line) op (f.origin left) (f.origin right) a b
      | .unary line op operand => do
          let a ← eval n f operand
          unary n (f.sitesAt line) op (f.origin operand) a
      | .table items => do
          let (positional, keyed) ← evalItems n f items
          let run := Tab.trimItems positional.length positional.toArray
          let t ← Run.update fun h => h.newTable { Tab.empty with items := run }
          match t with
          | .table ref =>
              Run.modify fun h =>
                h.modifyTab ref fun t => keyed.foldl (fun t e => t.set e.1 e.2) t
              return t
          | t => return t
      | .paren e => eval n f e

/-- The items of a table constructor: those without keys, and those with keys. -/
def evalItems : Nat → Frame → List Item → Run (List Val × List (Key × Val))
  | 0, _, _ => Run.endless
  | _ + 1, _, [] => return ([], [])
  | n + 1, f, [.positional e] => return (← evalMulti n f e, [])
  | n + 1, f, .positional e :: rest => do
      let v ← eval n f e
      let (vs, ks) ← evalItems n f rest
      return (v :: vs, ks)
  | n + 1, f, .keyed k e :: rest => do
      let k ← eval n f k
      let key ← keyOf (f.sitesAt 0) k
      let v ← eval n f e
      let (vs, ks) ← evalItems n f rest
      return (vs, (key, v) :: ks)

/-- All values of an expression. -/
def evalMulti : Nat → Frame → Expr → Run (List Val)
  | 0, _, _ => Run.endless
  | n + 1, f, e => do
      match e with
      | .varargs => return f.varargs
      | .call line function arguments => do
          let g ← eval n f function
          let vs ← evalList n f arguments
          call n (f.sitesAt line) (f.origin function) g vs
      | .method line object name arguments => do
          let o ← eval n f object
          let g ← index n (f.sitesAt line) (f.origin object) o (.ofString name)
          let vs ← evalList n f arguments
          call n (f.sitesAt line) (f.origin e) g (o :: vs)
      | e => return [← eval n f e]

/-- The values of expressions: one each, and all of the last one. -/
def evalList : Nat → Frame → List Expr → Run (List Val)
  | 0, _, _ => Run.endless
  | _ + 1, _, [] => return []
  | n + 1, f, [e] => evalMulti n f e
  | n + 1, f, e :: rest => do
      let v ← eval n f e
      return v :: (← evalList n f rest)

/-- The value of a key in a value that may be no table. -/
def index : Nat → List String → String → Val → Val → Run Val
  | 0, _, _, _, _ => Run.endless
  | n + 1, sites, origin, o, k => do
      let h ← Run.heap
      let raw : Val := match o, Key.ofVal k with
        | .table ref, .ok key => (h.tab ref).get key
        | _, _ => .nil
      match o, raw with
      | .table _, .nil =>
          match h.metafield o "__index" with
          | .nil => return .nil
          | .closure r => return first (← call n sites "" (.closure r) [o, k])
          | .builtin b => return first (← call n sites "" (.builtin b) [o, k])
          | other => index n sites "" other k
      | .table _, v => return v
      | _, _ =>
          match h.metafield o "__index" with
          | .nil => failAt sites ("attempt to index a " ++ h.typeName o ++ " value" ++ origin)
          | other => index n sites "" other k

/-- Set a key in a value that may be no table. -/
def setIndex : Nat → List String → String → Val → Val → Val → Run Unit
  | 0, _, _, _, _, _ => Run.endless
  | n + 1, sites, origin, o, k, v => do
      match o, ← Run.look fun h => h.setter o k with
      | .table ref, .nil => do
          let key ← keyOf sites k
          Run.modify fun h => h.modifyTab ref fun t => t.set key v
      | _, .nil => do
          let type ← Run.look fun h => h.typeName o
          failAt sites ("attempt to index a " ++ type ++ " value" ++ origin)
      | _, .closure r => do
          let _ ← call n sites "" (.closure r) [o, k, v]
          return ()
      | _, .builtin b => do
          let _ ← call n sites "" (.builtin b) [o, k, v]
          return ()
      | _, other => setIndex n sites "" other k v

/-- Apply an operator with two operands. -/
def binary : Nat → List String → BinaryOp → String → String → Val → Val → Run Val
  | 0, _, _, _, _, _, _ => Run.endless
  | n + 1, sites, op, leftOrigin, rightOrigin, a, b => do
      let h ← Run.heap
      let own : Val := match h.metafield a op.event with
        | .nil => h.metafield b op.event
        | m => m
      match op with
      | .eq | .ne => do
          let same ←
            if a.rawEq b then pure true
            else match a, b, own with
              | .table _, .table _, .nil => pure false
              | .table _, .table _, m => do
                  pure (first (← call n sites "" m [a, b])).truthy
              | _, _, _ => pure false
          return .bool (if op = .eq then same else !same)
      | .lt | .le | .gt | .ge =>
          match compare? op a b, own with
          | some r, _ => return .bool r
          | none, .nil =>
              let (x, y) := if op = .lt || op = .le then (a, b) else (b, a)
              let (tx, ty) := (h.typeName x, h.typeName y)
              failAt sites
                (if tx = ty then "attempt to compare two " ++ tx ++ " values"
                 else "attempt to compare " ++ tx ++ " with " ++ ty)
          | none, m =>
              let args := if op = .lt || op = .le then [a, b] else [b, a]
              return .bool (first (← call n sites "" m args)).truthy
      | .concat =>
          match a.text?, b.text?, own with
          | some s, some t, _ => return .str (s ++ t)
          | s, _, .nil =>
              let (bad, origin) := if s.isSome then (b, rightOrigin) else (a, leftOrigin)
              failAt sites ("attempt to concatenate a " ++ h.typeName bad ++ " value" ++ origin)
          | _, _, m => return first (← call n sites "" m [a, b])
      | op =>
          match arithmeticVal op a b, own with
          | .ok v, _ => return v
          | .error .wrongTypes, .nil =>
              let isText (v : Val) : Bool := match v with
                | .str _ => true
                | _ => false
              if (isText a || isText b) && !op.isBitwise then
                failAt sites ("attempt to " ++ (op.event.drop 2).toString ++ " a '" ++ a.typeName ++
                  "' with a '" ++ b.typeName ++ "'")
              else
                let (bad, origin) := if a.number?.isSome then (b, rightOrigin) else (a, leftOrigin)
                failAt sites ("attempt to " ++ op.verb ++ " a " ++ h.typeName bad ++ " value" ++ origin)
          | .error .wrongTypes, m => return first (← call n sites "" m [a, b])
          | .error why, _ => failAt sites why.message

/-- Apply an operator with one operand. -/
def unary : Nat → List String → UnaryOp → String → Val → Run Val
  | 0, _, _, _, _ => Run.endless
  | n + 1, sites, op, origin, a => do
      let h ← Run.heap
      match op with
      | .not => return .bool (!a.truthy)
      | .neg =>
          match a.number?, h.metafield a "__unm" with
          | some (.int k), _ => return Val.ofInt (wrap (-k))
          | some (.float x), _ => return .number (.float (-x))
          | none, .nil =>
              match a with
              | .str _ => failAt sites "attempt to unm a 'string' with a 'string'"
              | _ =>
                  failAt sites
                    ("attempt to perform arithmetic on a " ++ h.typeName a ++ " value" ++ origin)
          | none, m => return first (← call n sites "" m [a, a])
      | .bitNot =>
          match a.number? with
          | some k =>
              match k.toInteger? with
              | some k => return Val.ofInt (wrap (-k - 1))
              | none => failAt sites OperatorFault.notInteger.message
          | none =>
              failAt sites
                ("attempt to perform bitwise operation on a " ++ h.typeName a ++ " value" ++ origin)
      | .length =>
          match a, h.metafield a "__len" with
          | .str s, _ => return Val.ofInt s.size
          | .table ref, .nil => return Val.ofInt (h.tab ref).length
          | _, .nil => failAt sites ("attempt to get length of a " ++ h.typeName a ++ " value" ++ origin)
          | _, m => return first (← call n sites "" m [a])

/-- Call a value with arguments. -/
def call : Nat → List String → String → Val → List Val → Run (List Val)
  | 0, _, _, _, _ => Run.endless
  | n + 1, sites, origin, g, args => do
      match g with
      | .closure ref =>
          Run.pause
          let c ← Run.look fun h => h.closures[ref]?.getD default
          match c.body with
          | .mk names variadic block =>
              let f : Frame :=
                ⟨c.scope, c.depth, if variadic then args.drop names.length else [], c.chunk, sites⟩
              let f ← declareAll f names args
              match ← runBlock n f block with
              | .returned vs => return vs
              | _ => return []
      | .builtin b => callBuiltin n sites b args
      | g =>
          let h ← Run.heap
          match h.metafield g "__call" with
          | .nil => failAt sites ("attempt to call a " ++ h.typeName g ++ " value" ++ origin)
          | m => call n sites "" m (g :: args)

/-- The text of a value: tables may say it themselves. -/
def textOf : Nat → List String → Val → Run ByteArray
  | 0, _, _ => Run.endless
  | n + 1, sites, v => do
      let h ← Run.heap
      match h.metafield v "__tostring" with
      | .nil => return plainText h v
      | m =>
          match first (← call n ("" :: sites) "" m [v]) with
          | .str s => return s
          | .number k => return k.text.toUTF8
          | _ => failAt sites "'__tostring' must return a string"

/-- The texts of values. -/
def textsOf : Nat → List String → List Val → Run (List ByteArray)
  | 0, _, _ => Run.endless
  | _ + 1, _, [] => return []
  | n + 1, sites, v :: rest => do
      let s ← textOf n sites v
      return s :: (← textsOf n sites rest)

/-- Call a builtin. -/
def callBuiltin : Nat → List String → Builtin → List Val → Run (List Val)
  | 0, _, _, _ => Run.endless
  | n + 1, sites, b, args => do
      match b with
      | .host g => callHost g args
      | .print => do
          let texts ← textsOf n sites args
          let line := texts.zipIdx.foldl
            (fun acc (s, i) => if i = 0 then acc ++ s else (acc.push 9) ++ s) ByteArray.empty
          Run.modify fun h => { h with output := line.push 10 :: h.output }
          return []
      | .write => do
          let (out, args) := match args with
            | .table ref :: rest => ([Val.table ref], rest)
            | args => ([], args)
          let texts ← textsOf n sites args
          Run.modify fun h => { h with output := texts.reverse ++ h.output }
          return out
      | .flush => return args.take 1
      | .error => do
          let level : Int := match (args[1]?).bind Val.number? with
            | some k => k.toInteger?.getD 1
            | none => 1
          Run.raise (placed sites (first args) level)
      | .assert =>
          match args with
          | v :: rest =>
              if v.truthy then return args
              else match rest with
                | m :: _ => Run.raise m
                | [] => Run.fail "assertion failed!"
          | [] => failAt sites (Library.badArgument b 1 "value expected")
      | .pcall =>
          match args with
          | [] => failAt sites (Library.badArgument b 1 "value expected")
          | g :: args => do
              match ← Run.attempt (call n ("" :: sites) "" g args) with
              | .ok vs => return .bool true :: vs
              | .error v => return [.bool false, v]
      | .tostring =>
          match args with
          | [] => failAt sites (Library.badArgument b 1 "value expected")
          | v :: _ => return [.str (← textOf n sites v)]
      | .pairs =>
          match args with
          | [] => failAt sites (Library.badArgument b 1 "table expected, got no value")
          | v :: _ => do
              let h ← Run.heap
              match h.metafield v "__pairs" with
              | .nil =>
                  match v with
                  | .table _ => return [.builtin .next, v, .nil]
                  | v =>
                      failAt sites
                        (Library.badArgument b 1 ("table expected, got " ++ v.typeName))
              | m =>
                  let vs ← call n sites "" m [v]
                  return [first vs, first (vs.drop 1), first (vs.drop 2)]
      | .ipairs =>
          match args with
          | [] => failAt sites (Library.badArgument b 1 "table expected, got no value")
          | v :: _ => return [.builtin .ipairsStep, v, Val.ofInt 0]
      | .ipairsStep => do
          let i := match (args[1]?).bind Val.number? with
            | some k => k.toInteger?.getD 0
            | none => 0
          match ← index n sites "" (first args) (Val.ofInt (i + 1)) with
          | .nil => return [.nil]
          | v => return [Val.ofInt (i + 1), v]
      | b => do
          match ← Run.look fun h => Library.run b args h with
          | .ok (vs, none) => return vs
          | .ok (vs, some (ref, change)) => do
              Run.modify fun h => h.modifyTab ref change
              return vs
          | .error message => failAt sites message

/-- Assign values to targets, the last target first. -/
def assignAll : Nat → Frame → List (Expr × Val × Val) → List Val → Run Unit
  | 0, _, _, _ => Run.endless
  | _ + 1, _, [], _ => return ()
  | n + 1, f, (target, o, k) :: rest, vs => do
      assignAll n f rest vs.tail
      match target with
      | .name name =>
          match f.find? name with
          | some b => Run.modify fun h => h.setCell b.cell (first vs)
          | none => setIndex n (f.sitesAt 0) "" (.table Heap.globals) (.ofString name) (first vs)
      | .index line object _ => setIndex n (f.sitesAt line) (f.origin object) o k (first vs)
      | _ => return ()

/-- The objects and keys of targets. -/
def evalTargets : Nat → Frame → List Expr → Run (List (Expr × Val × Val))
  | 0, _, _ => Run.endless
  | _ + 1, _, [] => return []
  | n + 1, f, .index line object key :: rest => do
      let o ← eval n f object
      let k ← eval n f key
      return (.index line object key, o, k) :: (← evalTargets n f rest)
  | n + 1, f, e :: rest => do return (e, .nil, .nil) :: (← evalTargets n f rest)

/-- Run the statements of a block. -/
def runBlock : Nat → Frame → List Statement → Run Flow
  | 0, _, _ => Run.endless
  | _ + 1, _, [] => return .next
  | n + 1, f, s :: rest => do
      match s with
      | .locals names es => do
          let vs ← evalList n f es
          runBlock n (← declareAll f names vs) rest
      | .localFunction name body => do
          let f ← declare f name .nil
          let g ← Run.update fun h => h.newClosure ⟨body, f.scope, f.depth + 1, f.chunk⟩
          match f.scope with
          | b :: _ => Run.modify fun h => h.setCell b.cell g
          | [] => pure ()
          runBlock n f rest
      | .return_ es => return .returned (← evalList n f es)
      | .break_ => return .broken
      | s => do
          match ← runStatement n f s with
          | .next => runBlock n f rest
          | flow => return flow

/-- Run a statement that declares nothing. -/
def runStatement : Nat → Frame → Statement → Run Flow
  | 0, _, _ => Run.endless
  | n + 1, f, s => do
      match s with
      | .assign targets es => do
          let ts ← evalTargets n f targets
          let vs ← evalList n f es
          assignAll n f ts vs
          return .next
      | .call e => do
          let _ ← evalMulti n f e
          return .next
      | .block b => runBlock n f b
      | .if_ condition then_ else_ => do
          if (← eval n f condition).truthy then runBlock n f then_ else runBlock n f else_
      | .while_ condition b => whileLoop n f condition b
      | .repeat_ b condition => whileLoop n f (.bool true) (b ++ [.if_ condition [.break_] []])
      | .numericFor line name start last step b => do
          let i ← eval n f start
          let l ← eval n f last
          let s ← match step with
            | some e => eval n f e
            | none => pure (Val.ofInt 1)
          let want (what : String) (v : Val) : Run Number :=
            match v with
            | .number k => pure k
            | _ => failAt (f.sitesAt line)
                ("'for' " ++ what ++ " must be a number")
          let i ← want "initial value" i
          let l ← want "limit" l
          let s ← want "step" s
          if s.eq (.int 0) then failAt (f.sitesAt line) "'for' step is zero"
          else
            let (i, s) : Number × Number := match i, s with
              | .int i, .int s => (.int i, .int s)
              | i, s => (.float i.toFloat, .float s.toFloat)
            if inRange i l s then numericLoop n f name i l s b else return .next
      | .genericFor line names es b => do
          let vs ← evalList n f es
          genericLoop n f line names (first vs) (first (vs.drop 1)) (first (vs.drop 2)) b
      | _ => return .next

/-- Run a block as long as a condition holds. -/
def whileLoop : Nat → Frame → Expr → List Statement → Run Flow
  | 0, _, _, _ => Run.endless
  | n + 1, f, condition, b => do
      Run.pause
      if (← eval n f condition).truthy then
        match ← runBlock n f b with
        | .next => whileLoop n f condition b
        | .broken => return .next
        | flow => return flow
      else return .next

/-- Run a block for a variable that counts. -/
def numericLoop : Nat → Frame → String → Number → Number → Number → List Statement → Run Flow
  | 0, _, _, _, _, _, _ => Run.endless
  | n + 1, f, name, i, last, step, b => do
      Run.pause
      match ← runBlock n (← declare f name (.number i)) b with
      | .next =>
          match advance? i last step with
          | some i => numericLoop n f name i last step b
          | none => return .next
      | .broken => return .next
      | flow => return flow

/-- Run a block for the values that an iterator gives. -/
def genericLoop : Nat → Frame → Nat → List String → Val → Val → Val → List Statement → Run Flow
  | 0, _, _, _, _, _, _, _ => Run.endless
  | n + 1, f, line, names, g, state, control, b => do
      Run.pause
      let vs ← call n (f.sitesAt line) "" g [state, control]
      match first vs with
      | .nil => return .next
      | control =>
          match ← runBlock n (← declareAll f names vs) b with
          | .next => genericLoop n f line names g state control b
          | .broken => return .next
          | flow => return flow

end

/-- Run a chunk: its values. -/
def runChunk (chunk : String) (b : List Statement) : Run (List Val) := do
  match ← runBlock bound ⟨[], 0, [], shownChunk chunk, []⟩ b with
  | .returned vs => return vs
  | _ => return []

end ScriptHost.Lua
