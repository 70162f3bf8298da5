import ScriptHost.Lua.Data
import ScriptHost.Lua.Grammar

/-!
# The Lua guest

Submitted source is a chunk, or an expression whose value is the result.  Closures are functions, and
what one chunk leaves in global variables the next one finds there.
-/

namespace ScriptHost.Lua

open Desk (Language)
open Ready (Outcome)

/-- A computation as a program: a raised value ends it with a text. -/
def Run.program (m : Run Value) : Heap → Program := fun h =>
  m h (fun v h => .finish (.returned v) h) fun v h =>
    raisedText v h (fun message h => .finish (.raised message) h) fun _ h =>
      .finish (.raised "") h

/-- Run source under a name. -/
def execute (request : Guest.Request) : Heap → Program :=
  match Grammar.load? request.source with
  | none => fun h => .finish (.raised "syntax error") h
  | some block => Run.program do
      let vs ← runChunk request.chunk block
      resultDatum (first vs)

/-- Call a closure with what has become of an operation. -/
def callClosure (closure : Val) (outcome : Option Outcome) : Heap → Program :=
  Run.program do
    let args ← Run.update fun h => outcomeArguments h outcome
    let _ ← call bound [] "" closure args
    return .null

/-- Lua as a guest language. -/
def language : Language Val Heap where
  execute := execute
  call := callClosure

/-- What has been written since the output was last taken. -/
def takeOutput (h : Heap) : ByteArray × Heap :=
  (h.output.reverse.foldl (· ++ ·) ByteArray.empty, { h with output := [] })

end ScriptHost.Lua
