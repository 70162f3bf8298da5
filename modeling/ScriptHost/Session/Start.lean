import ScriptHost.Host.Exact
import ScriptHost.Lua.Guest
import ScriptHost.Lua.Library

/-!
# The host of a session

The guest of a session speaks Lua.  What it writes is kept until it is passed on.
-/

namespace ScriptHost.Session

/-- The state of the guest of a session. -/
abbrev LuaState := Desk.State Lua.Val Lua.Heap

/-- The guest of a session. -/
def guest : Guest LuaState := Lua.language.guest

/-- The guest before it has run anything. -/
def freshState (settings : NetworkSettings) : LuaState := .start (Lua.Library.heap settings)

/-- A host that has just started. -/
def freshHost (settings : HostSettings) : ExactHost LuaState :=
  ⟨.fresh settings.jobRoom (freshState settings.network), .none, settings⟩

/-- What the guest has written since this was last asked for. -/
def takeOutput (x : ExactHost LuaState) : ByteArray × ExactHost LuaState :=
  let (bytes, memory) := Lua.takeOutput x.host.guest.memory
  (bytes, { x with host := { x.host with guest := { x.host.guest with memory } } })

end ScriptHost.Session
