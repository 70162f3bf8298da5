import ScriptHost.Lua.Arguments
import ScriptHost.Lua.Library
import ScriptHost.Proofs.Desk.Grants

/-!
# What host functions ask for

A host function that converts its arguments asks the desk for one thing.  Those that set timers and
those that start operations take a closure, which is one of their arguments (`asksFor_of_ask`).
-/

namespace ScriptHost.Lua

open Desk (Ask)

/-- A conversion after another one succeeds only if both do. -/
theorem exists_of_bind_eq_ok {ε β γ : Type} {x : Except ε β} {f : β → Except ε γ} {r : γ}
    (h : (x >>= f) = .ok r) : ∃ b, x = .ok b ∧ f b = .ok r := by
  cases x with
  | error => cases h
  | ok b => exact ⟨b, rfl, h⟩

/-- Whether a host function takes a closure to be called later. -/
def HostFunction.schedules : HostFunction → Bool
  | .clearTimer | .close _ => false
  | _ => true

/-- A host function asks for a timer or an operation, with a closure. -/
inductive HostFunction.AsksFor (closure : Val) : HostFunction → Ask Val → Prop where
  | timer (repeating : Bool) (delay : Option UInt64) :
      AsksFor closure (.setTimer repeating) (.setTimer closure delay repeating)
  | operation {f : HostFunction} (hf : ∀ repeating, f ≠ .setTimer repeating)
      (request : Network.Request) : AsksFor closure f (.start closure request)

variable {f : HostFunction} {heap : Heap} {args : List Val} {request : Ask Val} {closure : Val}

theorem HostFunction.AsksFor.closure? (h : f.AsksFor closure request) :
    request.closure? = some closure := by
  cases h with
  | timer | operation => rfl

theorem mem_of_get_ne_nil {i : Nat} (hget : Arguments.get args i ≠ .nil) :
    Arguments.get args i ∈ args := by
  rw [Arguments.get] at hget ⊢
  cases hat : args[i]? with
  | none =>
      rw [hat] at hget
      exact absurd rfl hget
  | some v => exact List.mem_of_getElem? hat

/-- A function that has been taken from the arguments is one of them. -/
theorem mem_of_function {i : Nat} (hfunction : Arguments.function args i = .ok closure) :
    closure ∈ args := by
  rw [Arguments.function] at hfunction
  split at hfunction
  · rename_i r hget
    cases hfunction
    exact hget ▸ mem_of_get_ne_nil (by rw [hget]; exact Val.noConfusion)
  · rename_i b hget
    cases hfunction
    exact hget ▸ mem_of_get_ne_nil (by rw [hget]; exact Val.noConfusion)
  · cases hfunction

/-- The closure is converted before the request is made. -/
theorem mem_of_start {i : Nat} {make : Val → Ask Val}
    (hask : (Arguments.function args i >>= fun closure => pure (make closure)) = Except.ok request) :
    ∃ closure ∈ args, request = make closure := by
  obtain ⟨closure, hclosure, hrequest⟩ := exists_of_bind_eq_ok hask
  cases hrequest
  exact ⟨closure, mem_of_function hclosure, rfl⟩

theorem start_of_address {make : String → Nat → Network.Request}
    (hask : HostFunction.ask.address args make = .ok request) :
    ∃ closure ∈ args, ∃ r, request = .start closure r := by
  obtain ⟨host, -, hask⟩ := exists_of_bind_eq_ok hask
  obtain ⟨port, -, hask⟩ := exists_of_bind_eq_ok hask
  obtain ⟨closure, hmem, rfl⟩ := mem_of_start hask
  exact ⟨closure, hmem, _, rfl⟩

theorem start_of_receiving {make : Nat → Nat → Network.Request}
    (hask : HostFunction.ask.receiving heap args make = .ok request) :
    ∃ closure ∈ args, ∃ r, request = .start closure r := by
  obtain ⟨id, -, hask⟩ := exists_of_bind_eq_ok hask
  obtain ⟨size, -, hask⟩ := exists_of_bind_eq_ok hask
  obtain ⟨closure, hmem, rfl⟩ := mem_of_start hask
  exact ⟨closure, hmem, _, rfl⟩

/-- A host function that takes a closure asks for a timer or an operation, and the closure is one of
its arguments. -/
theorem asksFor_of_ask (hf : f.schedules = true) (hask : f.ask heap args = .ok request) :
    ∃ closure ∈ args, f.AsksFor closure request := by
  -- a network function asks for an operation
  have hstart (hother : ∀ repeating, f ≠ .setTimer repeating)
      (hrequest : ∃ closure ∈ args, ∃ r, request = .start closure r) :
      ∃ closure ∈ args, f.AsksFor closure request := by
    obtain ⟨closure, hmem, r, rfl⟩ := hrequest
    exact ⟨closure, hmem, .operation hother r⟩
  cases f with
  | clearTimer | close => cases hf
  | setTimer repeating =>
      obtain ⟨closure, hclosure, hask⟩ := exists_of_bind_eq_ok hask
      obtain ⟨delay, -, hask⟩ := exists_of_bind_eq_ok hask
      cases hask
      exact ⟨closure, mem_of_function hclosure, .timer repeating delay⟩
  | connect | listen | bind => exact hstart nofun (start_of_address hask)
  | read | receive => exact hstart nofun (start_of_receiving hask)
  | accept =>
      obtain ⟨listener, -, hask⟩ := exists_of_bind_eq_ok hask
      obtain ⟨closure, hmem, rfl⟩ := mem_of_start hask
      exact hstart nofun ⟨closure, hmem, _, rfl⟩
  | write =>
      obtain ⟨id, -, hask⟩ := exists_of_bind_eq_ok hask
      obtain ⟨data, -, hask⟩ := exists_of_bind_eq_ok hask
      obtain ⟨closure, hmem, rfl⟩ := mem_of_start hask
      exact hstart nofun ⟨closure, hmem, _, rfl⟩
  | send =>
      obtain ⟨id, -, hask⟩ := exists_of_bind_eq_ok hask
      obtain ⟨host, -, hask⟩ := exists_of_bind_eq_ok hask
      obtain ⟨port, -, hask⟩ := exists_of_bind_eq_ok hask
      obtain ⟨data, -, hask⟩ := exists_of_bind_eq_ok hask
      obtain ⟨closure, hmem, rfl⟩ := mem_of_start hask
      exact hstart nofun ⟨closure, hmem, _, rfl⟩
  | fetch =>
      obtain ⟨closure, hclosure, hask⟩ := exists_of_bind_eq_ok hask
      obtain ⟨draft, -, hask⟩ := exists_of_bind_eq_ok hask
      cases hask
      exact hstart nofun ⟨closure, mem_of_function hclosure, _, rfl⟩

/-- These are the functions that take a closure, as the guest calls them. -/
example :
    (Library.globals.filterMap fun g =>
      match g.2 with
      | .host f => if f.schedules then some g.1 else none
      | _ => none) =
    ["setTimeout", "setInterval", "tcp_connect", "tcp_listen", "tcp_accept", "tcp_read", "tcp_write",
      "udp_bind", "udp_send", "udp_recv", "http_request"] := rfl

end ScriptHost.Lua
